/-
Two runs of a system that answers its inputs.

`step` takes a state and an input to the next state and an answer. An observer
sees the answers to some of the inputs. Two runs on the same inputs look alike
to it when a relation between their states is kept by every step and makes the
observed answers equal (the unwinding rule).
-/

namespace ApiObservatory.Foundation

universe u v w

variable {State : Type u} {Input : Type v} {Output : Type w}

/-- The answers to the observed inputs. -/
def outputs (step : State → Input → State × Output) (observed : Input → Bool) :
    State → List Input → List Output
  | _, [] => []
  | s, input :: rest =>
      if observed input then (step s input).2 :: outputs step observed (step s input).1 rest
      else outputs step observed (step s input).1 rest

/-- The state after some inputs. -/
def stateAfter (step : State → Input → State × Output) : State → List Input → State
  | s, [] => s
  | s, input :: rest => stateAfter step (step s input).1 rest

/-- Every input meets `ok` in the state it comes in. -/
def Every (step : State → Input → State × Output) (ok : State → Input → Prop) :
    State → List Input → Prop
  | _, [] => True
  | s, input :: rest => ok s input ∧ Every step ok (step s input).1 rest

variable {step : State → Input → State × Output} {observed : Input → Bool} {s t : State}
  {inputs : List Input}

theorem Every.congr {p q : State → Input → Prop} (same : ∀ s input, p s input ↔ q s input) :
    Every step p s inputs ↔ Every step q s inputs := by
  induction inputs generalizing s with
  | nil => exact Iff.rfl
  | cons input rest ih => exact and_congr (same s input) ih

theorem Every.of_forall {p : State → Input → Prop} (all : ∀ s, ∀ input ∈ inputs, p s input) :
    Every step p s inputs := by
  induction inputs generalizing s with
  | nil => trivial
  | cons input rest ih =>
    exact ⟨all s input List.mem_cons_self,
      ih fun s input mem => all s input (List.mem_cons_of_mem _ mem)⟩

/-- **The invariant rule.** What the inputs that meet `ok` keep holds after them. -/
theorem Every.stateInvariant {ok : State → Input → Prop} {I : State → Prop} (base : I s)
    (keep : ∀ {s input}, I s → ok s input → I (step s input).1) (steps : Every step ok s inputs) :
    I (stateAfter step s inputs) := by
  induction inputs generalizing s with
  | nil => exact base
  | cons input rest ih => exact ih (keep base steps.1) steps.2

/-- What a kept invariant gives at every input holds along the run. -/
theorem Every.of_invariant {ok p : State → Input → Prop} {I : State → Prop} (base : I s)
    (keep : ∀ {s input}, I s → ok s input → I (step s input).1)
    (gives : ∀ {s input}, I s → ok s input → p s input) (steps : Every step ok s inputs) :
    Every step p s inputs := by
  induction inputs generalizing s with
  | nil => trivial
  | cons input rest ih => exact ⟨gives base steps.1, ih (keep base steps.1) steps.2⟩

/-- **The exact unwinding rule.** Let the inputs that meet `ok` keep `R`, and let the
second run meet `clean`. If the answers to an observed input in related states are
equal exactly when the first state meets `clean` too, the observer sees two equal runs
exactly when the first one meets `clean`. -/
theorem outputs_eq_iff {R : State → State → Prop} {ok clean : State → Input → Prop}
    (keep : ∀ {s t input}, R s t → ok s input → ok t input → R (step s input).1 (step t input).1)
    (same : ∀ {s t input}, R s t → observed input = true → clean t input →
      ((step s input).2 = (step t input).2 ↔ clean s input))
    (silent : ∀ {s input}, observed input = false → clean s input)
    (related : R s t) (first : Every step ok s inputs) (second : Every step ok t inputs)
    (reference : Every step clean t inputs) :
    outputs step observed s inputs = outputs step observed t inputs ↔ Every step clean s inputs := by
  induction inputs generalizing s t with
  | nil => exact iff_of_true rfl trivial
  | cons input rest ih =>
    have later := ih (keep related first.1 second.1) first.2 second.2 reference.2
    cases seen : observed input with
    | true =>
      simp only [outputs, seen, if_true, List.cons.injEq, Every]
      exact and_congr (same related seen reference.1) later
    | false =>
      simp only [outputs, seen, Bool.false_eq_true, if_false, Every]
      exact later.trans ⟨fun rest => ⟨silent seen, rest⟩, And.right⟩

/-- **The unwinding rule.** -/
theorem outputs_eq {R : State → State → Prop} {ok : State → Input → Prop}
    (keep : ∀ {s t input}, R s t → ok s input → ok t input → R (step s input).1 (step t input).1)
    (same : ∀ {s t input}, R s t → ok s input → ok t input → observed input = true →
      (step s input).2 = (step t input).2)
    (related : R s t) (first : Every step ok s inputs) (second : Every step ok t inputs) :
    outputs step observed s inputs = outputs step observed t inputs := by
  induction inputs generalizing s t with
  | nil => rfl
  | cons input rest ih =>
    have later := ih (keep related first.1 second.1) first.2 second.2
    cases seen : observed input with
    | true =>
      simp only [outputs, seen, if_true, later, same related first.1 second.1 seen]
    | false =>
      simp only [outputs, seen, Bool.false_eq_true, if_false]
      exact later

end ApiObservatory.Foundation
