import ApiObservatory.Foundation.Run

/-
Systems with a part for each key.

A step calls one key, is answered from the part of that key, and changes no other part.
What a run answers to the calls of a key is then what the part of the key alone answers to
them, whatever is called in between.
-/

namespace ApiObservatory.Foundation

universe u v w x y

variable {State : Type u} {Label : Type v} {Key : Type w} {Part : Type x} {Out : Type y}
  {next : State → Label → Option State} {start s : State} {history : List (State × Label)}

/-- Every step is one of the part of its key. -/
structure Keyed (next : State → Label → Option State) (key : Label → Key)
    (part : State → Key → Part) (answer : State → Label → Out)
    (call : Part → Label → Out × Part) : Prop where
  answered : ∀ s label, answer s label = (call (part s (key label)) label).1
  own : ∀ {s label s'}, next s label = some s' →
    part s' (key label) = (call (part s (key label)) label).2
  other : ∀ {s label s'}, next s label = some s' → ∀ k, k ≠ key label → part s' k = part s k

/-- The calls of a part, latest first: the answers, and the part that they leave. -/
def replay (call : Part → Label → Out × Part) (part : Part) : List Label → List Out × Part
  | [] => ([], part)
  | label :: earlier =>
      let (answers, part) := replay call part earlier
      let (answer, part) := call part label
      (answer :: answers, part)

section Calls

variable [DecidableEq Key] (key : Label → Key) (k : Key)

/-- The calls of a key, latest first. -/
def callsOf (history : List (State × Label)) : List Label :=
  (history.map Prod.snd).filter fun label => decide (key label = k)

/-- The answers to the calls of a key, latest first. -/
def answersOf (answer : State → Label → Out) (history : List (State × Label)) : List Out :=
  (history.filter fun entry => decide (key entry.2 = k)).map fun entry => answer entry.1 entry.2

end Calls

variable [DecidableEq Key] {key : Label → Key} {part : State → Key → Part}
  {answer : State → Label → Out} {call : Part → Label → Out × Part}

/-- **A key is on its own**: a run answers its calls as its part alone does. -/
theorem Keyed.replay (keyed : Keyed next key part answer call) (run : Run next start history s)
    (k : Key) :
    replay call (part start k) (callsOf key k history) = (answersOf key k answer history, part s k) := by
  induction run with
  | init => rfl
  | @snoc history s s' label run step ih =>
    by_cases here : key label = k
    · subst here
      simp only [callsOf, answersOf] at ih
      simp [callsOf, answersOf, Foundation.replay, ih, keyed.answered, keyed.own step]
    · simp only [callsOf, answersOf] at ih
      simp [callsOf, answersOf, here, ih, keyed.other step k (Ne.symm here)]

/-- Two runs with the same calls of a key answer them alike. -/
theorem Keyed.answersOf_congr (keyed : Keyed next key part answer call) {k : Key} {s₁ s₂ : State}
    {first second : List (State × Label)} (run₁ : Run next start first s₁)
    (run₂ : Run next start second s₂) (same : callsOf key k first = callsOf key k second) :
    answersOf key k answer first = answersOf key k answer second := by
  have replayed := keyed.replay run₁ k
  rw [same, keyed.replay run₂ k] at replayed
  exact (congrArg Prod.fst replayed).symm

end ApiObservatory.Foundation
