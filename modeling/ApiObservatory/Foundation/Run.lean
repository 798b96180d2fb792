/-
Finite runs of a labelled transition function.

A system is given by `next : State → Label → Option State`: the label fixes
every choice of one step (who moves, with which arguments, at which clock
time) and `none` says that the step is not enabled. A run keeps its history,
newest entry first, and each entry keeps the state the step was taken from.
So "the number of earlier steps that found `x`" is a count over the history,
not a ghost field of the state.
-/

namespace ApiObservatory.Foundation

universe u v w

variable {State : Type u} {Label : Type v}

/-- The finite runs of `next` from `start`. -/
inductive Run (next : State → Label → Option State) (start : State) :
    List (State × Label) → State → Prop where
  | init : Run next start [] start
  | snoc {history : List (State × Label)} {s s' : State} {label : Label} :
      Run next start history s → next s label = some s' →
      Run next start ((s, label) :: history) s'

variable {next : State → Label → Option State} {start s s' : State}
  {history : List (State × Label)}

/-- **The invariant rule with history.** What holds at the start and is kept
by every enabled step holds of every run. -/
theorem Run.invariant {I : List (State × Label) → State → Prop}
    (base : I [] start)
    (keep : ∀ {history s label s'}, Run next start history s → I history s →
      next s label = some s' → I ((s, label) :: history) s')
    (run : Run next start history s) : I history s := by
  induction run with
  | init => exact base
  | snoc run step ih => exact keep run ih step

/-- The invariant rule for a predicate of the state alone. -/
theorem Run.stateInvariant {I : State → Prop} (base : I start)
    (keep : ∀ {s label s'}, I s → next s label = some s' → I s')
    (run : Run next start history s) : I s :=
  Run.invariant (I := fun _ => I) base (fun _ h step => keep h step) run

/-- **The frame rule.** A part of the state that only the steps satisfying
`moves` change is the same at the end of a run without them. -/
theorem Run.unmoved {Part : Type w} {part : State → Part} {moves : Label → Prop}
    (frame : ∀ {s label s'}, next s label = some s' → ¬ moves label → part s' = part s)
    (run : Run next start history s) (still : ∀ entry ∈ history, ¬ moves entry.2) :
    part s = part start := by
  induction run with
  | init => rfl
  | snoc run step ih =>
    obtain ⟨here, before⟩ := List.forall_mem_cons.mp still
    exact (frame step here).trans (ih before)

/-- A step meets `ok` when the state it is taken from and its label do. -/
def Along (ok : State → Label → Prop) (history : List (State × Label)) : Prop :=
  ∀ entry ∈ history, ok entry.1 entry.2

@[simp] theorem along_nil (ok : State → Label → Prop) : Along ok [] := by
  simp [Along]

@[simp] theorem along_cons (ok : State → Label → Prop) (s : State) (label : Label) :
    Along ok ((s, label) :: history) ↔ ok s label ∧ Along ok history := by
  simp [Along]

/-- **The invariant rule under a condition on the steps.** In a run whose
steps all meet `ok`, it is enough that the steps meeting `ok` keep `I`. -/
theorem Run.invariant_of_along {I : State → Prop} {ok : State → Label → Prop}
    (base : I start)
    (keep : ∀ {s label s'}, I s → ok s label → next s label = some s' → I s')
    (run : Run next start history s) (steps : Along ok history) : I s := by
  induction run with
  | init => exact base
  | snoc run step ih =>
    rw [along_cons] at steps
    exact keep (ih steps.2) steps.1 step

/-- `next` without the steps that fail `ok`. -/
def restrict (ok : State → Label → Bool) (next : State → Label → Option State) (s : State)
    (label : Label) : Option State :=
  if ok s label then next s label else none

/-- A run of the restricted system is a run whose steps all pass. -/
theorem Run.of_restrict {ok : State → Label → Bool} (run : Run (restrict ok next) start history s) :
    Run next start history s ∧ Along (fun s label => ok s label = true) history := by
  induction run with
  | init => exact ⟨.init, along_nil _⟩
  | snoc run step ih =>
    unfold restrict at step
    split at step
    · rename_i passes
      exact ⟨ih.1.snoc step, (along_cons _ _ _).mpr ⟨passes, ih.2⟩⟩
    · cases step

/-- Two runs compose; the later history stands in front. -/
theorem Run.append {earlier later : List (State × Label)}
    (first : Run next start earlier s) (second : Run next s later s') :
    Run next start (later ++ earlier) s' := by
  induction second with
  | init => exact first
  | snoc _ step ih => exact ih.snoc step

/-! ### Properties of all states of a run -/

/-- `P` holds of every state of a run, with the history that leads to it. -/
def Throughout (P : List (State × Label) → State → Prop) : List (State × Label) → State → Prop
  | [], s => P [] s
  | (s, label) :: earlier, s' => P ((s, label) :: earlier) s' ∧ Throughout P earlier s

/-- Every step meets `ok`, which may look at the history before it. -/
def Meets (ok : List (State × Label) → State → Label → Prop) : List (State × Label) → Prop
  | [] => True
  | (s, label) :: earlier => ok earlier s label ∧ Meets ok earlier

/-- Some step satisfies `p`, which may look at the history before it. -/
def Sometime (p : List (State × Label) → State → Label → Prop) : List (State × Label) → Prop
  | [] => False
  | (s, label) :: earlier => p earlier s label ∨ Sometime p earlier

theorem Meets.mono {p q : List (State × Label) → State → Label → Prop}
    (imp : ∀ earlier s label, p earlier s label → q earlier s label) (all : Meets p history) :
    Meets q history := by
  induction history with
  | nil => trivial
  | cons entry earlier ih => exact ⟨imp _ _ _ all.1, ih all.2⟩

theorem sometime_or {p q : List (State × Label) → State → Label → Prop} :
    Sometime (fun earlier s label => p earlier s label ∨ q earlier s label) history ↔
      Sometime p history ∨ Sometime q history := by
  induction history with
  | nil => simp [Sometime]
  | cons entry earlier ih =>
    simp only [Sometime, ih]
    exact or_or_or_comm

/-- What holds when a step satisfies `p`, and is kept by every later step, holds
once some step has satisfied `p`. -/
theorem Sometime.elim {p : List (State × Label) → State → Label → Prop}
    {Q : List (State × Label) → Prop} (arises : ∀ {earlier s label}, p earlier s label → Q earlier)
    (keep : ∀ {earlier} entry, Q earlier → Q (entry :: earlier)) (found : Sometime p history) :
    Q history := by
  induction history with
  | nil => cases found
  | cons entry earlier ih =>
    rcases found with here | before
    · exact keep entry (arises here)
    · exact keep entry (ih before)

/-- Conditions that agree on the steps of every run agree on its history. -/
theorem Run.sometime_congr {p q : List (State × Label) → State → Label → Prop}
    (same : ∀ {history s label s'}, Run next start history s → next s label = some s' →
      (p history s label ↔ q history s label))
    (run : Run next start history s) : Sometime p history ↔ Sometime q history := by
  induction run with
  | init => exact Iff.rfl
  | snoc run step ih => exact or_congr (same run step) ih

theorem Run.meets_congr {p q : List (State × Label) → State → Label → Prop}
    (same : ∀ {history s label s'}, Run next start history s → next s label = some s' →
      (p history s label ↔ q history s label))
    (run : Run next start history s) : Meets p history ↔ Meets q history := by
  induction run with
  | init => exact Iff.rfl
  | snoc run step ih => exact and_congr (same run step) ih

theorem Throughout.here {P : List (State × Label) → State → Prop}
    (all : Throughout P history s) : P history s := by
  cases history with
  | nil => exact all
  | cons => exact all.1

/-- **An exact condition on the steps.** If `P` holds at the start and a step
after a history throughout which it holds keeps it exactly when the step meets
`ok`, then `P` holds throughout a run exactly when all steps meet `ok`. -/
theorem Run.throughout_iff_meets_of_throughout {P : List (State × Label) → State → Prop}
    {ok : List (State × Label) → State → Label → Prop} (base : P [] start)
    (keep : ∀ {history s label s'}, Run next start history s → Throughout P history s →
      next s label = some s' → (P ((s, label) :: history) s' ↔ ok history s label))
    (run : Run next start history s) : Throughout P history s ↔ Meets ok history := by
  induction run with
  | init => exact iff_of_true base trivial
  | snoc run step ih =>
    constructor
    · rintro ⟨here, before⟩
      exact ⟨(keep run before step).mp here, ih.mp before⟩
    · rintro ⟨here, before⟩
      have all := ih.mpr before
      exact ⟨(keep run all step).mpr here, all⟩

/-- The same, when it is enough that `P` holds before the step. -/
theorem Run.throughout_iff_meets {P : List (State × Label) → State → Prop}
    {ok : List (State × Label) → State → Label → Prop} (base : P [] start)
    (keep : ∀ {history s label s'}, Run next start history s → P history s →
      next s label = some s' → (P ((s, label) :: history) s' ↔ ok history s label))
    (run : Run next start history s) : Throughout P history s ↔ Meets ok history :=
  run.throughout_iff_meets_of_throughout base fun before all step => keep before all.here step

/-- **The same beside an invariant** that the steps meeting `ok` keep as long as `P` holds. -/
theorem Run.throughout_iff_meets_with {I P : List (State × Label) → State → Prop}
    {ok : List (State × Label) → State → Label → Prop} (begins : I [] start) (base : P [] start)
    (preserve : ∀ {history s label s'}, I history s → P history s → ok history s label →
      next s label = some s' → I ((s, label) :: history) s')
    (keep : ∀ {history s label s'}, Run next start history s → I history s → P history s →
      next s label = some s' → (P ((s, label) :: history) s' ↔ ok history s label))
    (run : Run next start history s) : Throughout P history s ↔ Meets ok history := by
  have both : (Throughout P history s ↔ Meets ok history) ∧ (Meets ok history → I history s) := by
    induction run with
    | init => exact ⟨iff_of_true base trivial, fun _ => begins⟩
    | snoc run step ih =>
      obtain ⟨same, sound⟩ := ih
      refine ⟨⟨?_, ?_⟩, ?_⟩
      · rintro ⟨here, before⟩
        have meets := same.mp before
        exact ⟨(keep run (sound meets) before.here step).mp here, meets⟩
      · rintro ⟨here, before⟩
        have all := same.mpr before
        exact ⟨(keep run (sound before) all.here step).mpr here, all⟩
      · rintro ⟨here, before⟩
        exact preserve (sound before) (same.mpr before).here here step
  exact both.1

/-! ### Executing a list of labels -/

/-- Take the labels one after another, keeping the history. -/
def execute (next : State → Label → Option State) :
    List (State × Label) → State → List Label → Option (List (State × Label) × State)
  | history, s, [] => some (history, s)
  | history, s, label :: rest =>
      match next s label with
      | none => none
      | some s' => execute next ((s, label) :: history) s' rest

theorem execute_run {labels : List Label} {earlier : List (State × Label)}
    (run : Run next start earlier s)
    (done : execute next earlier s labels = some (history, s')) :
    Run next start history s' := by
  induction labels generalizing s earlier with
  | nil =>
    simp only [execute, Option.some.injEq, Prod.mk.injEq] at done
    obtain ⟨rfl, rfl⟩ := done
    exact run
  | cons label rest ih =>
    cases step : next s label with
    | none => simp [execute, step] at done
    | some s₁ =>
      simp only [execute, step] at done
      exact ih (run.snoc step) done

/-- The history of an execution holds the labels it took. -/
theorem execute_labels {labels : List Label} {earlier : List (State × Label)}
    (done : execute next earlier s labels = some (history, s')) :
    history.map Prod.snd = labels.reverse ++ earlier.map Prod.snd := by
  induction labels generalizing s earlier with
  | nil =>
    simp only [execute, Option.some.injEq, Prod.mk.injEq] at done
    simp [done.1]
  | cons label rest ih =>
    cases step : next s label with
    | none => simp [execute, step] at done
    | some s₁ =>
      simp only [execute, step] at done
      simpa using ih done

/-- The final state of the execution of a list of labels. -/
def finalState (next : State → Label → Option State) (s : State) (labels : List Label) :
    Option State :=
  (execute next [] s labels).map Prod.snd

/-- An execution that goes through is a run. -/
theorem run_of_finalState {labels : List Label}
    (done : finalState next start labels = some s) : ∃ history, Run next start history s := by
  obtain ⟨⟨history, _⟩, executed, rfl⟩ := Option.map_eq_some_iff.mp done
  exact ⟨history, execute_run .init executed⟩

/-- An execution that is evaluated to go through yields its final state as the
end of a run. -/
theorem run_of_isSome {labels : List Label}
    (done : (finalState next start labels).isSome = true) :
    ∃ history, Run next start history ((finalState next start labels).get done) :=
  run_of_finalState (Option.some_get done).symm

/-- The run of an execution that goes through, with the labels of its steps. -/
theorem run_of_isSome_labels {labels : List Label}
    (done : (finalState next start labels).isSome = true) :
    ∃ history, Run next start history ((finalState next start labels).get done) ∧
      history.map Prod.snd = labels.reverse := by
  obtain ⟨⟨history, last⟩, executed, same⟩ :=
    Option.map_eq_some_iff.mp (Option.some_get done).symm
  refine ⟨history, same ▸ execute_run .init executed, ?_⟩
  simpa using execute_labels executed

end ApiObservatory.Foundation
