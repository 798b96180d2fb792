import ApiObservatory.Foundation.Run
import Mathlib.Data.List.Basic
import Mathlib.Order.Defs.PartialOrder

/-
Runs along a clock.

The labels of a run carry clock times, and no step is taken at an earlier time than the
step before it. What holds at a time is to hold at every later one, so that it can be
carried from the last step to the next.
-/

namespace ApiObservatory.Foundation

universe u v w

variable {State : Type u} {Label : Type v} {Time : Type w}
  {next : State → Label → Option State} {start s : State} {history : List (State × Label)}
  {time : Label → Time}

section Ordered

variable [Preorder Time]

/-- No step of the history is earlier than a step before it. -/
def Chronological (time : Label → Time) (history : List (State × Label)) : Prop :=
  history.Pairwise fun later earlier => time earlier.2 ≤ time later.2

/-- **The invariant rule along a clock.** What holds at every time at the start, lasts, and
is kept by every step at the step's own time holds from the last step on. -/
theorem Run.invariant_of_chronological {I : Time → List (State × Label) → State → Prop}
    (base : ∀ now, I now [] start)
    (lasts : ∀ {now later history s}, now ≤ later → I now history s → I later history s)
    (keep : ∀ {history s label s'}, I (time label) history s → next s label = some s' →
      I (time label) ((s, label) :: history) s')
    (run : Run next start history s) (ordered : Chronological time history) (now : Time)
    (last : ∀ entry ∈ history, time entry.2 ≤ now) : I now history s := by
  induction run generalizing now with
  | init => exact base now
  | snoc run step ih =>
    obtain ⟨before, ordered⟩ := List.pairwise_cons.mp ordered
    obtain ⟨here, -⟩ := List.forall_mem_cons.mp last
    exact lasts here (keep (ih ordered _ before) step)

theorem Chronological.before {entry : State × Label} (ordered : Chronological time (entry :: history)) :
    ∀ earlier ∈ history, time earlier.2 ≤ time entry.2 :=
  (List.pairwise_cons.mp ordered).1

theorem Chronological.tail {entry : State × Label} (ordered : Chronological time (entry :: history)) :
    Chronological time history :=
  (List.pairwise_cons.mp ordered).2

/-- Whether a history is in order depends on its labels. -/
theorem chronological_iff :
    Chronological time history ↔
      (history.map Prod.snd).Pairwise fun later earlier => time earlier ≤ time later := by
  rw [List.pairwise_map]
  rfl

/-- A time from which on the history is past. -/
theorem Chronological.exists_last [Nonempty Time] (ordered : Chronological time history) :
    ∃ now, ∀ entry ∈ history, time entry.2 ≤ now := by
  cases history with
  | nil => exact ⟨Classical.arbitrary Time, fun _ mem => nomatch mem⟩
  | cons entry earlier =>
    exact ⟨time entry.2, List.forall_mem_cons.mpr ⟨le_rfl, ordered.before⟩⟩

end Ordered

/-! ### The times of some steps -/

/-- The times of the steps that satisfy `p`, oldest first. -/
def timesOf (time : Label → Time) (p : State → Label → Bool) : List (State × Label) → List Time
  | [] => []
  | (s, label) :: earlier => timesOf time p earlier ++ if p s label then [time label] else []

variable {p : State → Label → Bool}

@[simp] theorem timesOf_nil : timesOf time p ([] : List (State × Label)) = [] := rfl

theorem timesOf_cons_of_true {label : Label} (yes : p s label = true) :
    timesOf time p ((s, label) :: history) = timesOf time p history ++ [time label] := by
  simp [timesOf, yes]

theorem timesOf_cons_of_false {label : Label} (no : p s label = false) :
    timesOf time p ((s, label) :: history) = timesOf time p history := by
  simp [timesOf, no]

end ApiObservatory.Foundation
