import Mathlib.Data.List.TakeWhile

/-
A latch over a growing sequence of values.

`n` consecutive values that satisfy `set` set it, a value that satisfies `clear`
clears it, and other values leave it as it is. `Latched` says so about the whole
sequence, newest value first. `latched_cons` computes it from the newest `n`
values and the latch before, which is what a program can look at.
-/

namespace ApiObservatory.Foundation

universe u

variable {α : Type u} {set clear : α → Prop} {n : Nat}

/-- `n` consecutive values have set the latch, and no later value clears it. -/
def Latched (set clear : α → Prop) (n : Nat) (values : List α) : Prop :=
  ∃ later block earlier, values = later ++ block ++ earlier ∧ block.length = n ∧
    (∀ x ∈ block, set x) ∧ ∀ x ∈ later, ¬ clear x

/-- The newest `n` values set the latch. -/
def Sets (set : α → Prop) (n : Nat) (values : List α) : Prop :=
  n ≤ values.length ∧ ∀ x ∈ values.take n, set x

theorem not_latched_nil (positive : 1 ≤ n) : ¬ Latched set clear n ([] : List α) := by
  rintro ⟨later, block, earlier, same, length, -, -⟩
  have lengths := congrArg List.length same
  simp only [List.length_nil, List.length_append] at lengths
  omega

/-- **One more value.** -/
theorem latched_cons (x : α) (values : List α) :
    Latched set clear n (x :: values) ↔
      Sets set n (x :: values) ∨ (Latched set clear n values ∧ ¬ clear x) := by
  constructor
  · rintro ⟨later, block, earlier, same, length, sets, keeps⟩
    cases later with
    | nil =>
      left
      have taken : (x :: values).take n = block := by
        rw [same, ← length, List.nil_append, List.take_left]
      refine ⟨?_, fun y mem => sets y (taken ▸ mem)⟩
      rw [same, ← length]
      simp
    | cons y later =>
      right
      obtain ⟨rfl, rfl⟩ := List.cons.inj same
      obtain ⟨keepsHere, keepsLater⟩ := List.forall_mem_cons.mp keeps
      exact ⟨⟨later, block, earlier, rfl, length, sets, keepsLater⟩, keepsHere⟩
  · rintro (⟨enough, sets⟩ | ⟨⟨later, block, earlier, rfl, length, sets, keeps⟩, keepsHere⟩)
    · refine ⟨[], (x :: values).take n, (x :: values).drop n, ?_, ?_, sets, nofun⟩
      · simp
      · rw [List.length_take]
        omega
    · exact ⟨x :: later, block, earlier, rfl, length, sets,
        List.forall_mem_cons.mpr ⟨keepsHere, keeps⟩⟩

/-! ### Cleared by every other value -/

section Run

variable {p : α → Bool}

/-- The newest values in a row that satisfy `p`. -/
def runLength (p : α → Bool) (values : List α) : Nat := (values.takeWhile p).length

@[simp] theorem runLength_nil : runLength p [] = 0 := rfl

theorem runLength_cons_of_pos {x : α} (h : p x = true) (values : List α) :
    runLength p (x :: values) = runLength p values + 1 := by
  simp [runLength, h]

theorem runLength_cons_of_neg {x : α} (h : p x = false) (values : List α) :
    runLength p (x :: values) = 0 := by
  simp [runLength, h]

/-- The newest `n` values satisfy `p` when the run is that long. -/
theorem sets_iff_le_runLength (values : List α) :
    Sets (fun x => p x = true) n values ↔ n ≤ runLength p values := by
  unfold Sets
  induction values generalizing n with
  | nil =>
    rw [runLength_nil]
    constructor
    · exact fun h => h.1
    · exact fun h => ⟨h, by simp⟩
  | cons x values ih =>
    cases n with
    | zero => simp
    | succ n =>
      rw [List.take_succ_cons, List.forall_mem_cons, List.length_cons]
      cases here : p x with
      | true =>
        rw [runLength_cons_of_pos here, Nat.add_le_add_iff_right, Nat.add_le_add_iff_right, ← ih]
        simp
      | false =>
        rw [runLength_cons_of_neg here]
        simp

end Run

end ApiObservatory.Foundation
