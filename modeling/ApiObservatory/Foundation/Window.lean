import Mathlib.Data.List.Sort

/-
The first elements of an ordering.

A query that orders its rows by a key and takes the first `n` returns a row
exactly when the row is selected and fewer than `n` selected rows have a smaller
key. That needs keys that tell the rows apart.
-/

namespace ApiObservatory.Foundation

universe u v

variable {α : Type u} {κ : Type v} [LinearOrder κ] {key : α → κ}

/-- Order by a key; rows with one key keep their places. -/
def orderBy (key : α → κ) (rows : List α) : List α :=
  rows.insertionSort fun a b => key a ≤ key b

@[simp] theorem orderBy_nil (key : α → κ) : orderBy key [] = [] := rfl

@[simp] theorem orderBy_singleton (key : α → κ) (row : α) : orderBy key [row] = [row] := rfl

@[simp] theorem mem_orderBy {rows : List α} {row : α} : row ∈ orderBy key rows ↔ row ∈ rows :=
  List.mem_insertionSort _

theorem orderBy_perm (key : α → κ) (rows : List α) : (orderBy key rows).Perm rows :=
  List.perm_insertionSort _ rows

theorem orderBy_eq_nil_iff {rows : List α} : orderBy key rows = [] ↔ rows = [] :=
  ⟨fun nil => List.perm_nil.mp (nil ▸ (orderBy_perm key rows).symm),
    fun nil => by rw [nil, orderBy_nil]⟩

theorem orderBy_sorted (key : α → κ) (rows : List α) :
    (orderBy key rows).Pairwise fun a b => key a ≤ key b := by
  have total : Std.Total fun a b : α => key a ≤ key b := ⟨fun a b => le_total (key a) (key b)⟩
  have trans : IsTrans α fun a b => key a ≤ key b := ⟨fun _ _ _ => le_trans⟩
  exact List.pairwise_insertionSort _ rows

theorem orderBy_strict {rows : List α} (distinct : (rows.map key).Nodup) :
    (orderBy key rows).Pairwise fun a b => key a < key b := by
  have apart : ((orderBy key rows).map key).Nodup :=
    ((orderBy_perm key rows).map key).nodup_iff.mpr distinct
  rw [List.Nodup, List.pairwise_map] at apart
  exact ((orderBy_sorted key rows).and apart).imp fun ordered => lt_of_le_of_ne ordered.1 ordered.2

/-- **The first rows** of an ordered list are those that few rows precede. -/
theorem mem_take_iff {rows : List α} (sorted : rows.Pairwise fun a b => key a < key b) {row : α}
    {n : Nat} :
    row ∈ rows.take n ↔
      row ∈ rows ∧ (rows.filter fun other => decide (key other < key row)).length < n := by
  induction rows generalizing n with
  | nil => simp
  | cons first rest ih =>
    obtain ⟨before, later⟩ := List.pairwise_cons.mp sorted
    cases n with
    | zero => simp
    | succ n =>
      rw [List.take_succ_cons, List.mem_cons, List.mem_cons]
      by_cases same : row = first
      · subst same
        have smallest : ((row :: rest).filter fun other => decide (key other < key row)) = [] := by
          simp only [List.filter_eq_nil_iff, decide_eq_true_eq, List.mem_cons]
          rintro other (rfl | mem)
          · exact lt_irrefl _
          · exact not_lt.mpr (before other mem).le
        simp [smallest]
      · rw [or_iff_right same, or_iff_right same, ih later]
        refine and_congr_right fun mem => ?_
        have smaller : decide (key first < key row) = true := decide_eq_true (before row mem)
        rw [List.filter_cons, if_pos smaller, List.length_cons, Nat.succ_lt_succ_iff]

/-- The rows of `ORDER BY key LIMIT n`. -/
theorem mem_take_orderBy {rows : List α} (distinct : (rows.map key).Nodup) {row : α} {n : Nat} :
    row ∈ (orderBy key rows).take n ↔
      row ∈ rows ∧ (rows.filter fun other => decide (key other < key row)).length < n := by
  rw [mem_take_iff (orderBy_strict distinct), mem_orderBy,
    ((orderBy_perm key rows).filter _).length_eq]

end ApiObservatory.Foundation
