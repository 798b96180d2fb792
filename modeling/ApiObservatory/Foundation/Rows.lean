import Mathlib.Data.List.Range
import Mathlib.Data.List.Sort
import Mathlib.Logic.Function.Basic

/-
Tables with a serial primary key.

`Rows Row` is the content of one table: the row stored under each id, and the
value its id sequence gives out next. Ids the sequence has not given out yet
are unused, which the structure carries as a field. The enumeration `toList`
is in id order, so `ORDER BY id` and `LIMIT` are `filter` and `take` on it.
-/

namespace ApiObservatory.Foundation

universe u

variable {Row : Type u}

/-- The rows of one table under their serial ids. -/
structure Rows (Row : Type u) where
  get : Nat → Option Row
  nextId : Nat
  unused : ∀ id, nextId ≤ id → get id = none

namespace Rows

/-- The empty table. The first id is `1`, as for a fresh serial column. -/
def empty : Rows Row where
  get _ := none
  nextId := 1
  unused _ _ := rfl

/-- The table with the one row `row`. -/
def single (id : Nat) (row : Row) : Rows Row where
  get := Function.update (fun _ => none) id (some row)
  nextId := id + 1
  unused i h := by
    rw [Function.update_of_ne (by omega)]

/-- Store `row` under the next id of the sequence. -/
def insert (t : Rows Row) (row : Row) : Rows Row where
  get := Function.update t.get t.nextId (some row)
  nextId := t.nextId + 1
  unused id h := by
    rw [Function.update_of_ne (by omega)]
    exact t.unused id (by omega)

/-- Apply `f` to the row stored under `id`, if there is one: an `UPDATE` by
primary key. -/
def modify (t : Rows Row) (id : Nat) (f : Row → Row) : Rows Row where
  get := Function.update t.get id ((t.get id).map f)
  nextId := t.nextId
  unused i h := by
    by_cases e : i = id
    · subst e; simp [t.unused i h]
    · rw [Function.update_of_ne e]; exact t.unused i h

/-- Apply `f` to every row stored under one of `ids`. -/
def modifyAll (t : Rows Row) (ids : List Nat) (f : Row → Row) : Rows Row where
  get i := if i ∈ ids then (t.get i).map f else t.get i
  nextId := t.nextId
  unused i h := by simp [t.unused i h]

/-- Give out the next id without storing a row under it. -/
def reserve (t : Rows Row) : Rows Row where
  get := t.get
  nextId := t.nextId + 1
  unused id h := t.unused id (by omega)

/-- The table whose sequence is at least at `n`. -/
def reserveTo (t : Rows Row) (n : Nat) : Rows Row where
  get := t.get
  nextId := max t.nextId n
  unused id h := t.unused id (le_trans (le_max_left _ _) h)

/-- All rows in id order. -/
def toList (t : Rows Row) : List (Nat × Row) :=
  (List.range t.nextId).filterMap fun id => (t.get id).map (id, ·)

/-- The rows that satisfy `p`, in id order. -/
def select (t : Rows Row) (p : Nat → Row → Bool) : List (Nat × Row) :=
  t.toList.filter fun entry => p entry.1 entry.2

@[simp] theorem get_empty (id : Nat) : (empty : Rows Row).get id = none := rfl

@[simp] theorem get_single (id : Nat) (row : Row) : (single id row).get id = some row := by
  simp [single]

theorem get_single_of_ne {i id : Nat} {row : Row} (h : i ≠ id) : (single id row).get i = none := by
  simp [single, h]

@[simp] theorem get_insert_self (t : Rows Row) (row : Row) :
    (t.insert row).get t.nextId = some row := by
  simp [insert]

theorem get_insert_of_ne {t : Rows Row} {id : Nat} (row : Row) (h : id ≠ t.nextId) :
    (t.insert row).get id = t.get id := by
  simp [insert, h]

@[simp] theorem nextId_insert (t : Rows Row) (row : Row) :
    (t.insert row).nextId = t.nextId + 1 := rfl

@[simp] theorem get_modify_self (t : Rows Row) (id : Nat) (f : Row → Row) :
    (t.modify id f).get id = (t.get id).map f := by
  simp [modify]

theorem get_modify_of_ne {t : Rows Row} {i id : Nat} (f : Row → Row) (h : i ≠ id) :
    (t.modify id f).get i = t.get i := by
  simp [modify, h]

@[simp] theorem nextId_modify (t : Rows Row) (id : Nat) (f : Row → Row) :
    (t.modify id f).nextId = t.nextId := rfl

/-- A change of the row that was just stored. -/
theorem modify_insert_self (t : Rows Row) (row : Row) (f : Row → Row) :
    (t.insert row).modify t.nextId f = t.insert (f row) := by
  simp [modify, insert]

theorem modify_modify (t : Rows Row) (id : Nat) (f g : Row → Row) :
    (t.modify id f).modify id g = t.modify id (g ∘ f) := by
  simp [modify]

theorem toList_insert (t : Rows Row) (row : Row) :
    (t.insert row).toList = t.toList ++ [(t.nextId, row)] := by
  unfold toList
  rw [nextId_insert, List.range_succ, List.filterMap_append]
  congr 1
  · refine List.filterMap_congr fun id mem => ?_
    rw [get_insert_of_ne row (Nat.ne_of_lt (List.mem_range.mp mem))]
  · simp

theorem select_insert (t : Rows Row) (row : Row) (p : Nat → Row → Bool) :
    (t.insert row).select p = t.select p ++ if p t.nextId row then [(t.nextId, row)] else [] := by
  unfold select
  rw [toList_insert, List.filter_append, List.filter_singleton]
  cases p t.nextId row <;> rfl

/-- A stored row has an id the sequence has given out. -/
theorem lt_nextId {t : Rows Row} {id : Nat} {row : Row} (h : t.get id = some row) :
    id < t.nextId := by
  rcases Nat.lt_or_ge id t.nextId with lt | ge
  · exact lt
  · rw [t.unused id ge] at h; cases h

/-- What a lookup after an insertion can return: the new row, or an old one. -/
theorem get_insert_cases {t : Rows Row} {id : Nat} {row new : Row}
    (h : (t.insert new).get id = some row) :
    (id = t.nextId ∧ row = new) ∨ (id ≠ t.nextId ∧ t.get id = some row) := by
  by_cases e : id = t.nextId
  · subst e
    rw [get_insert_self] at h
    exact Or.inl ⟨rfl, (Option.some.inj h).symm⟩
  · rw [get_insert_of_ne new e] at h
    exact Or.inr ⟨e, h⟩

/-- An old row is still there after an insertion. -/
theorem get_insert_of_some {t : Rows Row} {id : Nat} {row new : Row}
    (h : t.get id = some row) : (t.insert new).get id = some row := by
  rw [get_insert_of_ne new (Nat.ne_of_lt (lt_nextId h)), h]

/-! ### The enumeration -/

theorem mem_toList {t : Rows Row} {id : Nat} {row : Row} :
    (id, row) ∈ t.toList ↔ t.get id = some row := by
  simp only [toList, List.mem_filterMap, List.mem_range, Option.map_eq_some_iff,
    Prod.mk.injEq]
  constructor
  · rintro ⟨i, -, r, hr, rfl, rfl⟩
    exact hr
  · intro h
    exact ⟨id, lt_nextId h, row, h, rfl, rfl⟩

theorem mem_select {t : Rows Row} {p : Nat → Row → Bool} {id : Nat} {row : Row} :
    (id, row) ∈ t.select p ↔ t.get id = some row ∧ p id row = true := by
  simp [select, mem_toList]

/-- The enumeration is in strictly increasing id order. -/
theorem toList_sorted (t : Rows Row) : t.toList.Pairwise (fun a b => a.1 < b.1) := by
  unfold toList
  rw [List.pairwise_filterMap]
  refine List.pairwise_lt_range.imp ?_
  intro i j lt a ha b hb
  obtain ⟨_, _, rfl⟩ := Option.map_eq_some_iff.mp ha
  obtain ⟨_, _, rfl⟩ := Option.map_eq_some_iff.mp hb
  exact lt

theorem select_sorted (t : Rows Row) (p : Nat → Row → Bool) :
    (t.select p).Pairwise (fun a b => a.1 < b.1) :=
  t.toList_sorted.filter _

/-- A selection names each id once. -/
theorem select_ids_nodup (t : Rows Row) (p : Nat → Row → Bool) :
    ((t.select p).map Prod.fst).Nodup := by
  rw [List.Nodup, List.pairwise_map]
  exact (t.select_sorted p).imp Nat.ne_of_lt

/-- A selection is determined by its rows. -/
theorem select_congr {t u : Rows Row} {p q : Nat → Row → Bool}
    (same : ∀ id row, (t.get id = some row ∧ p id row = true) ↔
      (u.get id = some row ∧ q id row = true)) : t.select p = u.select q := by
  have irrefl : Std.Irrefl fun a b : Nat × Row => a.1 < b.1 := ⟨fun a => Nat.lt_irrefl a.1⟩
  have antisymm : Std.Antisymm fun a b : Nat × Row => a.1 < b.1 :=
    ⟨fun a b ab ba => absurd (Nat.lt_trans ab ba) (Nat.lt_irrefl a.1)⟩
  refine (select_sorted t p).eq_of_mem_iff (select_sorted u q) fun (id, row) => ?_
  rw [mem_select, mem_select, same]

@[simp] theorem select_reserve (t : Rows Row) (p : Nat → Row → Bool) :
    t.reserve.select p = t.select p :=
  select_congr fun _ _ => Iff.rfl

theorem select_eq_nil {t : Rows Row} {p : Nat → Row → Bool}
    (none : ∀ {id row}, t.get id = some row → p id row ≠ true) : t.select p = [] := by
  refine List.eq_nil_iff_forall_not_mem.mpr fun (id, row) mem => ?_
  obtain ⟨stored, selected⟩ := mem_select.mp mem
  exact none stored selected

/-- A selection as a lookup by id. -/
theorem lookup_select (t : Rows Row) (p : Nat → Row → Bool) (id : Nat) :
    (t.select p).lookup id = (t.get id).filter (p id) := by
  ext row
  rw [Option.filter_eq_some_iff, ← mem_select]
  constructor
  · intro found
    obtain ⟨_, _, split, -⟩ := List.lookup_eq_some_iff.mp found
    rw [split]
    simp
  · intro mem
    cases found : (t.select p).lookup id with
    | none =>
      have absent := List.lookup_eq_none_iff.mp found (id, row) mem
      simp at absent
    | some row' =>
      obtain ⟨_, _, split, -⟩ := List.lookup_eq_some_iff.mp found
      have mem' : (id, row') ∈ t.select p := by rw [split]; simp
      rw [mem_select] at mem mem'
      rw [← mem'.1, mem.1]

/-- Remove the row stored under `id`: a `DELETE` by primary key. -/
def remove (t : Rows Row) (id : Nat) : Rows Row where
  get := Function.update t.get id none
  nextId := t.nextId
  unused i h := by
    by_cases e : i = id
    · subst e; simp
    · rw [Function.update_of_ne e]; exact t.unused i h

@[simp] theorem get_remove_self (t : Rows Row) (id : Nat) : (t.remove id).get id = none := by
  simp [remove]

theorem get_remove_of_ne {t : Rows Row} {i id : Nat} (h : i ≠ id) :
    (t.remove id).get i = t.get i := by
  simp [remove, h]

end Rows

end ApiObservatory.Foundation
