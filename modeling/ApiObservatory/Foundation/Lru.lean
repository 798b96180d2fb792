import Mathlib.Data.List.Nodup

/-
A cache of bounded size that drops the least recently used entry.

The entries stand in the order of their last use, the newest first, and the
structure carries that a key occurs once and that the capacity is kept.
-/

namespace ApiObservatory.Foundation

universe u v

variable {κ : Type u} {α : Type v} [DecidableEq κ] {capacity : Nat}

structure Lru (κ : Type u) (α : Type v) (capacity : Nat) where
  entries : List (κ × α)
  distinct : (entries.map Prod.fst).Nodup
  bounded : entries.length ≤ capacity

namespace Lru

def empty : Lru κ α capacity where
  entries := []
  distinct := List.nodup_nil
  bounded := Nat.zero_le _

/-- The entries under other keys. -/
def others (cache : Lru κ α capacity) (key : κ) : List (κ × α) :=
  cache.entries.filter fun entry => entry.1 ≠ key

/-- The value under a key. -/
def lookup (cache : Lru κ α capacity) (key : κ) : Option α := cache.entries.lookup key

theorem not_mem_others (cache : Lru κ α capacity) (key : κ) :
    key ∉ (cache.others key).map Prod.fst := by
  simp [others]

theorem others_distinct (cache : Lru κ α capacity) (key : κ) :
    ((cache.others key).map Prod.fst).Nodup :=
  cache.distinct.sublist (List.filter_sublist.map _)

/-- Store a value as the newest entry; the oldest one goes if there is no room. -/
def put (cache : Lru κ α capacity) (key : κ) (value : α) : Lru κ α capacity where
  entries := ((key, value) :: cache.others key).take capacity
  distinct := by
    have all : (((key, value) :: cache.others key).map Prod.fst).Nodup :=
      List.nodup_cons.mpr ⟨cache.not_mem_others key, cache.others_distinct key⟩
    exact all.sublist ((List.take_sublist _ _).map _)
  bounded := List.length_take_le _ _

/-- The value under a key, and the cache with its entry as the newest one. -/
def get (cache : Lru κ α capacity) (key : κ) : Option α × Lru κ α capacity :=
  match cache.lookup key with
  | none => (none, cache)
  | some value => (some value, cache.put key value)

def invalidate (cache : Lru κ α capacity) (key : κ) : Lru κ α capacity where
  entries := cache.others key
  distinct := cache.others_distinct key
  bounded := Nat.le_trans (List.length_filter_le _ _) cache.bounded

@[simp] theorem lookup_empty (key : κ) : (empty : Lru κ α capacity).lookup key = none := rfl

theorem lookup_others (cache : Lru κ α capacity) {key other : κ} :
    (cache.others key).lookup other = if other = key then none else cache.lookup other := by
  unfold others lookup
  induction cache.entries with
  | nil => simp
  | cons entry rest ih =>
    obtain ⟨k, value⟩ := entry
    by_cases here : other = k
    · subst here
      by_cases dropped : other = key
      · simpa [dropped] using ih
      · simp [dropped]
    · have differs : (other == k) = false := beq_eq_false_iff_ne.mpr here
      by_cases dropped : k = key
      · subst dropped
        simpa [List.lookup_cons, differs, here] using ih
      · simpa [List.lookup_cons, differs, dropped] using ih

@[simp] theorem lookup_invalidate (cache : Lru κ α capacity) (key other : κ) :
    (cache.invalidate key).lookup other = if other = key then none else cache.lookup other :=
  cache.lookup_others

/-- What is found after a value is stored: it, or an entry that was there. -/
theorem lookup_put {cache : Lru κ α capacity} {key other : κ} {value found : α}
    (h : (cache.put key value).lookup other = some found) :
    (other = key ∧ found = value) ∨ (other ≠ key ∧ cache.lookup other = some found) := by
  have kept : ((key, value) :: cache.others key).lookup other = some found := by
    obtain ⟨before, after, split, absent⟩ := List.lookup_eq_some_iff.mp h
    obtain ⟨rest, whole⟩ := List.take_prefix capacity ((key, value) :: cache.others key)
    refine List.lookup_eq_some_iff.mpr ⟨before, after ++ rest, ?_, absent⟩
    rw [← whole, show ((key, value) :: cache.others key).take capacity = _ from split]
    simp
  by_cases here : other = key
  · subst here
    simp only [List.lookup_cons_self, Option.some.injEq] at kept
    exact .inl ⟨rfl, kept.symm⟩
  · have differs : (other == key) = false := beq_eq_false_iff_ne.mpr here
    rw [List.lookup_cons, differs] at kept
    simp only [lookup_others, if_neg here] at kept
    exact .inr ⟨here, kept⟩

/-- Looking a key up changes the order only. -/
theorem lookup_get {cache : Lru κ α capacity} {key other : κ} {found : α}
    (h : (cache.get key).2.lookup other = some found) : cache.lookup other = some found := by
  unfold get at h
  cases value : cache.lookup key with
  | none => rwa [value] at h
  | some stored =>
    rw [value] at h
    rcases lookup_put h with ⟨rfl, rfl⟩ | ⟨-, there⟩
    · exact value
    · exact there

/-! ### A key by its place among the entries -/

variable {cache : Lru κ α capacity} {key : κ} {value new : α} {before after : List (κ × α)}

theorem put_entries :
    (cache.put key new).entries = ((key, new) :: cache.others key).take capacity := rfl

omit [DecidableEq κ] in
/-- A key occurs at no other place. -/
theorem keys_of_split (split : cache.entries = before ++ (key, value) :: after) :
    key ∉ before.map Prod.fst ∧ key ∉ after.map Prod.fst := by
  have distinct := cache.distinct
  rw [split, List.map_append, List.map_cons] at distinct
  obtain ⟨-, later, apart⟩ := List.nodup_append.mp distinct
  exact ⟨fun mem => apart key mem key List.mem_cons_self rfl, (List.nodup_cons.mp later).1⟩

theorem lookup_of_split (split : cache.entries = before ++ (key, value) :: after) :
    cache.lookup key = some value := by
  refine List.lookup_eq_some_iff.mpr ⟨before, after, split, ?_⟩
  intro entry mem
  have differs : key ≠ entry.1 := by
    rintro rfl
    exact (keys_of_split split).1 (List.mem_map_of_mem mem)
  exact bne_iff_ne.mpr differs

/-- Nothing is dropped with a key that is not there. -/
theorem filter_of_absent {entries : List (κ × α)} (absent : key ∉ entries.map Prod.fst) :
    entries.filter (fun entry => entry.1 ≠ key) = entries := by
  refine List.filter_eq_self.mpr fun entry mem => decide_eq_true ?_
  rintro rfl
  exact absent (List.mem_map_of_mem mem)

theorem others_of_split (split : cache.entries = before ++ (key, value) :: after) :
    cache.others key = before ++ after := by
  obtain ⟨left, right⟩ := keys_of_split split
  rw [others, split, List.filter_append, List.filter_cons_of_neg (by simp), filter_of_absent left,
    filter_of_absent right]

theorem others_of_absent (absent : key ∉ cache.entries.map Prod.fst) :
    cache.others key = cache.entries := filter_of_absent absent

/-- Storing a value under a key that is there needs no room. -/
theorem put_of_split (split : cache.entries = before ++ (key, value) :: after) :
    (cache.put key new).entries = (key, new) :: (before ++ after) := by
  have bounded := cache.bounded
  rw [split, List.length_append, List.length_cons] at bounded
  have room : ((key, new) :: (before ++ after)).length ≤ capacity := by
    simp only [List.length_cons, List.length_append]
    omega
  rw [put_entries, others_of_split split, List.take_of_length_le room]

theorem lookup_of_absent (absent : key ∉ cache.entries.map Prod.fst) :
    cache.lookup key = none := by
  refine List.lookup_eq_none_iff.mpr fun entry mem => bne_iff_ne.mpr ?_
  rintro rfl
  exact absent (List.mem_map_of_mem mem)

theorem put_of_absent (absent : key ∉ cache.entries.map Prod.fst) :
    (cache.put key new).entries = ((key, new) :: cache.entries).take capacity := by
  rw [put_entries, others_of_absent absent]

theorem get_fst (cache : Lru κ α capacity) (key : κ) : (cache.get key).1 = cache.lookup key := by
  unfold get
  cases cache.lookup key <;> rfl

end Lru

end ApiObservatory.Foundation
