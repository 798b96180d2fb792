import ApiObservatory.Foundation.ReadCommitted

/-
A unique index under READ COMMITTED.

`key` is the indexed column; rows without a key are not in the index. The index
is checked where a key enters the table, at an `INSERT`: no other transaction
has an uncommitted row with the key, and the transaction itself sees none. An
`UPDATE` keeps the key of its row or clears it. `Indexed` is what these two
rules keep over every interleaving; its first field is the uniqueness of the
committed keys.
-/

namespace ApiObservatory.Foundation

universe u v

variable {Tx : Type u} {Row : Type v} {Key : Type}

namespace Table

/-- The index on `key` holds, with what the open transactions may do to it: an
uncommitted version of a committed row keeps or clears its key, and an inserted
row shares its key with no other uncommitted row, nor with a committed row whose
key its transaction has not cleared. -/
structure Indexed (key : Row → Option Key) (T : Table Tx Row) : Prop where
  unique : ∀ {id id' row row' k}, T.rows.get id = some row → T.rows.get id' = some row' →
    key row = some k → key row' = some k → id = id'
  cleared : ∀ {t id row p}, T.rows.get id = some row → T.pending t id = some p →
    key p = key row ∨ key p = none
  inserted : ∀ {t id p k}, T.pending t id = some p → T.rows.get id = none → key p = some k →
    (∀ {id' row}, T.rows.get id' = some row → key row = some k →
      ∃ p', T.pending t id' = some p' ∧ key p' = none) ∧
    ∀ {t' id' p'}, T.pending t' id' = some p' → key p' = some k → t' = t ∧ id' = id

variable {key : Row → Option Key}

theorem indexed_ofRows_empty : Indexed key (ofRows .empty : Table Tx Row) where
  unique stored := nomatch stored
  cleared stored := nomatch stored
  inserted wrote := nomatch wrote

theorem pending_or_stored {T : Table Tx Row} {t : Tx} {id : Nat} {row : Row}
    (h : T.visible t id = some row) :
    T.pending t id = some row ∨ (T.pending t id = none ∧ T.rows.get id = some row) := by
  cases p : T.pending t id with
  | none => exact Or.inr ⟨rfl, (visible_eq_rows p).symm.trans h⟩
  | some row' => exact Or.inl ((visible_of_pending p).symm.trans h)

/-- What a transaction sees of a committed row has its key, or none. -/
theorem Indexed.visible_key {T : Table Tx Row} (h : Indexed key T) {t : Tx} {id : Nat}
    {row seen : Row} (stored : T.rows.get id = some row) (visible : T.visible t id = some seen) :
    key seen = key row ∨ key seen = none := by
  rcases pending_or_stored visible with wrote | ⟨-, same⟩
  · exact h.cleared stored wrote
  · cases stored.symm.trans same
    exact Or.inl rfl

/-- **Every transaction sees unique keys.** -/
theorem Indexed.visible_unique {T : Table Tx Row} (h : Indexed key T) {t : Tx} {id id' : Nat}
    {row row' : Row} {k : Key} (seen : T.visible t id = some row)
    (seen' : T.visible t id' = some row') (keyed : key row = some k)
    (keyed' : key row' = some k) : id = id' := by
  -- An inserted row excludes every other visible row with its key.
  have inserted : ∀ {i i' r r'}, T.rows.get i = none → T.visible t i = some r →
      T.visible t i' = some r' → key r = some k → key r' = some k → i' = i := by
    intro i i' r r' absent sees sees' has has'
    rcases pending_or_stored sees with wrote | ⟨-, stored⟩
    · obtain ⟨committed, uncommitted⟩ := h.inserted wrote absent has
      rcases pending_or_stored sees' with wrote' | ⟨unwritten, stored'⟩
      · exact (uncommitted wrote' has').2
      · obtain ⟨p', wrote', -⟩ := committed stored' has'
        cases unwritten.symm.trans wrote'
    · cases absent.symm.trans stored
  cases stored : T.rows.get id with
  | none => exact (inserted stored seen seen' keyed keyed').symm
  | some r =>
    cases stored' : T.rows.get id' with
    | none => exact inserted stored' seen' seen keyed' keyed
    | some r' =>
      have under : key r = some k := by
        rcases h.visible_key stored seen with same | none
        · exact same.symm.trans keyed
        · cases none.symm.trans keyed
      have under' : key r' = some k := by
        rcases h.visible_key stored' seen' with same | none
        · exact same.symm.trans keyed'
        · cases none.symm.trans keyed'
      exact h.unique stored stored' under under'

section Statements

variable [DecidableEq Tx] {T : Table Tx Row} {t : Tx}

/-- A write leaves the other uncommitted versions. -/
theorem pending_write_of_ne {t' : Tx} {i id : Nat} (row : Row) (ne : ¬ (t' = t ∧ i = id)) :
    (T.write t id row).pending t' i = T.pending t' i := by
  unfold write
  split
  · by_cases same : t' = t
    · subst same
      have here : i ≠ id := fun e => ne ⟨rfl, e⟩
      simp [here]
    · simp [same]
  · rfl

theorem pending_write_cases {t' : Tx} {i id : Nat} {row p : Row}
    (h : (T.write t id row).pending t' i = some p) :
    (t' = t ∧ i = id ∧ p = row) ∨ T.pending t' i = some p := by
  by_cases here : t' = t ∧ i = id
  · obtain ⟨rfl, rfl⟩ := here
    by_cases writes : T.free t' i ∧ i < T.rows.nextId
    · rw [pending_write row writes.1 writes.2, Function.update_self] at h
      exact Or.inl ⟨rfl, rfl, (Option.some.inj h).symm⟩
    · rw [write, dif_neg writes] at h
      exact Or.inr h
  · rw [pending_write_of_ne row here] at h
    exact Or.inr h

/-- What the writer sees after a write: the written row, or what it saw. -/
theorem visible_write_cases {i id : Nat} {row r : Row}
    (h : (T.write t id row).visible t i = some r) : (i = id ∧ r = row) ∨ T.visible t i = some r := by
  by_cases here : i = id
  · subst here
    by_cases writes : T.free t i ∧ i < T.rows.nextId
    · have wrote : (T.write t i row).pending t i = some row := by
        rw [pending_write row writes.1 writes.2, Function.update_self]
      rw [visible_of_pending wrote] at h
      exact Or.inl ⟨rfl, (Option.some.inj h).symm⟩
    · rw [write, dif_neg writes] at h
      exact Or.inr h
  · rw [visible, pending_write_of_ne row (fun same => here same.2), rows_write] at h
    exact Or.inr h

theorem pending_insert_cases {t' : Tx} {i : Nat} {row p : Row}
    (h : (T.insert t row).pending t' i = some p) :
    (t' = t ∧ i = T.rows.nextId ∧ p = row) ∨ T.pending t' i = some p := by
  by_cases same : t' = t
  · subst same
    rw [pending_insert] at h
    by_cases here : i = T.rows.nextId
    · subst here
      rw [Function.update_self] at h
      exact Or.inl ⟨rfl, rfl, (Option.some.inj h).symm⟩
    · rw [Function.update_of_ne here] at h
      exact Or.inr h
  · rw [(keeps_insert same row).pending] at h
    exact Or.inr h

/-- An insertion keeps the uncommitted versions there are. -/
theorem pending_insert_of_some {t' : Tx} {i : Nat} {p : Row} (row : Row)
    (h : T.pending t' i = some p) : (T.insert t row).pending t' i = some p := by
  by_cases same : t' = t
  · subst same
    rw [pending_insert, Function.update_of_ne (Nat.ne_of_lt (T.allocated (T.held h)))]
    exact h
  · rw [(keeps_insert same row).pending]
    exact h

/-- After its `COMMIT` or `ROLLBACK` a transaction has no uncommitted version. -/
theorem pending_release_cases {rows : Rows Row} {same : rows.nextId = T.rows.nextId} {t' : Tx}
    {i : Nat} {p : Row} (h : (T.release t rows same).pending t' i = some p) :
    t' ≠ t ∧ T.pending t' i = some p := by
  by_cases e : t' = t
  · subst e
    simp [release] at h
  · refine ⟨e, ?_⟩
    simpa [release, e] using h

theorem pending_commit_cases {t' : Tx} {i : Nat} {p : Row}
    (h : (T.commit t).pending t' i = some p) : t' ≠ t ∧ T.pending t' i = some p := by
  unfold commit at h
  exact pending_release_cases h

theorem pending_rollback_cases {t' : Tx} {i : Nat} {p : Row}
    (h : (T.rollback t).pending t' i = some p) : t' ≠ t ∧ T.pending t' i = some p := by
  unfold rollback at h
  exact pending_release_cases h

theorem contested_eq_false {p : Row → Bool} (h : T.contested t p = false) {t' : Tx} {id : Nat}
    {row : Row} (other : t' ≠ t) (wrote : T.pending t' id = some row) : p row = false := by
  simp only [contested, List.any_eq_false, List.mem_range] at h
  have here := h id (T.allocated (T.held wrote))
  simpa [T.held wrote, wrote, other] using here

theorem contested_eq_true {p : Row → Bool} (h : T.contested t p = true) :
    ∃ t' id row, t' ≠ t ∧ T.pending t' id = some row ∧ p row = true := by
  simp only [contested, List.any_eq_true, List.mem_range] at h
  obtain ⟨id, -, here⟩ := h
  split at here
  · cases here
  · rename_i t' held
    rw [Bool.and_eq_true, decide_eq_true_eq, Option.any_eq_true] at here
    obtain ⟨ne, row, wrote, holds⟩ := here
    exact ⟨t', id, row, ne, wrote, holds⟩

/-! ### The statements keep the index -/

/-- An `UPDATE` that keeps or clears the key. -/
theorem Indexed.write (h : Indexed key T) {id : Nat} {row stored : Row}
    (seen : T.visible t id = some stored) (unlocked : T.free t id)
    (keeps : key row = key stored ∨ key row = none) : Indexed key (T.write t id row) := by
  have keyed : ∀ {k}, key row = some k → key stored = some k := by
    intro k has
    rcases keeps with same | none
    · exact same.symm.trans has
    · cases none.symm.trans has
  have wrote : ∀ {p}, T.pending t id = some p → p = stored := fun p =>
    Option.some.inj ((visible_of_pending p).symm.trans seen)
  refine ⟨?_, ?_, ?_⟩
  · rw [rows_write]
    exact h.unique
  · intro t' i r p inRows inPending
    rw [rows_write] at inRows
    rcases pending_write_cases inPending with ⟨rfl, rfl, rfl⟩ | old
    · rcases keeps with same | none
      · rw [same]
        exact h.visible_key inRows seen
      · exact Or.inr none
    · exact h.cleared inRows old
  · intro t₁ i₁ p k inPending absent has
    simp only [rows_write] at absent ⊢
    rcases pending_write_cases inPending with ⟨rfl, rfl, rfl⟩ | old
    · -- The written row is one that this transaction has inserted.
      have own : T.pending t₁ i₁ = some stored := by
        rcases pending_or_stored seen with wrote | ⟨-, there⟩
        · exact wrote
        · cases absent.symm.trans there
      obtain ⟨committed, uncommitted⟩ := h.inserted own absent (keyed has)
      refine ⟨fun {i r} inRows hasKey => ?_, fun {t' i p'} inPending' hasKey => ?_⟩
      · obtain ⟨p', wrote', empty⟩ := committed inRows hasKey
        have ne : ¬ (t₁ = t₁ ∧ i = i₁) := by
          rintro ⟨-, rfl⟩
          cases absent.symm.trans inRows
        exact ⟨p', (pending_write_of_ne _ ne).trans wrote', empty⟩
      · rcases pending_write_cases inPending' with ⟨rfl, rfl, -⟩ | old'
        · exact ⟨rfl, rfl⟩
        · exact uncommitted old' hasKey
    · obtain ⟨committed, uncommitted⟩ := h.inserted old absent has
      refine ⟨fun {i r} inRows hasKey => ?_, fun {t' i p'} inPending' hasKey => ?_⟩
      · obtain ⟨p', wrote', empty⟩ := committed inRows hasKey
        by_cases here : t₁ = t ∧ i = id
        · obtain ⟨rfl, rfl⟩ := here
          cases wrote wrote'
          have cleared : key row = none := by
            rcases keeps with same | none
            · exact same.trans empty
            · exact none
          refine ⟨row, ?_, cleared⟩
          rw [pending_write row unlocked (visible_lt_nextId seen), Function.update_self]
        · exact ⟨p', (pending_write_of_ne _ here).trans wrote', empty⟩
      · rcases pending_write_cases inPending' with ⟨rfl, rfl, rfl⟩ | old'
        · rcases pending_or_stored seen with own | ⟨unwritten, there⟩
          · exact uncommitted own (keyed hasKey)
          · -- The row would be locked by the other transaction.
            obtain ⟨p', wrote', -⟩ := committed there (keyed hasKey)
            have holder := T.held wrote'
            rcases unlocked with free | own
            · cases free.symm.trans holder
            · cases own.symm.trans holder
              cases unwritten.symm.trans wrote'
        · exact uncommitted old' hasKey

/-- An `INSERT` that passes the check of the index. -/
theorem Indexed.insert (h : Indexed key T) {row : Row} {k : Key} (new : key row = some k)
    (others : ∀ {t' id p}, t' ≠ t → T.pending t' id = some p → key p ≠ some k)
    (unseen : ∀ {id r}, T.visible t id = some r → key r ≠ some k) :
    Indexed key (T.insert t row) := by
  have untaken : ∀ {t' id p}, T.pending t' id = some p → key p ≠ some k := by
    intro t' id p wrote
    by_cases same : t' = t
    · exact unseen (visible_of_pending (same ▸ wrote))
    · exact others same wrote
  have fresh : ∀ {i r}, T.rows.get i = some r → i ≠ T.rows.nextId :=
    fun inRows => Nat.ne_of_lt (Rows.lt_nextId inRows)
  refine ⟨h.unique, ?_, ?_⟩
  · intro t' i r p inRows inPending
    rcases pending_insert_cases inPending with ⟨-, rfl, -⟩ | old
    · exact absurd rfl (fresh inRows)
    · exact h.cleared inRows old
  · intro t₁ i₁ p k₁ inPending absent has
    rcases pending_insert_cases inPending with ⟨rfl, rfl, rfl⟩ | old
    · cases new.symm.trans has
      refine ⟨fun {i r} inRows hasKey => ?_, fun {t' i p'} inPending' hasKey => ?_⟩
      · cases wrote : T.pending t₁ i with
        | none => exact absurd hasKey (unseen ((visible_eq_rows wrote).trans inRows))
        | some p' =>
          refine ⟨p', pending_insert_of_some _ wrote, ?_⟩
          exact (h.cleared inRows wrote).resolve_left fun same =>
            untaken wrote (same.trans hasKey)
      · rcases pending_insert_cases inPending' with ⟨rfl, rfl, -⟩ | old'
        · exact ⟨rfl, rfl⟩
        · exact absurd hasKey (untaken old')
    · obtain ⟨committed, uncommitted⟩ := h.inserted old absent has
      refine ⟨fun {i r} inRows hasKey => ?_, fun {t' i p'} inPending' hasKey => ?_⟩
      · obtain ⟨p', wrote', empty⟩ := committed inRows hasKey
        exact ⟨p', pending_insert_of_some _ wrote', empty⟩
      · rcases pending_insert_cases inPending' with ⟨rfl, rfl, rfl⟩ | old'
        · cases new.symm.trans hasKey
          exact absurd has (untaken old)
        · exact uncommitted old' hasKey

theorem Indexed.commit (h : Indexed key T) : Indexed key (T.commit t) := by
  refine ⟨fun seen seen' => h.visible_unique seen seen', ?_, ?_⟩
  · intro t' i r p inRows inPending
    obtain ⟨ne, old⟩ := pending_commit_cases inPending
    refine h.cleared ?_ old
    rw [← inRows]
    refine (get_commit_of_not_held ?_).symm
    rw [T.held old]
    simpa using ne
  · intro t₁ i₁ p k inPending absent has
    obtain ⟨ne, old⟩ := pending_commit_cases inPending
    have absent₀ : T.rows.get i₁ = none := by
      rw [← absent]
      refine (get_commit_of_not_held ?_).symm
      rw [T.held old]
      simpa using ne
    obtain ⟨committed, uncommitted⟩ := h.inserted old absent₀ has
    refine ⟨fun {i r} inRows hasKey => ?_, fun {t' i p'} inPending' hasKey => ?_⟩
    · rcases pending_or_stored inRows with wrote | ⟨-, there⟩
      · exact absurd (uncommitted wrote hasKey).1.symm ne
      · obtain ⟨p', wrote', empty⟩ := committed there hasKey
        exact ⟨p', by rw [(keeps_commit ne).pending, wrote'], empty⟩
    · exact uncommitted (pending_commit_cases inPending').2 hasKey

theorem Indexed.rollback (h : Indexed key T) : Indexed key (T.rollback t) := by
  refine ⟨h.unique, ?_, ?_⟩
  · intro t' i r p inRows inPending
    exact h.cleared inRows (pending_rollback_cases inPending).2
  · intro t₁ i₁ p k inPending absent has
    obtain ⟨ne, old⟩ := pending_rollback_cases inPending
    obtain ⟨committed, uncommitted⟩ := h.inserted old absent has
    refine ⟨fun {i r} inRows hasKey => ?_, fun {t' i p'} inPending' hasKey => ?_⟩
    · obtain ⟨p', wrote', empty⟩ := committed inRows hasKey
      exact ⟨p', by rw [(keeps_rollback ne).pending, wrote'], empty⟩
    · exact uncommitted (pending_rollback_cases inPending').2 hasKey

end Statements

end Table

end ApiObservatory.Foundation
