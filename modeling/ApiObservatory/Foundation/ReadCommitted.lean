import ApiObservatory.Foundation.Rows

/-
One table under READ COMMITTED, statement by statement.

A transaction sees the committed rows and its own uncommitted versions
(`visible`). Writing a row takes its row lock, `FOR UPDATE` takes it without
writing, and both are refused while another transaction holds it: the
statement waits (`free`). `commit` publishes the uncommitted versions of one
transaction and drops its locks; `rollback` forgets them. Two facts are
fields of the structure, so no operation can lose them: an uncommitted version
is always covered by its writer's lock, and only ids the sequence has given
out are locked.

`Keeps w` is the frame condition used by every proof over interleavings: what
transaction `w` wrote, the rows it has locked, and their committed versions
are not changed by the statements of any other transaction.
-/

namespace ApiObservatory.Foundation

universe u v

variable {Tx : Type u} {Row : Type v}

/-- A table, the uncommitted row versions of the open transactions and their
row locks. -/
structure Table (Tx : Type u) (Row : Type v) where
  rows : Rows Row
  pending : Tx → Nat → Option Row
  holder : Nat → Option Tx
  held : ∀ {t id row}, pending t id = some row → holder id = some t
  allocated : ∀ {t id}, holder id = some t → id < rows.nextId

namespace Table

/-- A table without open transactions. -/
def ofRows (rows : Rows Row) : Table Tx Row where
  rows := rows
  pending _ _ := none
  holder _ := none
  held h := nomatch h
  allocated h := nomatch h

/-- What a statement of `t` reads under `id`. -/
def visible (T : Table Tx Row) (t : Tx) (id : Nat) : Option Row :=
  (T.pending t id).or (T.rows.get id)

/-- The rows a `SELECT` of `t` returns, in id order. -/
def select (T : Table Tx Row) (t : Tx) (p : Nat → Row → Bool) : List (Nat × Row) :=
  ((List.range T.rows.nextId).filterMap fun id => (T.visible t id).map (id, ·)).filter
    fun entry => p entry.1 entry.2

section Statements

variable [DecidableEq Tx]

/-- `t` can lock the row without waiting. -/
def free (T : Table Tx Row) (t : Tx) (id : Nat) : Prop :=
  T.holder id = none ∨ T.holder id = some t

instance (T : Table Tx Row) (t : Tx) (id : Nat) : Decidable (T.free t id) := by
  unfold free; infer_instance

/-- The ids other transactions hold, which `SKIP LOCKED` leaves out. -/
def lockedIds (T : Table Tx Row) (t : Tx) : List Nat :=
  (List.range T.rows.nextId).filter fun id => !decide (T.free t id)

/-- `SELECT … FOR UPDATE` on the rows `ids`, as far as they are free. -/
def lock (T : Table Tx Row) (t : Tx) (ids : List Nat) : Table Tx Row where
  rows := T.rows
  pending := T.pending
  holder id := if id ∈ ids ∧ T.free t id ∧ id < T.rows.nextId then some t else T.holder id
  held := by
    intro t' id row h
    have owner := T.held h
    split
    · rename_i c
      rcases c.2.1 with f | f
      · rw [owner] at f; cases f
      · rw [← f, owner]
    · exact owner
  allocated := by
    intro t' id h
    split at h
    · rename_i c; exact c.2.2
    · exact T.allocated h

/-- `UPDATE` of the row `id` to the version `row`, if `t` can lock it. -/
def write (T : Table Tx Row) (t : Tx) (id : Nat) (row : Row) : Table Tx Row :=
  if c : T.free t id ∧ id < T.rows.nextId then
    { rows := T.rows
      pending := Function.update T.pending t (Function.update (T.pending t) id (some row))
      holder := Function.update T.holder id (some t)
      held := by
        intro t' i r h
        by_cases e : i = id
        · subst e
          rw [Function.update_self]
          by_cases et : t' = t
          · rw [et]
          · rw [Function.update_of_ne et] at h
            have owner := T.held h
            rcases c.1 with f | f
            · rw [owner] at f; cases f
            · rw [← f, owner]
        · rw [Function.update_of_ne e]
          by_cases et : t' = t
          · subst et
            rw [Function.update_self, Function.update_of_ne e] at h
            exact T.held h
          · rw [Function.update_of_ne et] at h
            exact T.held h
      allocated := by
        intro t' i h
        by_cases e : i = id
        · subst e; exact c.2
        · rw [Function.update_of_ne e] at h
          exact T.allocated h }
  else T

/-- `INSERT` of `row` under the next id of the sequence. The id is given out
whether or not the transaction commits. -/
def insert (T : Table Tx Row) (t : Tx) (row : Row) : Table Tx Row where
  rows := T.rows.reserve
  pending := Function.update T.pending t (Function.update (T.pending t) T.rows.nextId (some row))
  holder := Function.update T.holder T.rows.nextId (some t)
  held := by
    intro t' i r h
    by_cases et : t' = t
    · subst et
      by_cases e : i = T.rows.nextId
      · subst e; simp
      · rw [Function.update_self, Function.update_of_ne e] at h
        rw [Function.update_of_ne e]
        exact T.held h
    · rw [Function.update_of_ne et] at h
      have owner := T.held h
      rw [Function.update_of_ne (Nat.ne_of_lt (T.allocated owner))]
      exact owner
  allocated := by
    intro t' i h
    by_cases e : i = T.rows.nextId
    · subst e; exact Nat.lt_succ_self _
    · rw [Function.update_of_ne e] at h
      exact Nat.lt_succ_of_lt (T.allocated h)

/-- `UPDATE` of several rows that `t` has locked, to the versions `entries`. -/
def writeAll (T : Table Tx Row) (t : Tx) (entries : List (Nat × Row)) : Table Tx Row where
  rows := T.rows
  pending t' id :=
    if t' = t ∧ T.holder id = some t then (entries.lookup id).or (T.pending t' id)
    else T.pending t' id
  holder := T.holder
  held := by
    intro t' id row h
    split at h
    · rename_i c; rw [c.1]; exact c.2
    · exact T.held h
  allocated := T.allocated

/-- Another open transaction has written a row that satisfies `p`. A statement
that depends on whether such a row exists waits for it. -/
def contested (T : Table Tx Row) (t : Tx) (p : Row → Bool) : Bool :=
  (List.range T.rows.nextId).any fun id =>
    match T.holder id with
    | none => false
    | some t' => decide (t' ≠ t) && (T.pending t' id).any p

/-- Drop the locks and the uncommitted versions of `t`, with `rows` as the
committed rows. -/
def release (T : Table Tx Row) (t : Tx) (rows : Rows Row) (same : rows.nextId = T.rows.nextId) :
    Table Tx Row where
  rows := rows
  pending := Function.update T.pending t fun _ => none
  holder id := if T.holder id = some t then none else T.holder id
  held := by
    intro t' id row h
    by_cases e : t' = t
    · subst e; rw [Function.update_self] at h; cases h
    · rw [Function.update_of_ne e] at h
      have owner := T.held h
      rw [if_neg (by rw [owner]; simpa using e), owner]
  allocated := by
    intro t' id h
    split at h
    · cases h
    · rw [same]; exact T.allocated h

/-- The committed rows once the uncommitted versions of `t` are published. -/
def published (T : Table Tx Row) (t : Tx) : Rows Row where
  get := T.visible t
  nextId := T.rows.nextId
  unused id h := by
    cases p : T.pending t id with
    | none => simp [visible, p, T.rows.unused id h]
    | some row => exact absurd (T.allocated (T.held p)) (Nat.not_lt.mpr h)

/-- `COMMIT` of `t`. -/
def commit (T : Table Tx Row) (t : Tx) : Table Tx Row :=
  T.release t (T.published t) rfl

/-- `ROLLBACK` of `t`, also what a crash of its session amounts to. -/
def rollback (T : Table Tx Row) (t : Tx) : Table Tx Row :=
  T.release t T.rows rfl

end Statements

/-! ### What each statement does -/

@[simp] theorem rows_ofRows (rows : Rows Row) : (ofRows rows : Table Tx Row).rows = rows := rfl

@[simp] theorem pending_ofRows (rows : Rows Row) (t : Tx) (id : Nat) :
    (ofRows rows : Table Tx Row).pending t id = none := rfl

@[simp] theorem holder_ofRows (rows : Rows Row) (id : Nat) :
    (ofRows rows : Table Tx Row).holder id = none := rfl

theorem pending_eq_none {T : Table Tx Row} {t : Tx} {id : Nat} (h : T.holder id ≠ some t) :
    T.pending t id = none := by
  cases p : T.pending t id with
  | none => rfl
  | some row => exact absurd (T.held p) h

theorem visible_eq_rows {T : Table Tx Row} {t : Tx} {id : Nat} (h : T.pending t id = none) :
    T.visible t id = T.rows.get id := by
  simp [visible, h]

theorem visible_of_pending {T : Table Tx Row} {t : Tx} {id : Nat} {row : Row}
    (h : T.pending t id = some row) : T.visible t id = some row := by
  simp [visible, h]

/-- A visible row has an id the sequence has given out. -/
theorem visible_lt_nextId {T : Table Tx Row} {t : Tx} {id : Nat} {row : Row}
    (h : T.visible t id = some row) : id < T.rows.nextId := by
  cases p : T.pending t id with
  | none => exact Rows.lt_nextId ((visible_eq_rows p).symm.trans h)
  | some r => exact T.allocated (T.held p)

theorem mem_select {T : Table Tx Row} {t : Tx} {p : Nat → Row → Bool} {id : Nat} {row : Row} :
    (id, row) ∈ T.select t p ↔ T.visible t id = some row ∧ p id row = true := by
  simp only [select, List.mem_filter, List.mem_filterMap, List.mem_range,
    Option.map_eq_some_iff, Prod.mk.injEq]
  constructor
  · rintro ⟨⟨i, -, r, hr, rfl, rfl⟩, hp⟩
    exact ⟨hr, hp⟩
  · rintro ⟨h, hp⟩
    exact ⟨⟨id, visible_lt_nextId h, row, h, rfl, rfl⟩, hp⟩

section Statements

variable [DecidableEq Tx] {T : Table Tx Row} {t : Tx}

@[simp] theorem rows_lock (ids : List Nat) : (T.lock t ids).rows = T.rows := rfl

@[simp] theorem pending_lock (ids : List Nat) : (T.lock t ids).pending = T.pending := rfl

theorem free_iff_not_mem_lockedIds {id : Nat} (lt : id < T.rows.nextId) :
    T.free t id ↔ id ∉ T.lockedIds t := by
  simp [lockedIds, lt]

theorem holder_lock {ids : List Nat} {id : Nat} (mem : id ∈ ids) (hfree : T.free t id)
    (lt : id < T.rows.nextId) : (T.lock t ids).holder id = some t := by
  simp [lock, mem, hfree, lt]

@[simp] theorem rows_write (id : Nat) (row : Row) : (T.write t id row).rows = T.rows := by
  unfold write; split <;> rfl

theorem pending_write {id : Nat} (row : Row) (hfree : T.free t id) (lt : id < T.rows.nextId) :
    (T.write t id row).pending t = Function.update (T.pending t) id (some row) := by
  simp [write, hfree, lt]

theorem holder_write {id : Nat} (row : Row) (hfree : T.free t id) (lt : id < T.rows.nextId) :
    (T.write t id row).holder = Function.update T.holder id (some t) := by
  simp [write, hfree, lt]

@[simp] theorem rows_writeAll (entries : List (Nat × Row)) :
    (T.writeAll t entries).rows = T.rows := rfl

@[simp] theorem holder_writeAll (entries : List (Nat × Row)) :
    (T.writeAll t entries).holder = T.holder := rfl

/-- What a clean transaction has written after `writeAll`. -/
theorem pending_writeAll {entries : List (Nat × Row)} (clean : T.pending t = fun _ => none)
    (id : Nat) : (T.writeAll t entries).pending t id =
      if T.holder id = some t then entries.lookup id else none := by
  simp [writeAll, clean]

@[simp] theorem get_insert (row : Row) (id : Nat) :
    (T.insert t row).rows.get id = T.rows.get id := rfl

@[simp] theorem nextId_insert (row : Row) :
    (T.insert t row).rows.nextId = T.rows.nextId + 1 := rfl

@[simp] theorem pending_insert (row : Row) :
    (T.insert t row).pending t = Function.update (T.pending t) T.rows.nextId (some row) := by
  simp [insert]

@[simp] theorem get_commit (id : Nat) : (T.commit t).rows.get id = T.visible t id := rfl

@[simp] theorem nextId_commit : (T.commit t).rows.nextId = T.rows.nextId := rfl

@[simp] theorem pending_commit (id : Nat) : (T.commit t).pending t id = none := by
  simp [commit, release]

theorem holder_commit (id : Nat) : (T.commit t).holder id ≠ some t := by
  simp only [commit, release]
  split
  · simp
  · assumption

@[simp] theorem rows_rollback : (T.rollback t).rows = T.rows := rfl

@[simp] theorem pending_rollback (id : Nat) : (T.rollback t).pending t id = none := by
  simp [rollback, release]

theorem holder_rollback (id : Nat) : (T.rollback t).holder id ≠ some t := by
  simp only [rollback, release]
  split
  · simp
  · assumption

/-- A commit changes only rows its transaction holds. -/
theorem get_commit_of_not_held {id : Nat} (h : T.holder id ≠ some t) :
    (T.commit t).rows.get id = T.rows.get id :=
  visible_eq_rows (pending_eq_none h)

end Statements

/-! ### The frame of a transaction -/

/-- From `T` to `T'` nothing changed for transaction `w`: neither what it
wrote, nor the set of rows it has locked, nor their committed versions. -/
structure Keeps (w : Tx) (T T' : Table Tx Row) : Prop where
  pending : T'.pending w = T.pending w
  holder : ∀ id, T'.holder id = some w ↔ T.holder id = some w
  row : ∀ id, T.holder id = some w → T'.rows.get id = T.rows.get id

theorem Keeps.refl (w : Tx) (T : Table Tx Row) : Keeps w T T :=
  ⟨rfl, fun _ => Iff.rfl, fun _ _ => rfl⟩

theorem Keeps.trans {w : Tx} {T T' T'' : Table Tx Row} (first : Keeps w T T')
    (second : Keeps w T' T'') : Keeps w T T'' where
  pending := second.pending.trans first.pending
  holder id := (second.holder id).trans (first.holder id)
  row id h := (second.row id ((first.holder id).mpr h)).trans (first.row id h)

section Frames

variable [DecidableEq Tx] {T : Table Tx Row} {t w : Tx}

theorem keeps_lock (ne : w ≠ t) (ids : List Nat) : Keeps w T (T.lock t ids) where
  pending := rfl
  holder id := by
    simp only [lock]
    split
    · rename_i c
      constructor
      · intro h; exact absurd (Option.some.inj h).symm ne
      · intro h
        rcases c.2.1 with f | f
        · rw [h] at f; cases f
        · rw [h] at f; exact absurd (Option.some.inj f) ne
    · exact Iff.rfl
  row _ _ := rfl

theorem keeps_write (ne : w ≠ t) (id : Nat) (row : Row) : Keeps w T (T.write t id row) := by
  by_cases c : T.free t id ∧ id < T.rows.nextId
  · refine ⟨?_, fun i => ?_, fun i _ => by rw [rows_write]⟩
    · simp [write, c, ne]
    · rw [holder_write row c.1 c.2]
      by_cases e : i = id
      · subst e
        rw [Function.update_self]
        constructor
        · intro h; exact absurd (Option.some.inj h).symm ne
        · intro h
          rcases c.1 with f | f
          · rw [h] at f; cases f
          · rw [h] at f; exact absurd (Option.some.inj f) ne
      · rw [Function.update_of_ne e]
  · rw [write, dif_neg c]
    exact Keeps.refl w T

theorem keeps_writeAll (ne : w ≠ t) (entries : List (Nat × Row)) :
    Keeps w T (T.writeAll t entries) where
  pending := by funext id; simp [writeAll, ne]
  holder _ := Iff.rfl
  row _ _ := rfl

theorem keeps_insert (ne : w ≠ t) (row : Row) : Keeps w T (T.insert t row) where
  pending := by simp [insert, ne]
  holder id := by
    by_cases e : id = T.rows.nextId
    · subst e
      simp only [insert, Function.update_self]
      constructor
      · intro h; exact absurd (Option.some.inj h).symm ne
      · intro h; exact absurd (T.allocated h) (Nat.lt_irrefl _)
    · simp [insert, e]
  row _ _ := rfl

theorem keeps_release (ne : w ≠ t) (rows : Rows Row) (same : rows.nextId = T.rows.nextId)
    (get : ∀ id, T.holder id ≠ some t → rows.get id = T.rows.get id) :
    Keeps w T (T.release t rows same) where
  pending := by simp [release, ne]
  holder id := by
    simp only [release]
    split
    · rename_i c
      rw [c]
      constructor
      · intro h; cases h
      · intro h; exact absurd (Option.some.inj h).symm ne
    · exact Iff.rfl
  row id h := get id (by rw [h]; simpa using ne)

theorem keeps_commit (ne : w ≠ t) : Keeps w T (T.commit t) :=
  keeps_release ne (T.published t) rfl fun _ h => visible_eq_rows (pending_eq_none h)

theorem keeps_rollback (ne : w ≠ t) : Keeps w T (T.rollback t) :=
  keeps_release ne T.rows rfl fun _ _ => rfl

end Frames

/-! ### What a transaction has written -/

/-- `t` has no uncommitted versions. -/
def Unwritten (T : Table Tx Row) (t : Tx) : Prop := T.pending t = fun _ => none

/-- `row` under `id` is the only uncommitted version of `t`. -/
def Wrote (T : Table Tx Row) (t : Tx) (id : Nat) (row : Row) : Prop :=
  T.pending t = Function.update (fun _ => none) id (some row)

theorem Unwritten.visible {T : Table Tx Row} {t : Tx} (h : T.Unwritten t) (id : Nat) :
    T.visible t id = T.rows.get id :=
  visible_eq_rows (congrFun h id)

theorem Wrote.visible_self {T : Table Tx Row} {t : Tx} {id : Nat} {row : Row}
    (h : T.Wrote t id row) : T.visible t id = some row :=
  visible_of_pending (by rw [h, Function.update_self])

theorem Wrote.visible_of_ne {T : Table Tx Row} {t : Tx} {id i : Nat} {row : Row}
    (h : T.Wrote t id row) (ne : i ≠ id) : T.visible t i = T.rows.get i :=
  visible_eq_rows (by rw [h, Function.update_of_ne ne])

theorem Wrote.holder {T : Table Tx Row} {t : Tx} {id : Nat} {row : Row}
    (h : T.Wrote t id row) : T.holder id = some t :=
  T.held (show T.pending t id = some row by rw [h, Function.update_self])

theorem Keeps.unwritten {w : Tx} {T T' : Table Tx Row} (k : Keeps w T T') (h : T.Unwritten w) :
    T'.Unwritten w :=
  k.pending.trans h

theorem Keeps.wrote {w : Tx} {T T' : Table Tx Row} {id : Nat} {row : Row} (k : Keeps w T T')
    (h : T.Wrote w id row) : T'.Wrote w id row :=
  k.pending.trans h

theorem unwritten_ofRows (rows : Rows Row) {t : Tx} : (ofRows rows).Unwritten t := rfl

section Writes

variable [DecidableEq Tx] {T : Table Tx Row} {t : Tx}

theorem unwritten_commit : (T.commit t).Unwritten t :=
  funext pending_commit

theorem unwritten_rollback : (T.rollback t).Unwritten t :=
  funext pending_rollback

theorem Unwritten.lock (h : T.Unwritten t) (ids : List Nat) : (T.lock t ids).Unwritten t := h

theorem Unwritten.write {id : Nat} (h : T.Unwritten t) (row : Row) (unlocked : T.free t id)
    (lt : id < T.rows.nextId) : (T.write t id row).Wrote t id row := by
  rw [Wrote, pending_write row unlocked lt, h]

theorem Unwritten.insert (h : T.Unwritten t) (row : Row) :
    (T.insert t row).Wrote t T.rows.nextId row := by
  rw [Wrote, pending_insert, h]

end Writes

/-! ### Locks without `FOR UPDATE` -/

/-- Every row lock is that of a write. -/
def LocksWritten (T : Table Tx Row) : Prop :=
  ∀ {t id}, T.holder id = some t → ∃ row, T.pending t id = some row

theorem locksWritten_ofRows (rows : Rows Row) : (ofRows rows : Table Tx Row).LocksWritten :=
  nofun

section Locks

variable [DecidableEq Tx] {T : Table Tx Row} {t : Tx}

theorem LocksWritten.write (locks : T.LocksWritten) (id : Nat) (row : Row) :
    (T.write t id row).LocksWritten := by
  intro t' i held
  by_cases writes : T.free t id ∧ id < T.rows.nextId
  · by_cases same : i = id
    · subst same
      rw [holder_write row writes.1 writes.2, Function.update_self] at held
      obtain rfl := Option.some.inj held
      exact ⟨row, by rw [pending_write row writes.1 writes.2, Function.update_self]⟩
    · rw [holder_write row writes.1 writes.2, Function.update_of_ne same] at held
      obtain ⟨p, wrote⟩ := locks held
      refine ⟨p, ?_⟩
      by_cases own : t' = t
      · subst own
        rw [pending_write row writes.1 writes.2, Function.update_of_ne same, wrote]
      · rw [(keeps_write own id row).pending, wrote]
  · rw [Table.write, dif_neg writes] at held ⊢
    exact locks held

theorem LocksWritten.insert (locks : T.LocksWritten) (row : Row) :
    (T.insert t row).LocksWritten := by
  intro t' i held
  by_cases same : i = T.rows.nextId
  · subst same
    simp only [Table.insert, Function.update_self] at held
    obtain rfl := Option.some.inj held
    exact ⟨row, by rw [pending_insert, Function.update_self]⟩
  · simp only [Table.insert, Function.update_of_ne same] at held
    obtain ⟨p, wrote⟩ := locks held
    refine ⟨p, ?_⟩
    by_cases own : t' = t
    · subst own
      rw [pending_insert, Function.update_of_ne same, wrote]
    · rw [(keeps_insert own row).pending, wrote]

theorem LocksWritten.release (locks : T.LocksWritten) (rows : Rows Row)
    (same : rows.nextId = T.rows.nextId) : (T.release t rows same).LocksWritten := by
  intro t' i held
  simp only [Table.release] at held ⊢
  split at held
  · cases held
  · rename_i other
    have ne : t' ≠ t := fun own => other (own ▸ held)
    obtain ⟨p, wrote⟩ := locks held
    exact ⟨p, by rw [Function.update_of_ne ne, wrote]⟩

end Locks

end Table

end ApiObservatory.Foundation
