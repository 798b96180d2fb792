import ApiObservatory.Foundation.Rows

/-
Tables that agree on the rows of a kind.

`Alike p` says that two tables have the same rows satisfying `p` and give out the
same ids, `Kept p` that a later table still has exactly the rows satisfying `p`
that an earlier one had. Queries that select rows of the kind only cannot tell
alike tables apart.
-/

namespace ApiObservatory.Foundation

universe u

variable {Row : Type u} {p : Row → Prop} {t t' t'' : Rows Row} {row new old : Row} {id : Nat}

structure Alike (p : Row → Prop) (t t' : Rows Row) : Prop where
  nextId : t.nextId = t'.nextId
  rows : ∀ {id row}, p row → (t.get id = some row ↔ t'.get id = some row)

def Kept (p : Row → Prop) (t t' : Rows Row) : Prop :=
  ∀ id row, p row → (t'.get id = some row ↔ t.get id = some row)

/-! ### Alike tables -/

namespace Alike

theorem refl (p : Row → Prop) (t : Rows Row) : Alike p t t := ⟨rfl, fun _ => Iff.rfl⟩

theorem symm (alike : Alike p t t') : Alike p t' t :=
  ⟨alike.nextId.symm, fun is => (alike.rows is).symm⟩

theorem insert (alike : Alike p t t') (row : Row) : Alike p (t.insert row) (t'.insert row) := by
  refine ⟨congrArg (· + 1) alike.nextId, fun {id other} is => ?_⟩
  by_cases here : id = t.nextId
  · subst here
    rw [Rows.get_insert_self, alike.nextId, Rows.get_insert_self]
  · rw [Rows.get_insert_of_ne row here, Rows.get_insert_of_ne row (alike.nextId ▸ here)]
    exact alike.rows is

theorem reserve (alike : Alike p t t') : Alike p t.reserve t'.reserve :=
  ⟨congrArg (· + 1) alike.nextId, alike.rows⟩

/-- A row of another kind may as well not be there. -/
theorem insert_reserve (alike : Alike p t t') (other : ¬ p row) :
    Alike p (t.insert row) t'.reserve := by
  refine ⟨congrArg (· + 1) alike.nextId, fun {id found} is => ?_⟩
  by_cases here : id = t.nextId
  · subst here
    rw [Rows.get_insert_self]
    refine iff_of_false (fun same => ?_) fun stored => ?_
    · exact other (Option.some.inj same ▸ is)
    · exact absurd ((alike.rows is).mpr stored) (by rw [t.unused _ le_rfl]; nofun)
  · rw [Rows.get_insert_of_ne row here]
    exact alike.rows is

/-- The one row of another kind may as well be deleted. -/
theorem single (other : ¬ p row) : Alike p Rows.empty.reserve (Rows.single 1 row) := by
  refine ⟨rfl, fun {id found} is => iff_of_false nofun fun stored => ?_⟩
  by_cases here : id = 1
  · subst here
    rw [Rows.get_single] at stored
    exact other (Option.some.inj stored ▸ is)
  · rw [Rows.get_single_of_ne here] at stored
    cases stored

/-- Writing one row of the kind in both tables. -/
theorem modify (alike : Alike p t t') (stored : t.get id = some old) (is : p old) (new : Row) :
    Alike p (t.modify id fun _ => new) (t'.modify id fun _ => new) := by
  have stored' := (alike.rows is).mp stored
  refine ⟨alike.nextId, fun {i found} kind => ?_⟩
  by_cases here : i = id
  · subst here
    rw [Rows.get_modify_self, Rows.get_modify_self, stored, stored']
  · rw [Rows.get_modify_of_ne _ here, Rows.get_modify_of_ne _ here]
    exact alike.rows kind

/-- A query for rows of the kind. -/
theorem select_eq (alike : Alike p t t') {q : Nat → Row → Bool}
    (only : ∀ id row, t.get id = some row ∨ t'.get id = some row → q id row = true → p row) :
    t.select q = t'.select q := by
  refine Rows.select_congr fun id row => and_congr_left fun selected => ?_
  constructor
  · intro stored
    exact (alike.rows (only id row (.inl stored) selected)).mp stored
  · intro stored
    exact (alike.rows (only id row (.inr stored) selected)).mpr stored

end Alike

/-! ### Kept rows -/

namespace Kept

theorem refl (p : Row → Prop) (t : Rows Row) : Kept p t t := fun _ _ _ => Iff.rfl

theorem trans (first : Kept p t t') (second : Kept p t' t'') : Kept p t t'' :=
  fun id row is => (second id row is).trans (first id row is)

theorem insert (t : Rows Row) (other : ¬ p row) : Kept p t (t.insert row) := by
  intro id found is
  constructor
  · intro stored
    rcases Rows.get_insert_cases stored with ⟨-, rfl⟩ | ⟨-, before⟩
    · exact absurd is other
    · exact before
  · exact Rows.get_insert_of_some

theorem modify (stored : t.get id = some old) (other : ¬ p old) (still : ¬ p new) :
    Kept p t (t.modify id fun _ => new) := by
  intro i found is
  by_cases here : i = id
  · subst here
    rw [Rows.get_modify_self, stored, Option.map_some, Option.some.injEq, Option.some.injEq]
    refine iff_of_false (fun same => ?_) fun same => ?_
    · exact still (same ▸ is)
    · exact other (same ▸ is)
  · rw [Rows.get_modify_of_ne _ here]

end Kept

/-! ### Changes of a table -/

/-- One row written again and one row inserted, or either, or neither. -/
structure TableChange (Row : Type u) where
  modified : Option (Nat × Row) := none
  inserted : Option Row := none

namespace TableChange

variable {change : TableChange Row}

def apply (change : TableChange Row) (t : Rows Row) : Rows Row :=
  let t := match change.modified with
    | none => t
    | some (id, row) => t.modify id fun _ => row
  match change.inserted with
  | none => t
  | some row => t.insert row

/-- The change is one of rows of the kind. -/
structure Within (p : Row → Prop) (t : Rows Row) (change : TableChange Row) : Prop where
  modified : ∀ {id row}, change.modified = some (id, row) →
    p row ∧ ∃ old, t.get id = some old ∧ p old
  inserted : ∀ {row}, change.inserted = some row → p row

theorem Within.unchanged (p : Row → Prop) (t : Rows Row) : Within p t {} :=
  ⟨fun is => (by cases is), fun is => (by cases is)⟩

theorem Within.insert (t : Rows Row) (is : p row) : Within p t { inserted := some row } :=
  ⟨fun written => (by cases written), fun written => (by cases written; exact is)⟩

theorem Within.modify (stored : t.get id = some old) (was : p old) (is : p new) :
    Within p t { modified := some (id, new) } :=
  ⟨fun written => (by cases written; exact ⟨is, old, stored, was⟩),
    fun written => (by cases written)⟩

/-- A change of rows of the kind, made in alike tables. -/
theorem Within.alike (within : Within p t change) (alike : Alike p t t') :
    Alike p (change.apply t) (change.apply t') := by
  obtain ⟨modified, inserted⟩ := change
  have written : Alike p (TableChange.apply ⟨modified, none⟩ t)
      (TableChange.apply ⟨modified, none⟩ t') := by
    cases modified with
    | none => exact alike
    | some entry =>
      obtain ⟨id, new⟩ := entry
      obtain ⟨-, old, stored, is⟩ := within.modified rfl
      exact alike.modify stored is new
  cases inserted with
  | none => exact written
  | some row => exact written.insert row

/-- A change of rows of another kind. -/
theorem Within.kept {q : Row → Prop} (within : Within p t change)
    (apart : ∀ {row}, p row → ¬ q row) : Kept q t (change.apply t) := by
  obtain ⟨modified, inserted⟩ := change
  have written : Kept q t (TableChange.apply ⟨modified, none⟩ t) := by
    cases modified with
    | none => exact Kept.refl q t
    | some entry =>
      obtain ⟨id, new⟩ := entry
      obtain ⟨is, old, stored, was⟩ := within.modified rfl
      exact Kept.modify stored (apart was) (apart is)
  cases inserted with
  | none => exact written
  | some row => exact written.trans (Kept.insert _ (apart (within.inserted rfl)))

/-- The change leaves the row, written again or inserted. -/
def Writes (change : TableChange Row) (row : Row) : Prop :=
  change.inserted = some row ∨ ∃ id, change.modified = some (id, row)

@[simp] theorem writes_none (row : Row) : Writes {} row ↔ False := by simp [Writes]

@[simp] theorem writes_insert (new row : Row) :
    Writes { inserted := some new } row ↔ new = row := by
  simp [Writes]

@[simp] theorem writes_modify (id : Nat) (new row : Row) :
    Writes { modified := some (id, new) } row ↔ new = row := by
  simp [Writes]

/-- What a change leaves: a row it writes, or a row that was there. -/
theorem get_apply_cases (h : (change.apply t).get id = some row) :
    change.Writes row ∨ t.get id = some row := by
  obtain ⟨modified, inserted⟩ := change
  have before : ∀ {i found}, (TableChange.apply ⟨modified, none⟩ t).get i = some found →
      modified = some (i, found) ∨ t.get i = some found := by
    intro i found stored
    cases modified with
    | none => exact .inr stored
    | some entry =>
      obtain ⟨j, new⟩ := entry
      by_cases here : i = j
      · subst here
        simp only [apply, Rows.get_modify_self, Option.map_eq_some_iff] at stored
        obtain ⟨-, -, rfl⟩ := stored
        exact .inl rfl
      · simp only [apply, Rows.get_modify_of_ne _ here] at stored
        exact .inr stored
  have written : modified = some (id, row) ∨ t.get id = some row →
      TableChange.Writes ⟨modified, inserted⟩ row ∨ t.get id = some row :=
    Or.imp_left fun is => .inr ⟨id, is⟩
  cases inserted with
  | none => exact written (before h)
  | some new =>
    rcases Rows.get_insert_cases h with ⟨-, rfl⟩ | ⟨-, old⟩
    · exact .inl (.inl rfl)
    · exact written (before old)

/-- An insertion keeps the rows that were there. -/
theorem get_apply_of_some (inserts : change.modified = none) (stored : t.get id = some row) :
    (change.apply t).get id = some row := by
  obtain ⟨modified, inserted⟩ := change
  obtain rfl : modified = none := inserts
  cases inserted with
  | none => exact stored
  | some new => exact Rows.get_insert_of_some stored

end TableChange

end ApiObservatory.Foundation
