/-
Clock values and the column helpers the repositories share.

A stored timestamp is a naive UTC `datetime`. The model keeps its microsecond
count as an `Int`, so a naive value and its timezone-aware form are one number.
-/

namespace ApiObservatory

/-- `timedelta(seconds=n)` in microseconds. -/
def seconds (n : Int) : Int := n * 1000000

/-- A Python `datetime`: its wall clock, and its offset from UTC if it has one. -/
structure Datetime where
  wall : Int
  utcOffset : Option Int
deriving DecidableEq

/-- `value.replace(tzinfo=None)`: the wall clock stays as it is. -/
def Datetime.withoutTzinfo (value : Datetime) : Int := value.wall

/-- The instant a `datetime` stands for; one without an offset is taken as UTC. -/
def Datetime.instant (value : Datetime) : Int := value.wall - value.utcOffset.getD 0

/-- A `datetime` in UTC. -/
def Datetime.utc (time : Int) : Datetime := ⟨time, some 0⟩

/-- `column <= now` in SQL: a `NULL` column does not satisfy it. -/
def atOrBefore (column : Option Int) (now : Int) : Bool :=
  match column with
  | none => false
  | some t => decide (t ≤ now)

@[simp] theorem atOrBefore_none (now : Int) : atOrBefore none now = false := rfl

@[simp] theorem atOrBefore_some (t now : Int) : atOrBefore (some t) now = decide (t ≤ now) := rfl

/-- What an `UPDATE` of the session leaves in a column: a column that still has
its loaded value is not part of the statement, so the stored value stays. -/
def columnUpdate {α : Type} [DecidableEq α] (loaded changed stored : α) : α :=
  if changed = loaded then stored else changed

@[simp] theorem columnUpdate_loaded {α : Type} [DecidableEq α] (loaded changed : α) :
    columnUpdate loaded changed loaded = changed := by
  unfold columnUpdate
  split
  · rename_i same; exact same.symm
  · rfl

@[simp] theorem columnUpdate_self {α : Type} [DecidableEq α] (loaded stored : α) :
    columnUpdate loaded loaded stored = stored := if_pos rfl

theorem columnUpdate_of_ne {α : Type} [DecidableEq α] {loaded changed : α}
    (differs : changed ≠ loaded) (stored : α) : columnUpdate loaded changed stored = changed :=
  if_neg differs

/-- An update leaves the stored value or writes the new one. -/
theorem columnUpdate_eq_or {α : Type} [DecidableEq α] (loaded changed stored : α) :
    columnUpdate loaded changed stored = stored ∨
      columnUpdate loaded changed stored = changed := by
  unfold columnUpdate
  split
  · exact Or.inl rfl
  · exact Or.inr rfl

/-- The slice `text[:n]`. -/
def truncate (n : Nat) (text : String) : String := String.ofList (text.toList.take n)

end ApiObservatory
