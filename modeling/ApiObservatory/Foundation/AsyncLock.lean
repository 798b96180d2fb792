import Mathlib.Data.List.Basic

/-
A fair lock of cooperative tasks.

A task that finds the lock free takes it without a suspension. Any other task waits in line, and the
first in line may take the lock once it has been released. So a task is suspended with a lock that is
not free only where somebody suspends inside a locked section: sections without a suspension leave a
free lock free (`release_take`), and nobody ever waits for it (`Free.grant`).
-/

namespace ApiObservatory.Foundation

/-- Whether the lock is held, and the tasks that wait for it, in order. -/
structure AsyncLock where
  locked : Bool := false
  waiters : List Nat := []
deriving DecidableEq

namespace AsyncLock

/-- Nobody holds the lock or waits for it. -/
def Free (lock : AsyncLock) : Prop := lock.locked = false ∧ lock.waiters = []

instance (lock : AsyncLock) : Decidable lock.Free := inferInstanceAs (Decidable (_ ∧ _))

def take (lock : AsyncLock) : AsyncLock := { lock with locked := true }

def wait (lock : AsyncLock) (task : Nat) : AsyncLock :=
  { lock with waiters := lock.waiters ++ [task] }

/-- The first in line takes a lock that nobody holds. -/
def grant (lock : AsyncLock) (task : Nat) : Option AsyncLock :=
  match lock.waiters with
  | first :: waiters => if first = task ∧ lock.locked = false then some ⟨true, waiters⟩ else none
  | [] => none

def release (lock : AsyncLock) : AsyncLock := { lock with locked := false }

/-- A task that waits is cancelled. -/
def cancel (lock : AsyncLock) (task : Nat) : AsyncLock :=
  { lock with waiters := lock.waiters.erase task }

/-- The number of tasks that hold the lock. -/
def holders (lock : AsyncLock) : Nat := if lock.locked then 1 else 0

variable {lock lock' : AsyncLock} {task : Nat}

@[simp] theorem free_new : Free {} := ⟨rfl, rfl⟩

@[simp] theorem locked_take : lock.take.locked = true := rfl

@[simp] theorem locked_wait : (lock.wait task).locked = lock.locked := rfl

@[simp] theorem locked_release : lock.release.locked = false := rfl

@[simp] theorem holders_take : lock.take.holders = 1 := rfl

@[simp] theorem holders_wait : (lock.wait task).holders = lock.holders := rfl

@[simp] theorem holders_release : lock.release.holders = 0 := rfl

theorem Free.holders (free : lock.Free) : lock.holders = 0 := by
  rw [AsyncLock.holders, free.1]
  rfl

/-- A section without a suspension leaves a free lock free. -/
theorem Free.release_take (free : lock.Free) : lock.take.release.Free := ⟨rfl, free.2⟩

theorem Free.grant (free : lock.Free) : lock.grant task = none := by
  rw [AsyncLock.grant, free.2]

/-- Who takes the lock after a wait. -/
theorem grant_eq_some (granted : lock.grant task = some lock') :
    lock.locked = false ∧ lock'.locked = true ∧ lock.waiters = task :: lock'.waiters := by
  unfold AsyncLock.grant at granted
  split at granted
  · rename_i first waiters line
    split at granted
    · rename_i here
      obtain rfl := Option.some.inj granted
      exact ⟨here.2, rfl, here.1 ▸ line⟩
    · cases granted
  · cases granted

end AsyncLock

end ApiObservatory.Foundation
