import Mathlib.Algebra.Order.Field.Basic
import Mathlib.Data.List.Basic
import Mathlib.Tactic.FieldSimp
import Mathlib.Tactic.Linarith
import Mathlib.Tactic.Ring

/-
Continuous refill.

A bucket starts full and gains `rate` in every unit of time until it is full again; a grant
takes one. Its level at a time depends on the grants before it and on nothing else. While
every grant finds one, the level is never negative, and what an interval grants is at most
what the bucket holds at its start and gains in it.
-/

namespace ApiObservatory.Foundation

universe u

structure Refill (α : Type u) where
  capacity : α
  rate : α

namespace Refill

variable {α : Type u} [Field α] [LinearOrder α]

section Definitions

variable (bucket : Refill α)

/-- The level at `now`, after some grants, latest first. -/
def level : List α → α → α
  | [], _ => bucket.capacity
  | grant :: earlier, now => min bucket.capacity (level earlier grant - 1 + (now - grant) * bucket.rate)

/-- The grants are in order, and each of them finds one. -/
def Lawful : List α → Prop
  | [] => True
  | grant :: earlier =>
      1 ≤ bucket.level earlier grant ∧ (∀ other ∈ earlier, other ≤ grant) ∧ Lawful earlier

end Definitions

variable {bucket : Refill α} {grants : List α} {start finish now later : α}

theorem level_le_capacity (grants : List α) (now : α) : bucket.level grants now ≤ bucket.capacity := by
  cases grants with
  | nil => exact le_rfl
  | cons grant earlier => exact min_le_left _ _

variable [IsStrictOrderedRing α]

theorem Lawful.level_nonneg (lawful : bucket.Lawful grants) (room : 0 ≤ bucket.capacity)
    (rising : 0 ≤ bucket.rate) (past : ∀ grant ∈ grants, grant ≤ now) : 0 ≤ bucket.level grants now := by
  cases grants with
  | nil => exact room
  | cons grant earlier =>
    have elapsed : 0 ≤ (now - grant) * bucket.rate :=
      mul_nonneg (sub_nonneg.mpr (past grant List.mem_cons_self)) rising
    have found := lawful.1
    exact le_min room (by linarith)

/-- **The level only rises** between two grants, and at the rate. -/
theorem level_later (rising : 0 ≤ bucket.rate) (passed : now ≤ later) (grants : List α) :
    bucket.level grants later =
      min bucket.capacity (bucket.level grants now + (later - now) * bucket.rate) := by
  have gained : 0 ≤ (later - now) * bucket.rate := mul_nonneg (sub_nonneg.mpr passed) rising
  cases grants with
  | nil =>
    simp only [level]
    rw [min_eq_left (by linarith)]
  | cons grant earlier =>
    have full : min bucket.capacity (bucket.capacity + (later - now) * bucket.rate) = bucket.capacity :=
      min_eq_left (by linarith)
    simp only [level]
    rw [← min_add_add_right, ← min_assoc, full]
    congr 1
    ring

/-- **What an interval has granted so far** is at most what the bucket has lost. -/
theorem Lawful.count_add_level_le (lawful : bucket.Lawful grants) (rising : 0 ≤ bucket.rate)
    (past : ∀ grant ∈ grants, grant ≤ now) (begun : start ≤ now) :
    (grants.countP (fun grant => decide (start ≤ grant)) : α) + bucket.level grants now ≤
      bucket.capacity + (now - start) * bucket.rate := by
  induction grants generalizing now with
  | nil =>
    have gained : 0 ≤ (now - start) * bucket.rate := mul_nonneg (sub_nonneg.mpr begun) rising
    simpa [level] using gained
  | cons grant earlier ih =>
    obtain ⟨-, ordered, lawful⟩ := lawful
    by_cases inside : start ≤ grant
    · have before := ih lawful ordered inside
      have taken : bucket.level (grant :: earlier) now ≤
          bucket.level earlier grant - 1 + (now - grant) * bucket.rate := min_le_right _ _
      have split : (now - start) * bucket.rate =
          (now - grant) * bucket.rate + (grant - start) * bucket.rate := by ring
      rw [List.countP_cons_of_pos (by simpa using inside), Nat.cast_add, Nat.cast_one]
      linarith
    · have none : (grant :: earlier).countP (fun grant => decide (start ≤ grant)) = 0 := by
        rw [List.countP_eq_zero]
        intro other mem
        rw [decide_eq_true_eq, not_le]
        rcases List.mem_cons.mp mem with rfl | older
        · exact not_le.mp inside
        · exact (ordered other older).trans_lt (not_le.mp inside)
      have gained : 0 ≤ (now - start) * bucket.rate := mul_nonneg (sub_nonneg.mpr begun) rising
      have full : bucket.level (grant :: earlier) now ≤ bucket.capacity := level_le_capacity _ _
      rw [none, Nat.cast_zero]
      linarith

/-- **What an interval grants** is at most the capacity and what the bucket gains in it. -/
theorem Lawful.count_le (lawful : bucket.Lawful grants) (room : 0 ≤ bucket.capacity)
    (rising : 0 ≤ bucket.rate) (begun : start ≤ finish) :
    (grants.countP (fun grant => decide (start ≤ grant ∧ grant ≤ finish)) : α) ≤
      bucket.capacity + (finish - start) * bucket.rate := by
  induction grants with
  | nil =>
    have gained : 0 ≤ (finish - start) * bucket.rate := mul_nonneg (sub_nonneg.mpr begun) rising
    simpa using add_nonneg room gained
  | cons grant earlier ih =>
    by_cases inTime : grant ≤ finish
    · have past : ∀ other ∈ grant :: earlier, other ≤ finish := by
        intro other mem
        rcases List.mem_cons.mp mem with rfl | older
        · exact inTime
        · exact (lawful.2.1 other older).trans inTime
      have same : (grant :: earlier).countP (fun grant => decide (start ≤ grant ∧ grant ≤ finish)) =
          (grant :: earlier).countP fun grant => decide (start ≤ grant) :=
        List.countP_congr fun other mem => by simp [past other mem]
      have bounded := lawful.count_add_level_le rising past begun
      have nonneg := lawful.level_nonneg room rising past
      rw [same]
      linarith
    · rw [List.countP_cons_of_neg (by simp [inTime])]
      exact ih lawful.2.2

end Refill

end ApiObservatory.Foundation
