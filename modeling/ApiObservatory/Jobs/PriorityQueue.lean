import ApiObservatory.Foundation.BinaryHeap
import ApiObservatory.Foundation.Run
import Mathlib.Data.Prod.Lex
import Mathlib.Algebra.Order.Field.Rat

/-
The priority queue of ingestion commands (`services/ingestor/jobs/queue.py`).

The heap holds the effective priority that a command had when it was last computed, and a
number by arrival. Time makes the stored priorities stale, so that `dequeue` computes them
anew and makes a heap of the result before it takes the root. The numbers differ, hence no
comparison of two entries gets as far as the commands, which cannot be compared.
-/

namespace ApiObservatory.PriorityJobQueue

open Foundation
open scoped List

def PRIORITY_CRITICAL : Int := 1

/-- What the queue reads of an `IngestionCommand`. The deadline has a time zone; it stands for
its instant in microseconds. -/
structure Command (Request : Type) where
  request : Request
  priority : Int
  deadline : Option Int
deriving DecidableEq

structure Entry (Request : Type) where
  effective : Int
  ctr : Nat
  cmd : Command Request
deriving DecidableEq

structure Queue (Request : Type) where
  heap : List (Entry Request) := []
  counter : Nat := 0
deriving DecidableEq

variable {Request : Type}

/-- Tuples compare by effective priority, then by arrival. -/
def Entry.key (entry : Entry Request) : Int ×ₗ Nat := toLex (entry.effective, entry.ctr)

section Operations

/- `total_seconds` is the float that `timedelta.total_seconds` gives for a number of
microseconds. -/
variable (total_seconds : Int → Rat) (deadlineBoostSecs : Int)

/-- `_effective_priority`, with the clock at `now`. -/
def effectivePriority (now : Int) (cmd : Command Request) : Int :=
  match cmd.deadline with
  | some deadline =>
    let secsRemaining := total_seconds (deadline - now)
    if secsRemaining ≤ deadlineBoostSecs then PRIORITY_CRITICAL else cmd.priority
  | none => cmd.priority

def enqueue (now : Int) (cmd : Command Request) (queue : Queue Request) : Queue Request :=
  let effective := effectivePriority total_seconds deadlineBoostSecs now cmd
  { heap := BinaryHeap.push Entry.key queue.heap ⟨effective, queue.counter, cmd⟩
    counter := queue.counter + 1 }

/-- The entry with the effective priority that its command has at `now`. -/
def Entry.refresh (now : Int) (entry : Entry Request) : Entry Request :=
  { entry with effective := effectivePriority total_seconds deadlineBoostSecs now entry.cmd }

/-- `_rebalance` -/
def rebalance (now : Int) (queue : Queue Request) : Queue Request :=
  let updated := queue.heap.map (Entry.refresh total_seconds deadlineBoostSecs now)
  { queue with heap := BinaryHeap.heapify Entry.key updated }

def peek (queue : Queue Request) : Option (Command Request) := queue.heap.head?.map Entry.cmd

def dequeue (now : Int) (queue : Queue Request) : Option (Command Request) × Queue Request :=
  if queue.heap = [] then (none, queue)
  else
    let queue := rebalance total_seconds deadlineBoostSecs now queue
    match BinaryHeap.pop Entry.key queue.heap with
    | none => (none, queue)
    | some (entry, heap) => (some entry.cmd, { queue with heap := heap })

inductive Call (Request : Type) where
  | enqueue (now : Int) (cmd : Command Request)
  | dequeue (now : Int)
deriving DecidableEq

def next (queue : Queue Request) : Call Request → Option (Queue Request)
  | .enqueue now cmd => some (enqueue total_seconds deadlineBoostSecs now cmd queue)
  | .dequeue now => some (dequeue total_seconds deadlineBoostSecs now queue).2

end Operations

/-! ### One call -/

variable {total_seconds : Int → Rat} {deadlineBoostSecs : Int}
  {history : List (Queue Request × Call Request)} {queue : Queue Request}

variable (total_seconds deadlineBoostSecs) in
theorem dequeue_of_nil (now : Int) (empty : queue.heap = []) :
    dequeue total_seconds deadlineBoostSecs now queue = (none, queue) := by
  rw [dequeue, if_pos empty]

variable (total_seconds deadlineBoostSecs) in
/-- From a queue that is not empty, `dequeue` takes an entry that is least when all are given
their present priorities. -/
theorem dequeue_of_ne_nil (now : Int) (filled : queue.heap ≠ []) :
    ∃ entry heap, dequeue total_seconds deadlineBoostSecs now queue =
        (some entry.cmd, { queue with heap := heap }) ∧
      (entry :: heap).Perm (queue.heap.map (Entry.refresh total_seconds deadlineBoostSecs now)) ∧
      BinaryHeap.IsHeap Entry.key heap ∧ ∀ other ∈ heap, entry.key ≤ other.key := by
  rw [dequeue, if_neg filled]
  dsimp only
  have entries := BinaryHeap.heapify_perm Entry.key
    (queue.heap.map (Entry.refresh total_seconds deadlineBoostSecs now))
  have isHeap := BinaryHeap.isHeap_heapify Entry.key
    (queue.heap.map (Entry.refresh total_seconds deadlineBoostSecs now))
  cases popped : BinaryHeap.pop Entry.key
      (rebalance total_seconds deadlineBoostSecs now queue).heap with
  | none =>
    have empty : (queue.heap.map (Entry.refresh total_seconds deadlineBoostSecs now)) = [] := by
      rw [← List.nil_perm, ← (BinaryHeap.pop_eq_none Entry.key).mp popped]
      exact entries
    exact absurd (List.map_eq_nil_iff.mp empty) filled
  | some result =>
    obtain ⟨entry, heap⟩ := result
    obtain ⟨isHeap', least⟩ := isHeap.pop popped
    exact ⟨entry, heap, rfl, (BinaryHeap.pop_perm Entry.key popped).trans entries, isHeap', least⟩

/-! ### All calls -/

/-- The commands enqueued so far, in order of arrival. -/
def enqueued : List (Queue Request × Call Request) → List (Command Request)
  | [] => []
  | (_, .enqueue _ cmd) :: earlier => enqueued earlier ++ [cmd]
  | (_, .dequeue _) :: earlier => enqueued earlier

/-- The commands returned so far, in order. -/
def returned (total_seconds : Int → Rat) (deadlineBoostSecs : Int) :
    List (Queue Request × Call Request) → List (Command Request)
  | [] => []
  | (_, .enqueue _ _) :: earlier => returned total_seconds deadlineBoostSecs earlier
  | (queue, .dequeue now) :: earlier =>
    returned total_seconds deadlineBoostSecs earlier ++
      (dequeue total_seconds deadlineBoostSecs now queue).1.toList

/-- What is kept of all entries: nothing is lost, and entries are numbered by arrival. -/
structure Kept (total_seconds : Int → Rat) (deadlineBoostSecs : Int)
    (history : List (Queue Request × Call Request)) (queue : Queue Request) : Prop where
  conserved : (enqueued history).Perm
    (returned total_seconds deadlineBoostSecs history ++ queue.heap.map Entry.cmd)
  counter : queue.counter = (enqueued history).length
  numbered : ∀ entry ∈ queue.heap, (enqueued history)[entry.ctr]? = some entry.cmd
  distinct : (queue.heap.map Entry.ctr).Nodup
  isHeap : BinaryHeap.IsHeap Entry.key queue.heap

theorem kept_start : Kept total_seconds deadlineBoostSecs [] ({} : Queue Request) where
  conserved := .refl _
  counter := rfl
  numbered := by simp
  distinct := by simp
  isHeap := fun _ j _ _ => BinaryHeap.ordered_of_length_le (Nat.zero_le j)

theorem Kept.lt (kept : Kept total_seconds deadlineBoostSecs history queue) :
    ∀ entry ∈ queue.heap, entry.ctr < queue.counter := by
  intro entry mem
  rw [kept.counter]
  exact (List.getElem?_eq_some_iff.mp (kept.numbered entry mem)).1

theorem Kept.enqueue (kept : Kept total_seconds deadlineBoostSecs history queue) (now : Int)
    (cmd : Command Request) :
    Kept total_seconds deadlineBoostSecs ((queue, .enqueue now cmd) :: history)
      (enqueue total_seconds deadlineBoostSecs now cmd queue) := by
  have entries := BinaryHeap.push_perm Entry.key queue.heap
    ⟨effectivePriority total_seconds deadlineBoostSecs now cmd, queue.counter, cmd⟩
  refine ⟨?_, ?_, ?_, ?_, kept.isHeap.push _⟩
  · calc enqueued history ++ [cmd]
      _ ~ returned total_seconds deadlineBoostSecs history ++ queue.heap.map Entry.cmd ++ [cmd] :=
        kept.conserved.append_right [cmd]
      _ = returned total_seconds deadlineBoostSecs history ++ (queue.heap.map Entry.cmd ++ [cmd]) :=
        List.append_assoc ..
      _ ~ returned total_seconds deadlineBoostSecs history ++ (cmd :: queue.heap.map Entry.cmd) :=
        (List.perm_append_singleton cmd _).append_left _
      _ ~ _ := (entries.map Entry.cmd).symm.append_left _
  · rw [PriorityJobQueue.enqueue, enqueued, List.length_append, kept.counter]
    rfl
  · intro entry mem
    rcases List.mem_cons.mp (entries.subset mem) with rfl | old
    · simp [enqueued, kept.counter]
    · have inside := kept.lt entry old
      rw [kept.counter] at inside
      rw [enqueued, List.getElem?_append_left inside]
      exact kept.numbered entry old
  · refine (entries.map Entry.ctr).nodup_iff.mpr (List.nodup_cons.mpr ⟨fun mem => ?_, kept.distinct⟩)
    obtain ⟨entry, old, same⟩ := List.mem_map.mp mem
    exact Nat.ne_of_lt (kept.lt entry old) same

theorem Kept.dequeue (kept : Kept total_seconds deadlineBoostSecs history queue) (now : Int) :
    Kept total_seconds deadlineBoostSecs ((queue, .dequeue now) :: history)
      (dequeue total_seconds deadlineBoostSecs now queue).2 := by
  by_cases empty : queue.heap = []
  · have same := dequeue_of_nil total_seconds deadlineBoostSecs now empty
    refine ⟨?_, ?_, ?_, ?_, ?_⟩
    · rw [returned, same, Option.toList_none, List.append_nil]
      exact kept.conserved
    all_goals rw [same]
    · exact kept.counter
    · exact kept.numbered
    · exact kept.distinct
    · exact kept.isHeap
  · obtain ⟨entry, heap, taken, entries, isHeap, -⟩ := dequeue_of_ne_nil
      total_seconds deadlineBoostSecs now empty
    have cmds : entry.cmd :: heap.map Entry.cmd ~ queue.heap.map Entry.cmd := by
      have mapped := entries.map Entry.cmd
      rwa [List.map_map] at mapped
    have ctrs : entry.ctr :: heap.map Entry.ctr ~ queue.heap.map Entry.ctr := by
      have mapped := entries.map Entry.ctr
      rwa [List.map_map] at mapped
    refine ⟨?_, ?_, ?_, ?_, ?_⟩
    · rw [returned, taken]
      calc enqueued history
        _ ~ returned total_seconds deadlineBoostSecs history ++ queue.heap.map Entry.cmd :=
          kept.conserved
        _ ~ returned total_seconds deadlineBoostSecs history ++ (entry.cmd :: heap.map Entry.cmd) :=
          cmds.symm.append_left _
        _ = _ := by simp
    all_goals rw [taken]
    · exact kept.counter
    · intro other mem
      obtain ⟨old, found, rfl⟩ := List.mem_map.mp (entries.subset (.tail _ mem))
      exact kept.numbered old found
    · exact (List.nodup_cons.mp (ctrs.nodup_iff.mpr kept.distinct)).2
    · exact isHeap

theorem kept_of_run
    (run : Run (next total_seconds deadlineBoostSecs) {} history queue) :
    Kept total_seconds deadlineBoostSecs history queue := by
  refine run.invariant kept_start fun {history queue call queue'} _ kept step => ?_
  cases call with
  | enqueue now cmd =>
    cases step
    exact kept.enqueue now cmd
  | dequeue now =>
    cases step
    exact kept.dequeue now

/-! ### What a caller can rely on -/

/-- `entry` is served before `other` at `now`: by effective priority, then by arrival. -/
def Before (total_seconds : Int → Rat) (deadlineBoostSecs now : Int)
    (entry other : Entry Request) : Prop :=
  effectivePriority total_seconds deadlineBoostSecs now entry.cmd <
      effectivePriority total_seconds deadlineBoostSecs now other.cmd ∨
    effectivePriority total_seconds deadlineBoostSecs now entry.cmd =
        effectivePriority total_seconds deadlineBoostSecs now other.cmd ∧
      entry.ctr ≤ other.ctr

structure Fair (total_seconds : Int → Rat) (deadlineBoostSecs : Int)
    (history : List (Queue Request × Call Request)) (queue : Queue Request) : Prop where
  /-- No command is lost or duplicated. -/
  conserved : (enqueued history).Perm
    (returned total_seconds deadlineBoostSecs history ++ queue.heap.map Entry.cmd)
  /-- `ctr` is the arrival number. -/
  numbered : ∀ entry ∈ queue.heap, (enqueued history)[entry.ctr]? = some entry.cmd
  distinct : (queue.heap.map Entry.ctr).Nodup
  empty : ∀ now, (dequeue total_seconds deadlineBoostSecs now queue).1 = none ↔ queue.heap = []
  /-- What a dequeue takes is served before every other command present. -/
  least : ∀ now cmd queue', dequeue total_seconds deadlineBoostSecs now queue = (some cmd, queue') →
    ∃ entry ∈ queue.heap, entry.cmd = cmd ∧
      (queue.heap.map Entry.ctr).Perm (entry.ctr :: queue'.heap.map Entry.ctr) ∧
      ∀ other ∈ queue.heap, Before total_seconds deadlineBoostSecs now entry other

end ApiObservatory.PriorityJobQueue
