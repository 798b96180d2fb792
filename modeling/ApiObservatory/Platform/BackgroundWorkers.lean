import ApiObservatory.Foundation.Run
import ApiObservatory.Foundation.Tasks
import Mathlib.Algebra.Group.Nat.Defs

/-
The pool of background workers (`services/ingestor/core/background_workers.py`), from
`start()` to `stop()`.

`submit_batch_ingest` runs without a suspension. A worker runs from one `await` to the next:
it takes a task and calls the processor, and goes on when the processor, and then the callback
of a failed task, has ended. A task id stands for its place in the order of the submissions
and so for the status object that the submission returned.
-/

namespace ApiObservatory

open Foundation

/-- The settings of the pool, and what its two functions may do: an exception that is no
`Exception`, a `CancelledError` for one, passes through the worker. -/
structure BackgroundWorkerPool where
  workerCount : Nat
  queueSize : Nat
  maxTrackedTasks : Nat
  processorAborts : Bool := false
  /-- `on_task_failed`, and whether it may raise such an exception. -/
  onTaskFailed : Option Bool := none
  workers : 1 ≤ workerCount ∧ workerCount ≤ 32 := by decide
  queue : 1 ≤ queueSize ∧ queueSize ≤ 10000 := by decide
  /-- The settings also have an upper bound, on which nothing depends. -/
  tracked : 10 ≤ maxTrackedTasks := by decide

namespace BackgroundWorkerPool

inductive TaskState where
  | queued | running | succeeded | failed | cancelled
deriving DecidableEq

/-- `BackgroundTaskStatus`. -/
structure TaskStatus where
  status : TaskState
  batchSize : Nat
  queuedAt : Int
  startedAt : Option Int := none
  finishedAt : Option Int := none
  result : Option String := none
  error : Option String := none
deriving DecidableEq

/-- Where a `_worker_loop` stands. -/
inductive Worker where
  /-- At `self._queue.get()`. -/
  | waiting
  /-- At the processor. -/
  | processing (task : Nat)
  /-- At `on_task_failed`. -/
  | notifying (task : Nat)
  /-- An exception has left the loop. -/
  | terminated
deriving DecidableEq

structure State where
  queue : List Nat := []
  /-- The keys of `_statuses`. -/
  statuses : List Nat := []
  order : List Nat := []
  workers : List Worker
  /-- The status objects of the accepted tasks. -/
  objects : List TaskStatus := []
deriving DecidableEq

/-- How the processor ends. -/
inductive Outcome where
  | returned (result : String)
  | raised (error : String)
  /-- With an exception that is no `Exception`; the flag tells a `CancelledError`. -/
  | aborted (cancelled : Bool)
deriving DecidableEq

/-- How the callback ends. -/
inductive CallbackOutcome where
  | returned | raised | aborted
deriving DecidableEq

inductive Label where
  | submit (batchSize : Nat) (now : Int)
  | take (worker : Nat) (now : Int)
  | finish (worker : Nat) (outcome : Outcome) (now : Int)
  | notified (worker : Nat) (outcome : CallbackOutcome) (now : Int)
deriving DecidableEq

section Steps

variable (pool : BackgroundWorkerPool) (state : State)

/-- `_trim_status_history`. -/
def trimStatusHistory (maxTrackedTasks : Nat) (statuses : List Nat) :
    List Nat → List Nat × List Nat
  | [] => (statuses, [])
  | oldest :: order =>
      if order.length + 1 > maxTrackedTasks then
        trimStatusHistory maxTrackedTasks (statuses.erase oldest) order
      else (statuses, oldest :: order)

/-- `submit_batch_ingest`; a full queue raises. -/
def submit (batchSize : Nat) (now : Int) : State :=
  if state.queue.length ≥ pool.queueSize then state
  else
    let task := state.objects.length
    let (statuses, order) :=
      trimStatusHistory pool.maxTrackedTasks (state.statuses ++ [task]) (state.order ++ [task])
    { state with
      statuses, order
      objects := state.objects ++ [{ status := .queued, batchSize, queuedAt := now }]
      queue := state.queue ++ [task] }

/-- `status.… = …`. -/
def update (task : Nat) (change : TaskStatus → TaskStatus) : State :=
  { state with objects := state.objects.modify task change }

def goTo (worker : Nat) (place : Worker) : State :=
  { state with workers := state.workers.set worker place }

/-- The loop up to the processor; the status of a task that is no longer tracked raises a
`KeyError`. -/
def take (worker : Nat) (now : Int) : Option State :=
  match state.workers[worker]?, state.queue with
  | some .waiting, task :: queue =>
      let state : State := { state with queue }
      if task ∈ state.statuses then
        some (goTo
          (update state task fun status => { status with status := .running, startedAt := some now })
          worker (.processing task))
      else some (goTo state worker .terminated)
  | _, _ => none

/-- The `finally` behind the processor. -/
def finished (task : Nat) (now : Int) : State :=
  update state task fun status => { status with finishedAt := some now }

/-- The processor ends. -/
def finish (worker : Nat) (outcome : Outcome) (now : Int) : Option State :=
  match state.workers[worker]? with
  | some (.processing task) =>
      match outcome with
      | .returned result =>
          let state := update state task fun status =>
            { status with status := .succeeded, result := some result }
          some (goTo (finished state task now) worker .waiting)
      | .raised error =>
          let state := update state task fun status =>
            { status with status := .failed, error := some error }
          match pool.onTaskFailed with
          | some _ => some (goTo state worker (.notifying task))
          | none => some (goTo (finished state task now) worker .waiting)
      | .aborted cancelled =>
          if pool.processorAborts then
            let state :=
              if cancelled then
                update state task fun status =>
                  { status with status := .cancelled, error := some "worker task cancelled" }
              else state
            some (goTo (finished state task now) worker .terminated)
          else none
  | _ => none

/-- The callback ends; an `Exception` is logged. -/
def notified (worker : Nat) (outcome : CallbackOutcome) (now : Int) : Option State :=
  match state.workers[worker]? with
  | some (.notifying task) =>
      match outcome with
      | .returned | .raised => some (goTo (finished state task now) worker .waiting)
      | .aborted =>
          if pool.onTaskFailed = some true then
            some (goTo (finished state task now) worker .terminated)
          else none
  | _ => none

def next : Label → Option State
  | .submit batchSize now => some (pool.submit state batchSize now)
  | .take worker now => take state worker now
  | .finish worker outcome now => pool.finish state worker outcome now
  | .notified worker outcome now => pool.notified state worker outcome now

/-- `start`. -/
def start : State where
  workers := List.replicate pool.workerCount .waiting

end Steps

/-- The task that a step calls the processor for. -/
def processorCall (state : State) : Label → Option Nat
  | .take _ _ =>
      match state.queue with
      | task :: _ => if task ∈ state.statuses then some task else none
      | [] => none
  | _ => none

/-- How often the processor has been called for a task. -/
def calls (history : List (State × Label)) (task : Nat) : Nat :=
  history.countP fun entry => processorCall entry.1 entry.2 == some task

/-- No accepted task is lost. -/
structure Sound (history : List (State × Label)) (state : State) : Prop where
  /-- No worker loop has terminated. -/
  alive : .terminated ∉ state.workers
  /-- A task is in the queue, or the processor has been called for it, once. -/
  once : ∀ task < state.objects.length, calls history task + state.queue.count task = 1
  /-- A task that waits is taken: some worker can take it, or is at another one. -/
  progress : state.queue ≠ [] → ∃ worker place, state.workers[worker]? = some place ∧
    (place = .waiting → ∀ now, (take state worker now).isSome)
  /-- When the queue is empty and the workers wait, every status is final. -/
  drained : state.queue = [] → (∀ place ∈ state.workers, place = .waiting) →
    ∀ status ∈ state.objects, (status.status = .succeeded ∨ status.status = .failed) ∧
      status.finishedAt.isSome

/-- The pool loses no accepted task, in any run. -/
def LosesNone (pool : BackgroundWorkerPool) : Prop :=
  ∀ history state, Run pool.next pool.start history state → Sound history state

end BackgroundWorkerPool

end ApiObservatory
