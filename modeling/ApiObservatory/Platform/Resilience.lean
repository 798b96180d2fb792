import ApiObservatory.Platform.Backoff
import ApiObservatory.Platform.Bulkhead
import ApiObservatory.Platform.CircuitBreaker

/-
One downstream dependency behind a bulkhead, a retry, a budget and a breaker
(`libs/platform/resilience.py`).

`call` is the case without other concurrent calls: the breaker is entered and left, and the
budget is asked, with nothing in between but the operation. Breaker times are in microseconds.
-/

namespace ApiObservatory.Resilience

open Foundation
open Backoff (Outcome Failure World Surroundings Event Report)

/-! ### `is_transient_downstream_error` -/

/-- A `status_code` attribute that is not `None`. -/
inductive StatusCode where
  | int (value : Int)
  | other
deriving DecidableEq

/-- An `Exception` of an operation, with what is read of it; an attribute that it lacks is `none`. -/
structure DownstreamError where
  message : String
  transportError : Bool := false
  statusCode : Option StatusCode := none
  responseStatusCode : Option StatusCode := none
deriving DecidableEq

/-- What is raised where an operation is called: its error, a `CircuitOpenError` or a
`CancelledError`. -/
inductive Raised where
  | downstream (error : DownstreamError)
  | circuitOpen
  | cancelled
deriving DecidableEq

/-- The exception with its attributes; the last two have none. -/
def Raised.exception : Raised → DownstreamError
  | .downstream error => error
  | .circuitOpen => { message := "Circuit is open" }
  | .cancelled => { message := "" }

def isTransientDownstreamError (raised : Raised) : Bool :=
  let error := raised.exception
  if error.transportError then true
  else
    match error.statusCode.or error.responseStatusCode with
    | some (.int statusCode) => statusCode == 429 || decide (statusCode ≥ 500)
    | _ => false

/-! ### `DependencyResilience` -/

/-- The parameters of the dependency's breaker. -/
structure Configured (breaker : CircuitBreaker Raised) : Prop where
  failureThreshold : breaker.failureThreshold = 3
  recoveryTimeout : breaker.recoveryTimeout = seconds 30
  halfOpenSuccesses : breaker.halfOpenSuccesses = 1
  isFailure : breaker.isFailure = isTransientDownstreamError

structure DependencyResilience where
  breaker : CircuitBreaker Raised
  configured : Configured breaker
  bulkhead : AsyncBulkhead
  calls : AsyncBulkhead.State := {}
  retryBudget : Option RetryBudget := none
  timestamps : List Rat := []

/-- What the operation meets: the clock when the breaker is entered, how it ends, and the clock
when the breaker is left. -/
structure Invoking (Val : Type) where
  enteredAt : Int
  outcome : Outcome Val DownstreamError
  leftAt : Int

/-- An invocation of the operation, with the breaker that admitted it and the one it leaves. -/
structure Invocation (Val : Type) where
  admitted : CircuitBreaker Raised
  outcome : Outcome Val DownstreamError
  left : CircuitBreaker Raised

/-- The breaker, and the invocations of the operation so far. -/
structure Guarded (Val : Type) where
  breaker : CircuitBreaker Raised
  invocations : List (Invocation Val) := []

section Code

variable {Val : Type}

/-- What leaves the block that guards an invocation. -/
def raisedBy : Outcome Val DownstreamError → Option Raised
  | .returned _ => none
  | .raised error => some (.downstream error)
  | .cancelled => some .cancelled

/-- How the guarded call ends for the retry around it. -/
def outcomeOf : Outcome Val DownstreamError → Outcome Val Raised
  | .returned value => .returned value
  | .raised error => .raised (.downstream error)
  | .cancelled => .cancelled

/-- `breaker_protected_operation`: `CircuitBreaker.call`. -/
def breakerProtectedOperation (world : World (Guarded Val)) (invoking : Invoking Val) :
    Outcome Val Raised × World (Guarded Val) :=
  match world.inner.breaker.enter invoking.enteredAt with
  | none => (.raised .circuitOpen, world)
  | some admitted =>
      let left := admitted.leave (raisedBy invoking.outcome) invoking.leftAt
      let invocation : Invocation Val := { admitted, outcome := invoking.outcome, left }
      (outcomeOf invoking.outcome,
        { world with
          inner := { breaker := left, invocations := world.inner.invocations ++ [invocation] } })

variable (resilience : DependencyResilience) (invoking : Nat → Invoking Val)
  (around : Nat → Surroundings)

/-- The retry of a dependency. -/
def retrying : Backoff Raised where
  maxRetries := 1
  baseDelay := 1 / 4
  maxDelay := 1 / 4
  retryBudget := resilience.retryBudget
  retryIf := some isTransientDownstreamError

/-- `_call_with_breaker`. -/
def callWithBreaker : Report (Guarded Val) Val Raised :=
  (retrying resilience).wrapper "breaker_protected_operation" breakerProtectedOperation invoking around
    { inner := { breaker := resilience.breaker }, timestamps := resilience.timestamps }

/-- What `call` gives: a result, or the `BulkheadRejectedError`; and what it does. -/
structure CallReport (Val : Type) where
  result : Option (Except (Failure Raised) Val)
  invocations : List (Invocation Val)
  events : List Event
  breaker : CircuitBreaker Raised
  timestamps : List Rat
  calls : AsyncBulkhead.State

/-- `call`, when no other call is running or waiting; `none` would be a call that waits for
another one. -/
def call : Option (CallReport Val) :=
  let caller := resilience.calls.callers.length
  let calls := resilience.bulkhead.arrive resilience.calls
  match calls.callers[caller]? with
  | some .running =>
      let report := callWithBreaker resilience invoking around
      some
        { result := some report.result
          invocations := report.world.inner.invocations
          events := report.events
          breaker := report.world.inner.breaker
          timestamps := report.world.timestamps
          calls := AsyncBulkhead.finish calls caller }
  | some .rejected =>
      some
        { result := none
          invocations := []
          events := []
          breaker := resilience.breaker
          timestamps := resilience.timestamps
          calls }
  | _ => none

end Code

/-! ### The courses of a call

A call invokes its operation once, or a second time after a transient error, for which the
budget and then the breaker are asked. -/

section Courses

variable {Val : Type} (resilience : DependencyResilience) (invoking : Nat → Invoking Val)
  (around : Nat → Surroundings)

/-- What a call gives when an invocation is the last. -/
def resultOf : Outcome Val DownstreamError → Except (Failure Raised) Val
  | .returned value => .ok value
  | .raised error => .error (.raised (.downstream error))
  | .cancelled => .error .cancelled

/-- The error that an invocation raises is retried. -/
def isTransient : Outcome Val DownstreamError → Bool
  | .raised error => isTransientDownstreamError (.downstream error)
  | _ => false

/-- An invocation that `breaker` has admitted. -/
def invocation (admitted : CircuitBreaker Raised) (invoking : Invoking Val) : Invocation Val where
  admitted
  outcome := invoking.outcome
  left := admitted.leave (raisedBy invoking.outcome) invoking.leftAt

/-- The state after some invocations. -/
def guarded (breaker : CircuitBreaker Raised) (invocations : List (Invocation Val))
    (timestamps : List Rat) : World (Guarded Val) where
  inner := { breaker, invocations }
  timestamps

/-- The answer of the budget to the first attempt. -/
def budgetAnswer : Bool × List Rat :=
  (retrying resilience).consumeRetry resilience.timestamps (around 0).now

/-- What the first attempt does when its retry is allowed. -/
def firstEvents : List Event := (retrying resilience).slept around 0

inductive Course : Report (Guarded Val) Val Raised → Prop where
  | rejected (halted : resilience.breaker.enter (invoking 0).enteredAt = none) :
      Course ⟨.error (.raised .circuitOpen), [.invoked],
        guarded resilience.breaker [] resilience.timestamps⟩
  | last {admitted : CircuitBreaker Raised}
      (entered : resilience.breaker.enter (invoking 0).enteredAt = some admitted)
      (final : isTransient (invoking 0).outcome = false) :
      Course ⟨resultOf (invoking 0).outcome, [.invoked],
        guarded (invocation admitted (invoking 0)).left [invocation admitted (invoking 0)]
          resilience.timestamps⟩
  | refused {admitted : CircuitBreaker Raised} {error : DownstreamError}
      (entered : resilience.breaker.enter (invoking 0).enteredAt = some admitted)
      (failed : (invoking 0).outcome = .raised error)
      (transient : isTransientDownstreamError (.downstream error) = true)
      (spent : (budgetAnswer resilience around).1 = false) :
      Course ⟨.error (.retryBudgetExceeded "Retry budget exhausted for breaker_protected_operation"
          (.downstream error)), [.invoked],
        guarded (invocation admitted (invoking 0)).left [invocation admitted (invoking 0)]
          (budgetAnswer resilience around).2⟩
  | asleep {admitted : CircuitBreaker Raised} {error : DownstreamError}
      (entered : resilience.breaker.enter (invoking 0).enteredAt = some admitted)
      (failed : (invoking 0).outcome = .raised error)
      (transient : isTransientDownstreamError (.downstream error) = true)
      (allowed : (budgetAnswer resilience around).1 = true)
      (cancelled : (around 0).cancelled = true) :
      Course ⟨.error .cancelled, firstEvents resilience around,
        guarded (invocation admitted (invoking 0)).left [invocation admitted (invoking 0)]
          (budgetAnswer resilience around).2⟩
  | halted {admitted : CircuitBreaker Raised} {error : DownstreamError}
      (entered : resilience.breaker.enter (invoking 0).enteredAt = some admitted)
      (failed : (invoking 0).outcome = .raised error)
      (transient : isTransientDownstreamError (.downstream error) = true)
      (allowed : (budgetAnswer resilience around).1 = true)
      (awake : (around 0).cancelled = false)
      (opened : (invocation admitted (invoking 0)).left.enter (invoking 1).enteredAt = none) :
      Course ⟨.error (.raised .circuitOpen), firstEvents resilience around ++ [.invoked],
        guarded (invocation admitted (invoking 0)).left [invocation admitted (invoking 0)]
          (budgetAnswer resilience around).2⟩
  | again {admitted readmitted : CircuitBreaker Raised} {error : DownstreamError}
      (entered : resilience.breaker.enter (invoking 0).enteredAt = some admitted)
      (failed : (invoking 0).outcome = .raised error)
      (transient : isTransientDownstreamError (.downstream error) = true)
      (allowed : (budgetAnswer resilience around).1 = true)
      (awake : (around 0).cancelled = false)
      (reentered :
        (invocation admitted (invoking 0)).left.enter (invoking 1).enteredAt = some readmitted) :
      Course ⟨resultOf (invoking 1).outcome, firstEvents resilience around ++ [.invoked],
        guarded (invocation readmitted (invoking 1)).left
          [invocation admitted (invoking 0), invocation readmitted (invoking 1)]
          (budgetAnswer resilience around).2⟩

end Courses

section Proofs

variable {Val : Type} {resilience : DependencyResilience} {invoking : Nat → Invoking Val}
  {around : Nat → Surroundings} {world : World (Guarded Val)} {admitted : CircuitBreaker Raised}
  {error : DownstreamError} {last : Option Raised}

theorem operation_rejected {input : Invoking Val}
    (closed : world.inner.breaker.enter input.enteredAt = none) :
    breakerProtectedOperation world input = (.raised .circuitOpen, world) := by
  simp only [breakerProtectedOperation, closed]

theorem operation_admitted {input : Invoking Val}
    (entered : world.inner.breaker.enter input.enteredAt = some admitted) :
    breakerProtectedOperation world input = (outcomeOf input.outcome,
      guarded (invocation admitted input).left (world.inner.invocations ++ [invocation admitted input])
        world.timestamps) := by
  simp only [breakerProtectedOperation, entered]
  rfl

theorem cancelled_not_transient : isTransientDownstreamError .cancelled = false := rfl

/-- The second attempt is the last. -/
theorem second_attempt (name : String) :
    ((retrying resilience).attempts name breakerProtectedOperation invoking around [1] last world) =
      match world.inner.breaker.enter (invoking 1).enteredAt with
      | none => ⟨.error (.raised .circuitOpen), [.invoked], world⟩
      | some readmitted => ⟨resultOf (invoking 1).outcome, [.invoked],
          guarded (invocation readmitted (invoking 1)).left
            (world.inner.invocations ++ [invocation readmitted (invoking 1)]) world.timestamps⟩ := by
  rw [Backoff.attempts]
  cases entered : world.inner.breaker.enter (invoking 1).enteredAt with
  | none =>
    rw [operation_rejected entered]
    rfl
  | some readmitted =>
    rw [operation_admitted entered]
    cases (invoking 1).outcome <;> rfl

/-- **Every call** takes one of the courses. -/
theorem course : Course resilience invoking around (callWithBreaker resilience invoking around) := by
  have whole : callWithBreaker resilience invoking around =
      (retrying resilience).attempts "breaker_protected_operation" breakerProtectedOperation invoking
        around [0, 1] none (guarded resilience.breaker [] resilience.timestamps) := rfl
  rw [whole, Backoff.attempts]
  cases entered : resilience.breaker.enter (invoking 0).enteredAt with
  | none =>
    rw [operation_rejected entered]
    exact Course.rejected entered
  | some admitted =>
    rw [operation_admitted entered]
    have last : isTransient (invoking 0).outcome = false → Course resilience invoking around
        ⟨resultOf (invoking 0).outcome, [.invoked],
          guarded (invocation admitted (invoking 0)).left [invocation admitted (invoking 0)]
            resilience.timestamps⟩ := Course.last entered
    cases outcome : (invoking 0).outcome with
    | returned value =>
      rw [outcome] at last
      exact last rfl
    | cancelled =>
      rw [outcome] at last
      exact last rfl
    | raised error =>
      have retryable : (retrying resilience).retryable (.downstream error) =
          isTransientDownstreamError (.downstream error) := rfl
      have more : decide (0 < (retrying resilience).maxRetries) = true := rfl
      simp only [outcomeOf, more, retryable, Bool.true_and]
      cases transient : isTransientDownstreamError (.downstream error) with
      | false =>
        rw [outcome] at last
        exact last transient
      | true =>
        have answer : (retrying resilience).consumeRetry resilience.timestamps (around 0).now =
            ((budgetAnswer resilience around).1, (budgetAnswer resilience around).2) := rfl
        simp only [if_true, guarded, answer]
        cases allowed : (budgetAnswer resilience around).1 with
        | false => exact Course.refused entered outcome transient allowed
        | true =>
          cases cancelled : (around 0).cancelled with
          | true => exact Course.asleep entered outcome transient allowed cancelled
          | false =>
            simp only [Bool.not_true, Bool.false_eq_true, if_false, second_attempt]
            cases reentered :
              (invocation admitted (invoking 0)).left.enter (invoking 1).enteredAt with
            | none => exact Course.halted entered outcome transient allowed cancelled reentered
            | some readmitted => exact Course.again entered outcome transient allowed cancelled reentered

/-! ### The breaker keeps its parameters -/

theorem Configured.enter {breaker : CircuitBreaker Raised} {now : Int} (configured : Configured breaker)
    (entered : breaker.enter now = some admitted) : Configured admitted := by
  simp only [CircuitBreaker.enter] at entered
  split at entered
  · split at entered
    · rw [← Option.some.inj entered]
      exact ⟨configured.1, configured.2, configured.3, configured.4⟩
    · cases entered
  · rw [← Option.some.inj entered]
    exact configured

theorem Configured.leave {breaker : CircuitBreaker Raised} (configured : Configured breaker)
    (raised : Option Raised) (now : Int) : Configured (breaker.leave raised now) := by
  obtain ⟨threshold, timeout, successes, failure⟩ := configured
  cases raised with
  | none =>
    rw [CircuitBreaker.leave, CircuitBreaker.observationSuccess]
    split
    · split <;> exact ⟨threshold, timeout, successes, failure⟩
    · exact ⟨threshold, timeout, successes, failure⟩
  | some raised =>
    rw [CircuitBreaker.leave, CircuitBreaker.observationFailure]
    split
    · split
      · exact ⟨threshold, timeout, successes, failure⟩
      · split <;> exact ⟨threshold, timeout, successes, failure⟩
    · exact ⟨threshold, timeout, successes, failure⟩

/-- **What is not transient** does not count towards the breaker. -/
theorem leave_of_not_transient {breaker : CircuitBreaker Raised} (configured : Configured breaker)
    {outcome : Outcome Val DownstreamError} (failed : raisedBy outcome ≠ none)
    (final : isTransient outcome = false) (now : Int) : breaker.leave (raisedBy outcome) now = breaker := by
  have ignored : ∀ raised, isTransientDownstreamError raised = false →
      breaker.leave (some raised) now = breaker := by
    intro raised benign
    rw [CircuitBreaker.leave, configured.isFailure, benign, if_neg Bool.false_ne_true]
  cases outcome with
  | returned value => exact absurd rfl failed
  | raised error => exact ignored _ final
  | cancelled => exact ignored _ cancelled_not_transient

end Proofs

/-! ### The law of a call -/

section Law

variable {Val : Type}

/-- What a call promises. -/
structure Law (resilience : DependencyResilience) (invoking : Nat → Invoking Val)
    (around : Nat → Surroundings) (report : CallReport Val) : Prop where
  /-- The operation is invoked at most twice. -/
  atMostTwice : report.invocations.length ≤ 2
  /-- It is invoked again only after a transient error, for one token, by a breaker that admits. -/
  again : ∀ first second, report.invocations = [first, second] →
    isTransient first.outcome = true ∧
      (resilience.retryBudget.isSome = true → (budgetAnswer resilience around).1 = true ∧
        Backoff.consumed report.events = 1 ∧
          report.timestamps = (budgetAnswer resilience around).2) ∧
      first.left.enter (invoking 1).enteredAt = some second.admitted
  /-- An open breaker lets nothing through and spends nothing. -/
  halted : resilience.breaker.isOpen = true →
    (invoking 0).enteredAt - resilience.breaker.openedAt.getD 0 < seconds 30 →
      report.result = some (.error (.raised .circuitOpen)) ∧ report.invocations = [] ∧
        Backoff.sleeps report.events = [] ∧ Backoff.consumed report.events = 0 ∧
          report.timestamps = resilience.timestamps
  /-- What is not transient is propagated, and leaves the breaker as it was on admission. -/
  propagated : ∀ invocation ∈ report.invocations, raisedBy invocation.outcome ≠ none →
    isTransient invocation.outcome = false →
      report.result = some (resultOf invocation.outcome) ∧
        report.invocations.getLast? = some invocation ∧ report.breaker = invocation.admitted
  /-- The slot of the bulkhead is given back. -/
  released : report.calls.inflight = resilience.calls.inflight ∧
    report.calls.waiting = resilience.calls.waiting

variable {resilience : DependencyResilience} {invoking : Nat → Invoking Val}
  {around : Nat → Surroundings} {calls : AsyncBulkhead.State}

/-- The report of an admitted call. -/
def reportOf (report : Report (Guarded Val) Val Raised) (calls : AsyncBulkhead.State) : CallReport Val where
  result := some report.result
  invocations := report.world.inner.invocations
  events := report.events
  breaker := report.world.inner.breaker
  timestamps := report.world.timestamps
  calls

theorem consumed_firstEvents (more : List Event) (quiet : Backoff.consumed more = 0)
    (limited : resilience.retryBudget.isSome = true) :
    Backoff.consumed (firstEvents resilience around ++ more) = 1 := by
  have here : (retrying resilience).retryBudget.isSome = true := limited
  rw [Backoff.consumed_append, firstEvents, Backoff.consumed_slept, quiet, here]
  rfl

/-- A breaker that admits a call is not open inside its recovery time. -/
theorem not_halted {admitted : CircuitBreaker Raised} {now : Int}
    (entered : resilience.breaker.enter now = some admitted) (isOpen : resilience.breaker.isOpen = true)
    (early : now - resilience.breaker.openedAt.getD 0 < seconds 30) : False := by
  have admits := CircuitBreaker.enter_isSome_iff.mp (by rw [entered]; rfl) isOpen
  rw [resilience.configured.recoveryTimeout] at admits
  omega

/-- An invocation that is the last of a call. -/
theorem propagated_last {admitted : CircuitBreaker Raised} {input : Invoking Val}
    (earlier : List (Invocation Val)) {result : Option (Except (Failure Raised) Val)}
    (configured : Configured admitted) (same : result = some (resultOf input.outcome))
    (failed : raisedBy (invocation admitted input).outcome ≠ none)
    (final : isTransient (invocation admitted input).outcome = false) :
    result = some (resultOf (invocation admitted input).outcome) ∧
      (earlier ++ [invocation admitted input]).getLast? = some (invocation admitted input) ∧
        (invocation admitted input).left = (invocation admitted input).admitted :=
  ⟨same, List.getLast?_concat, leave_of_not_transient configured failed final _⟩

theorem transient_first {error : DownstreamError} (admitted : CircuitBreaker Raised)
    (failed : (invoking 0).outcome = .raised error)
    (transient : isTransientDownstreamError (.downstream error) = true) :
    isTransient (invocation admitted (invoking 0)).outcome = true := by
  have outcome : (invocation admitted (invoking 0)).outcome = .raised error := failed
  rw [outcome]
  exact transient

/-- A call whose only invocation is retried, but does not get to it. -/
theorem law_of_one {report : CallReport Val} {admitted : CircuitBreaker Raised}
    (entered : resilience.breaker.enter (invoking 0).enteredAt = some admitted)
    (transient : isTransient (invocation admitted (invoking 0)).outcome = true)
    (only : report.invocations = [invocation admitted (invoking 0)])
    (released : report.calls.inflight = resilience.calls.inflight ∧
      report.calls.waiting = resilience.calls.waiting) :
    Law resilience invoking around report where
  atMostTwice := by rw [only]; exact Nat.le_succ 1
  again first second both := by
    rw [only] at both
    cases both
  halted isOpen early := (not_halted entered isOpen early).elim
  propagated other mem _ final := by
    rw [only, List.mem_singleton] at mem
    rw [mem, transient] at final
    cases final
  released := released

/-- **Every course** keeps the law. -/
theorem Course.law {report : Report (Guarded Val) Val Raised}
    (course : Course resilience invoking around report)
    (released : calls.inflight = resilience.calls.inflight ∧ calls.waiting = resilience.calls.waiting) :
    Law resilience invoking around (reportOf report calls) := by
  cases course with
  | rejected closed =>
    exact {
      atMostTwice := Nat.zero_le 2
      again := fun _ _ both => by cases both
      halted := fun _ _ => ⟨rfl, rfl, rfl, rfl, rfl⟩
      propagated := fun _ mem => by cases mem
      released := released }
  | last entered final =>
    exact {
      atMostTwice := Nat.le_succ 1
      again := fun _ _ both => by cases both
      halted := fun isOpen early => (not_halted entered isOpen early).elim
      propagated := fun other mem failed final => by
        obtain rfl := List.mem_singleton.mp mem
        exact propagated_last [] (resilience.configured.enter entered) rfl failed final
      released := released }
  | refused entered failed transient spent =>
    exact law_of_one entered (transient_first _ failed transient) rfl released
  | asleep entered failed transient allowed cancelled =>
    exact law_of_one entered (transient_first _ failed transient) rfl released
  | halted entered failed transient allowed awake opened =>
    exact law_of_one entered (transient_first _ failed transient) rfl released
  | @again admitted readmitted error entered failed transient allowed awake reentered =>
    have first := transient_first admitted failed transient
    have configured : Configured readmitted :=
      ((resilience.configured.enter entered).leave _ _).enter reentered
    exact {
      atMostTwice := le_rfl
      again := fun one two both => by
        obtain ⟨rfl, rfl⟩ : invocation admitted (invoking 0) = one ∧
            invocation readmitted (invoking 1) = two := by simpa [reportOf, guarded] using both
        exact ⟨first, fun limited => ⟨allowed, consumed_firstEvents [.invoked] rfl limited, rfl⟩, reentered⟩
      halted := fun isOpen early => (not_halted entered isOpen early).elim
      propagated := fun other mem failed final => by
        rcases List.mem_cons.mp mem with rfl | mem
        · rw [first] at final
          cases final
        · obtain rfl := List.mem_singleton.mp mem
          exact propagated_last [_] configured rfl failed final
      released := released }

/-! ### The bulkhead -/

theorem notify_inflight (state : AsyncBulkhead.State) :
    (AsyncBulkhead.notify state).inflight = state.inflight ∧
      (AsyncBulkhead.notify state).waiting = state.waiting := by
  unfold AsyncBulkhead.notify
  split <;> exact ⟨rfl, rfl⟩

/-- A call that comes alone gets a slot, and gives it back. -/
theorem call_alone (invoking : Nat → Invoking Val) (around : Nat → Surroundings)
    {history : List (AsyncBulkhead.State × AsyncBulkhead.Label)}
    (run : Run resilience.bulkhead.next {} history resilience.calls)
    (alone : ∀ phase ∈ resilience.calls.callers, phase.isRunning = false) :
    ∃ calls, call resilience invoking around =
        some (reportOf (callWithBreaker resilience invoking around) calls) ∧
      calls.inflight = resilience.calls.inflight ∧ calls.waiting = resilience.calls.waiting := by
  have invariant := AsyncBulkhead.Invariant.of_run run
  have none : resilience.calls.callers.countP AsyncBulkhead.Phase.isRunning = 0 := by
    rw [List.countP_eq_zero]
    intro phase mem
    rw [alone phase mem]
    exact Bool.false_ne_true
  have free : ¬ resilience.calls.inflight ≥ resilience.bulkhead.maxConcurrency := by
    have positive := resilience.bulkhead.positive
    have running := invariant.running
    rw [none] at running
    omega
  have arrived : resilience.bulkhead.arrive resilience.calls =
      { resilience.calls with
        inflight := resilience.calls.inflight + 1
        callers := resilience.calls.callers ++ [.running] } := by
    rw [AsyncBulkhead.arrive, if_neg free]
  refine ⟨AsyncBulkhead.finish (resilience.bulkhead.arrive resilience.calls)
    resilience.calls.callers.length, ?_, ?_⟩
  · simp only [call, arrived, List.getElem?_concat_length]
    rfl
  · have left := notify_inflight { resilience.bulkhead.arrive resilience.calls with
      inflight := (resilience.bulkhead.arrive resilience.calls).inflight - 1
      callers := (resilience.bulkhead.arrive resilience.calls).callers.set
        resilience.calls.callers.length .done }
    rw [AsyncBulkhead.finish, left.1, left.2, arrived]
    exact ⟨by simp only; omega, rfl⟩

def fresh : DependencyResilience where
  breaker := { failureThreshold := 3, recoveryTimeout := seconds 30, isFailure := isTransientDownstreamError }
  configured := ⟨rfl, rfl, rfl, rfl⟩
  bulkhead := { maxConcurrency := 1, positive := Nat.one_pos }

end Law

end ApiObservatory.Resilience
