import ApiObservatory.Time

/-
The class-based circuit breaker (`libs/platform/circuit_breaker.py`).

The breaker's lock is never held across an `await`, so a method runs in one
piece. A call is `enter`, the guarded operation and `leave`; other calls may run
between the two. Clock times are those of `time_func`, in microseconds.
-/

namespace ApiObservatory

inductive CircuitState where
  | closed | opened | halfOpen
deriving DecidableEq, Repr

structure CircuitBreaker (Exc : Type) where
  failureThreshold : Int := 5
  recoveryTimeout : Int := seconds 60
  halfOpenSuccesses : Int := 1
  isFailure : Exc → Bool := fun _ => true
  state : CircuitState := .closed
  failureCount : Nat := 0
  openedAt : Option Int := none
  halfOpenSuccessCount : Nat := 0

namespace CircuitBreaker

variable {Exc : Type}

def isOpen (breaker : CircuitBreaker Exc) : Bool :=
  breaker.state == .opened

/-- `__aenter__`; `none` is the `CircuitOpenError`. -/
def enter (breaker : CircuitBreaker Exc) (now : Int) : Option (CircuitBreaker Exc) :=
  if breaker.state = .opened then
    let opened := breaker.openedAt.getD 0
    if now - opened ≥ breaker.recoveryTimeout then
      some { breaker with state := .halfOpen, halfOpenSuccessCount := 0 }
    else none
  else some breaker

/-- `_observation_success`. -/
def observationSuccess (breaker : CircuitBreaker Exc) : CircuitBreaker Exc :=
  if breaker.state = .halfOpen then
    if breaker.halfOpenSuccessCount + 1 ≥ breaker.halfOpenSuccesses then
      { breaker with
        state := .closed
        failureCount := 0
        openedAt := none
        halfOpenSuccessCount := 0 }
    else { breaker with halfOpenSuccessCount := breaker.halfOpenSuccessCount + 1 }
  else { breaker with failureCount := 0 }

/-- `_observation_failure`. -/
def observationFailure (breaker : CircuitBreaker Exc) (now : Int) : CircuitBreaker Exc :=
  if breaker.state = .halfOpen then
    { breaker with
      state := .opened
      openedAt := some now
      failureCount := 0
      halfOpenSuccessCount := 0 }
  else if breaker.failureCount + 1 ≥ breaker.failureThreshold then
    { breaker with state := .opened, openedAt := some now, failureCount := 0 }
  else { breaker with failureCount := breaker.failureCount + 1 }

/-- `__aexit__`, with the exception that left the block. -/
def leave (breaker : CircuitBreaker Exc) (raised : Option Exc) (now : Int) : CircuitBreaker Exc :=
  match raised with
  | none => breaker.observationSuccess
  | some exc => if breaker.isFailure exc then breaker.observationFailure now else breaker

/-! ### The states of a breaker -/

variable {breaker entered : CircuitBreaker Exc} {now : Int}

@[simp] theorem isOpen_iff : breaker.isOpen = true ↔ breaker.state = .opened := by
  simp [isOpen]

/-- A call is admitted by a breaker that is not open, or open for long enough. -/
theorem enter_isSome_iff :
    (breaker.enter now).isSome ↔
      (breaker.isOpen = true → now - breaker.openedAt.getD 0 ≥ breaker.recoveryTimeout) := by
  rw [isOpen_iff]
  unfold enter
  by_cases isOpen : breaker.state = .opened
  · by_cases due : now - breaker.openedAt.getD 0 ≥ breaker.recoveryTimeout
    · simp [isOpen, due]
    · simp [isOpen, due]
  · simp [isOpen]

theorem enter_of_not_open (h : breaker.isOpen = false) : breaker.enter now = some breaker := by
  have notOpen : breaker.state ≠ .opened := by
    intro is
    rw [← isOpen_iff, h] at is
    cases is
  simp [enter, notOpen]

/-- **Only a recovery probe closes an open breaker**: a call that leaves it open
does not. -/
theorem leave_of_open (h : breaker.isOpen = true) (raised : Option Exc) :
    (breaker.leave raised now).isOpen = true := by
  rw [isOpen_iff] at h ⊢
  unfold leave
  split
  · simp [observationSuccess, h]
  · split
    · unfold observationFailure
      split
      · rfl
      · split
        · rfl
        · exact h
    · exact h

end CircuitBreaker

end ApiObservatory
