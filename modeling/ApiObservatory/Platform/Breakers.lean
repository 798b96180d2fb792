import ApiObservatory.Platform.CircuitBreaker

/-
The two circuit breakers of `libs/platform/circuit_breaker.py`: the class, and the one
that the `circuit_breaker` decorator binds to a function.

They keep different variables. The class clears its count when it opens and stores the
time of the opening; the decorator's breaker goes on counting and stores the time of
the last failure. Calls that do not overlap cannot tell them apart (`breakers_agree`).
-/

namespace ApiObservatory

/-- What leaves the guarded function: an `Exception`, or a `CancelledError` or another
`BaseException` that is none. -/
inductive Raised (Exc : Type) where
  | exception (error : Exc)
  | exit
deriving DecidableEq

/-- `_CircuitBreaker`. -/
structure DecoratorBreaker where
  failureThreshold : Int
  recoveryTimeout : Int
  state : CircuitState := .closed
  failureCount : Nat := 0
  lastFailureTime : Option Int := none
deriving DecidableEq

namespace DecoratorBreaker

variable {Exc : Type}

/-- `_maybe_transition_to_half_open`. -/
def maybeTransitionToHalfOpen (breaker : DecoratorBreaker) (now : Int) : DecoratorBreaker :=
  if breaker.state = .opened then
    let elapsed := now - breaker.lastFailureTime.getD 0
    if elapsed ≥ breaker.recoveryTimeout then { breaker with state := .halfOpen } else breaker
  else breaker

/-- The gate of `call`; `none` is the `CircuitOpenError`. -/
def enter (breaker : DecoratorBreaker) (now : Int) : Option DecoratorBreaker :=
  let breaker := breaker.maybeTransitionToHalfOpen now
  if breaker.state = .opened then none else some breaker

/-- `_on_success`. -/
def onSuccess (breaker : DecoratorBreaker) : DecoratorBreaker :=
  { breaker with state := .closed, failureCount := 0, lastFailureTime := none }

/-- `_on_failure`. -/
def onFailure (breaker : DecoratorBreaker) (now : Int) : DecoratorBreaker :=
  { breaker with
    failureCount := breaker.failureCount + 1
    lastFailureTime := some now
    state :=
      if (breaker.failureCount + 1 : Int) ≥ breaker.failureThreshold ∨ breaker.state = .halfOpen then
        .opened
      else breaker.state }

/-- The end of `call`; only an `Exception` is caught. -/
def leave (breaker : DecoratorBreaker) (raised : Option (Raised Exc)) (now : Int) :
    DecoratorBreaker :=
  match raised with
  | none => breaker.onSuccess
  | some (.exception _) => breaker.onFailure now
  | some .exit => breaker

end DecoratorBreaker

/-! ### Either breaker -/

inductive Breaker (Exc : Type) where
  | classBased (breaker : CircuitBreaker (Raised Exc))
  | decorator (breaker : DecoratorBreaker)

namespace Breaker

variable {Exc : Type}

def enter : Breaker Exc → Int → Option (Breaker Exc)
  | .classBased breaker, now => (breaker.enter now).map .classBased
  | .decorator breaker, now => (breaker.enter now).map .decorator

def leave : Breaker Exc → Option (Raised Exc) → Int → Breaker Exc
  | .classBased breaker, raised, now => .classBased (breaker.leave raised now)
  | .decorator breaker, raised, now => .decorator (breaker.leave raised now)

def state : Breaker Exc → CircuitState
  | .classBased breaker => breaker.state
  | .decorator breaker => breaker.state

/-- The time that the recovery timeout runs from. -/
def openedAt : Breaker Exc → Int
  | .classBased breaker => breaker.openedAt.getD 0
  | .decorator breaker => breaker.lastFailureTime.getD 0

def recoveryTimeout : Breaker Exc → Int
  | .classBased breaker => breaker.recoveryTimeout
  | .decorator breaker => breaker.recoveryTimeout

end Breaker

/-! ### Calls that do not overlap -/

namespace Breaker

/-- A call, with the clock at its gate and at its end. -/
structure Call (Exc : Type) where
  startedAt : Int
  finishedAt : Int
  raised : Option Exc

variable {Exc : Type}

/-- A call run alone: whether it is admitted, and the breaker after it. -/
def call (breaker : Breaker Exc) (call : Call Exc) : Bool × Breaker Exc :=
  match breaker.enter call.startedAt with
  | none => (false, breaker)
  | some entered => (true, entered.leave (call.raised.map .exception) call.finishedAt)

/-- What can be seen of some calls: which are admitted, and the state after each. -/
def trace : Breaker Exc → List (Call Exc) → List (Bool × CircuitState)
  | _, [] => []
  | breaker, call :: rest =>
      ((breaker.call call).1, (breaker.call call).2.state) :: trace (breaker.call call).2 rest

end Breaker

/-- The class and the decorator's breaker at corresponding points. -/
structure Matches {Exc : Type} (breaker : CircuitBreaker (Raised Exc))
    (decorator : DecoratorBreaker) : Prop where
  failureThreshold : breaker.failureThreshold = decorator.failureThreshold
  recoveryTimeout : breaker.recoveryTimeout = decorator.recoveryTimeout
  halfOpenSuccesses : breaker.halfOpenSuccesses = 1
  isFailure : ∀ raised, breaker.isFailure raised = true
  state : breaker.state = decorator.state
  failureCount : breaker.state = .closed → breaker.failureCount = decorator.failureCount
  openedAt : breaker.state ≠ .closed →
    breaker.openedAt.getD 0 = decorator.lastFailureTime.getD 0
  halfOpenSuccessCount : breaker.state = .halfOpen → breaker.halfOpenSuccessCount = 0

namespace Matches

variable {Exc : Type} {breaker : CircuitBreaker (Raised Exc)} {decorator : DecoratorBreaker}

/-- Both gates reject a call, or both admit it. -/
theorem enter (same : Matches breaker decorator) (now : Int) :
    (breaker.enter now = none ∧ decorator.enter now = none) ∨
      ∃ breaker' decorator', breaker.enter now = some breaker' ∧
        decorator.enter now = some decorator' ∧ Matches breaker' decorator' ∧
        breaker'.state ≠ .opened := by
  unfold CircuitBreaker.enter DecoratorBreaker.enter DecoratorBreaker.maybeTransitionToHalfOpen
  by_cases isOpen : breaker.state = .opened
  · have isOpen' : decorator.state = .opened := same.state.symm.trans isOpen
    have times : breaker.openedAt.getD 0 = decorator.lastFailureTime.getD 0 :=
      same.openedAt (by simp [isOpen])
    by_cases due : now - decorator.lastFailureTime.getD 0 ≥ decorator.recoveryTimeout
    · refine Or.inr ⟨{ breaker with state := .halfOpen, halfOpenSuccessCount := 0 },
        { decorator with state := .halfOpen }, ?_, ?_, ?_, by simp⟩
      · simp [isOpen, times, same.recoveryTimeout, due]
      · simp [isOpen', due]
      · exact { same with
          state := rfl
          failureCount := nofun
          openedAt := fun _ => times
          halfOpenSuccessCount := fun _ => rfl }
    · left
      simp [isOpen, isOpen', times, same.recoveryTimeout, due]
  · have isOpen' : decorator.state ≠ .opened := same.state ▸ isOpen
    exact Or.inr ⟨breaker, decorator, by simp [isOpen], by simp [isOpen'], same, isOpen⟩

/-- A call that was admitted, and is no recovery probe, finds the breaker closed. -/
theorem closed_of_admitted (admitted : breaker.state ≠ .opened) (half : ¬ breaker.state = .halfOpen) :
    breaker.state = .closed := by
  cases is : breaker.state with
  | closed => rfl
  | opened => exact absurd is admitted
  | halfOpen => exact absurd is half

theorem onSuccess (same : Matches breaker decorator) (admitted : breaker.state ≠ .opened) :
    Matches breaker.observationSuccess decorator.onSuccess := by
  unfold CircuitBreaker.observationSuccess DecoratorBreaker.onSuccess
  by_cases half : breaker.state = .halfOpen
  · have last : (breaker.halfOpenSuccessCount : Int) + 1 ≥ breaker.halfOpenSuccesses := by
      rw [same.halfOpenSuccessCount half, same.halfOpenSuccesses]
      decide
    rw [if_pos half, if_pos last]
    exact { same with
      state := rfl
      failureCount := fun _ => rfl
      openedAt := fun opened => absurd rfl opened
      halfOpenSuccessCount := nofun }
  · rw [if_neg half]
    have closed : breaker.state = .closed := closed_of_admitted admitted half
    exact { same with
      state := closed
      failureCount := fun _ => rfl
      openedAt := fun opened => absurd closed opened
      halfOpenSuccessCount := fun is => absurd is half }

theorem onFailure (same : Matches breaker decorator) (admitted : breaker.state ≠ .opened) (now : Int) :
    Matches (breaker.observationFailure now) (decorator.onFailure now) := by
  unfold CircuitBreaker.observationFailure DecoratorBreaker.onFailure
  by_cases half : breaker.state = .halfOpen
  · have half' : decorator.state = .halfOpen := same.state ▸ half
    rw [if_pos half, if_pos (Or.inr half')]
    exact { same with
      state := rfl
      failureCount := nofun
      openedAt := fun _ => rfl
      halfOpenSuccessCount := nofun }
  · rw [if_neg half]
    have half' : decorator.state ≠ .halfOpen := same.state ▸ half
    have closed : breaker.state = .closed := closed_of_admitted admitted half
    have counts := same.failureCount closed
    by_cases full : (breaker.failureCount : Int) + 1 ≥ breaker.failureThreshold
    · have full' : (decorator.failureCount : Int) + 1 ≥ decorator.failureThreshold := by
        rwa [← counts, ← same.failureThreshold]
      rw [if_pos full, if_pos (Or.inl full')]
      exact { same with
        state := rfl
        failureCount := nofun
        openedAt := fun _ => rfl
        halfOpenSuccessCount := nofun }
    · have notFull : ¬ ((decorator.failureCount : Int) + 1 ≥ decorator.failureThreshold ∨
          decorator.state = .halfOpen) := by
        rw [← counts, ← same.failureThreshold]
        exact not_or.mpr ⟨full, half'⟩
      rw [if_neg full, if_neg notFull]
      exact { same with
        failureCount := fun _ => congrArg (· + 1) counts
        openedAt := fun opened => absurd closed opened
        halfOpenSuccessCount := fun is => absurd is half }

/-- A call that was admitted ends alike in both. -/
theorem leave (same : Matches breaker decorator) (admitted : breaker.state ≠ .opened)
    (raised : Option Exc) (now : Int) :
    Matches (breaker.leave (raised.map .exception) now)
      (decorator.leave (raised.map .exception) now) := by
  cases raised with
  | none => exact same.onSuccess admitted
  | some error =>
    show Matches (if breaker.isFailure (.exception error) = true then
      breaker.observationFailure now else breaker) (decorator.onFailure now)
    rw [if_pos (same.isFailure _)]
    exact same.onFailure admitted now

/-- **One call** keeps the breakers in step. -/
theorem call (same : Matches breaker decorator) (call : Breaker.Call Exc) :
    ∃ admitted breaker' decorator', Matches breaker' decorator' ∧
      (Breaker.classBased breaker).call call = (admitted, .classBased breaker') ∧
      (Breaker.decorator decorator).call call = (admitted, .decorator decorator') := by
  unfold Breaker.call
  simp only [Breaker.enter]
  rcases same.enter call.startedAt with ⟨rejected, rejected'⟩ |
    ⟨entered, entered', admits, admits', within, admitted⟩
  · rw [rejected, rejected']
    exact ⟨false, breaker, decorator, same, rfl, rfl⟩
  · rw [admits, admits']
    exact ⟨true, _, _, within.leave admitted call.raised call.finishedAt, rfl, rfl⟩

theorem trace (same : Matches breaker decorator) (calls : List (Breaker.Call Exc)) :
    (Breaker.classBased breaker).trace calls = (Breaker.decorator decorator).trace calls := by
  induction calls generalizing breaker decorator with
  | nil => rfl
  | cons call rest ih =>
    obtain ⟨admitted, breaker', decorator', after, is, is'⟩ := same.call call
    simp only [Breaker.trace, is, is', Breaker.state, after.state, ih after]

end Matches

/-- **The two breakers** with the same threshold and timeout admit the same calls and are in
the same state after each, whatever the calls and the clock. -/
theorem breakers_agree {Exc : Type} (failureThreshold recoveryTimeout : Int)
    (calls : List (Breaker.Call Exc)) :
    (Breaker.classBased { failureThreshold, recoveryTimeout }).trace calls =
      (Breaker.decorator { failureThreshold, recoveryTimeout }).trace calls :=
  Matches.trace
    { failureThreshold := rfl
      recoveryTimeout := rfl
      halfOpenSuccesses := rfl
      isFailure := fun _ => rfl
      state := rfl
      failureCount := fun _ => rfl
      openedAt := fun opened => absurd rfl opened
      halfOpenSuccessCount := fun _ => rfl } calls

/-- The third call comes too early, the fourth is the probe. -/
example : (Breaker.classBased { failureThreshold := 2, recoveryTimeout := 10 } : Breaker Unit).trace
    [⟨0, 1, some ()⟩, ⟨2, 3, some ()⟩, ⟨4, 5, none⟩, ⟨13, 14, none⟩] =
      [(true, .closed), (true, .opened), (false, .opened), (true, .closed)] := by decide

end ApiObservatory
