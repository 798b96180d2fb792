import ApiObservatory.Platform.Retry
import Mathlib.Algebra.Order.Ring.Pow
import Mathlib.Tactic.Linarith
import Mathlib.Tactic.NormNum
import Mathlib.Tactic.Positivity
import Mathlib.Tactic.Ring

/-
`exponential_backoff` (`libs/platform/retry.py`).

The wrapped function works on a state of its own and is given an input at every attempt. What
else may happen while it is awaited, also to the shared budget, is part of what it does.
-/

namespace ApiObservatory

open Foundation

structure Backoff (Exc : Type) where
  maxRetries : Nat := 3
  baseDelay : Rat := 1
  maxDelay : Rat := 60
  jitter : Bool := true
  retryBudget : Option RetryBudget := none
  retryIf : Option (Exc → Bool) := none
  nonneg : 0 ≤ baseDelay ∧ 0 ≤ maxDelay := by norm_num

namespace Backoff

/-- How an awaited call ends. A cancellation is no `Exception`. -/
inductive Outcome (Val Exc : Type) where
  | returned (value : Val)
  | raised (error : Exc)
  | cancelled
deriving DecidableEq

/-- What a decorated function raises. -/
inductive Failure (Exc : Type) where
  | raised (error : Exc)
  | retryBudgetExceeded (message : String) (cause : Exc)
  | cancelled
  | assertionError
deriving DecidableEq

/-- The state of the wrapped function, and the timestamps of the budget. -/
structure World (σ : Type) where
  inner : σ
  timestamps : List Rat := []

/-- What an attempt meets besides the function: the clock of `consume_retry`, the random number
from which `uniform` draws, and whether its task is cancelled while it sleeps. -/
structure Surroundings where
  now : Rat
  random : Rat
  drawn : 0 ≤ random ∧ random ≤ 1
  cancelled : Bool := false

inductive Event where
  | invoked
  | token
  | slept (delay : Rat)
deriving DecidableEq

/-- A call of the decorated function: what it returns or raises, and what it does. -/
structure Report (σ Val Exc : Type) where
  result : Except (Failure Exc) Val
  events : List Event
  world : World σ

def Report.after {σ Val Exc : Type} (events : List Event) (report : Report σ Val Exc) :
    Report σ Val Exc :=
  { report with events := events ++ report.events }

/-- `random.uniform`. -/
def uniform (a b random : Rat) : Rat := a + (b - a) * random

variable {σ ι Val Exc : Type}

section Code

variable (settings : Backoff Exc)

/-- `retry_if is None or retry_if(e)`. -/
def retryable (error : Exc) : Bool :=
  match settings.retryIf with
  | none => true
  | some retryIf => retryIf error

/-- `retry_budget.consume_retry()`; without a budget every retry is allowed. -/
def consumeRetry (timestamps : List Rat) (now : Rat) : Bool × List Rat :=
  match settings.retryBudget with
  | none => (true, timestamps)
  | some budget => budget.consumeRetry timestamps now

/-- `_apply_jitter`. -/
def applyJitter (baseValue minJitter maxJitter random : Rat) : Rat :=
  baseValue + uniform minJitter maxJitter random

/-- The delay after an attempt. -/
def delay (attempt : Nat) (random : Rat) : Rat :=
  let delay := min (settings.baseDelay * 2 ^ attempt) settings.maxDelay
  if settings.jitter then
    let jitterAmount := delay * (2 / 10)
    applyJitter delay (-jitterAmount) jitterAmount random
  else delay

/-- A token of the budget, if there is one. -/
def tokens : List Event := if settings.retryBudget.isSome then [.token] else []

variable (functionName : String) (func : World σ → ι → Outcome Val Exc × World σ) (inputs : Nat → ι)
  (around : Nat → Surroundings)

/-- The loop of `wrapper` over the attempts that are left, with `last_exception`. -/
def attempts : List Nat → Option Exc → World σ → Report σ Val Exc
  | [], none, world => ⟨.error .assertionError, [], world⟩
  | [], some lastException, world => ⟨.error (.raised lastException), [], world⟩
  | attempt :: rest, _, world =>
      match func world (inputs attempt) with
      | (.returned value, world) => ⟨.ok value, [.invoked], world⟩
      | (.cancelled, world) => ⟨.error .cancelled, [.invoked], world⟩
      | (.raised error, world) =>
          if attempt < settings.maxRetries && settings.retryable error then
            let (budgetAllowed, timestamps) :=
              settings.consumeRetry world.timestamps (around attempt).now
            let world := { world with timestamps }
            if !budgetAllowed then
              ⟨.error (.retryBudgetExceeded s!"Retry budget exhausted for {functionName}" error),
                [.invoked], world⟩
            else
              let events :=
                .invoked :: settings.tokens ++ [.slept (settings.delay attempt (around attempt).random)]
              if (around attempt).cancelled then ⟨.error .cancelled, events, world⟩
              else (attempts rest (some error) world).after events
          else ⟨.error (.raised error), [.invoked], world⟩

/-- `wrapper`. -/
def wrapper (world : World σ) : Report σ Val Exc :=
  settings.attempts functionName func inputs around (List.range (settings.maxRetries + 1)) none world

end Code

/-! ### What a call does -/

def Event.isInvoked : Event → Bool
  | .invoked => true
  | _ => false

def Event.isToken : Event → Bool
  | .token => true
  | _ => false

def Event.delay? : Event → Option Rat
  | .slept delay => some delay
  | _ => none

/-- How often the function is invoked. -/
def invocations (events : List Event) : Nat := events.countP Event.isInvoked

/-- How many tokens of the budget are consumed. -/
def consumed (events : List Event) : Nat := events.countP Event.isToken

/-- The delays slept. -/
def sleeps (events : List Event) : List Rat := events.filterMap Event.delay?

/-! ### The attempts by their outcomes

The world of an attempt is reached when every attempt before it is retried. -/

section Outcomes

variable (settings : Backoff Exc) (func : World σ → ι → Outcome Val Exc × World σ) (inputs : Nat → ι)
  (around : Nat → Surroundings)

/-- The world in which an attempt has got its retry allowed. -/
def allowed (attempt : Nat) (world : World σ) : Option (World σ) :=
  match func world (inputs attempt) with
  | (.raised error, world) =>
      if settings.retryable error then
        match settings.consumeRetry world.timestamps (around attempt).now with
        | (true, timestamps) => some { world with timestamps }
        | (false, _) => none
      else none
  | _ => none

/-- The world of the next attempt, if the sleep before it is not cancelled. -/
def retried (attempt : Nat) (world : World σ) : Option (World σ) :=
  if (around attempt).cancelled then none else settings.allowed func inputs around attempt world

/-- The world of an attempt, counted from zero. -/
def worldAt (start : World σ) : Nat → Option (World σ)
  | 0 => some start
  | attempt + 1 =>
      (worldAt start attempt).bind (settings.retried func inputs around attempt)

/-- The attempt succeeds, is cancelled, raises an error that is not retried, or is refused its
retry by the budget; a cancelled sleep cancels it too. -/
def Ends (attempt : Nat) (world : World σ) : Prop :=
  match func world (inputs attempt) with
  | (.returned _, _) => True
  | (.cancelled, _) => True
  | (.raised error, world) =>
      settings.retryable error = false ∨
        (settings.consumeRetry world.timestamps (around attempt).now).1 = false ∨
        (around attempt).cancelled = true

end Outcomes

section Attempts

variable {settings : Backoff Exc} {functionName : String}
  {func : World σ → ι → Outcome Val Exc × World σ} {inputs : Nat → ι} {around : Nat → Surroundings}
  {start world world' : World σ} {attempt later : Nat} {rest : List Nat} {last : Option Exc}

theorem ends_iff : settings.Ends func inputs around attempt world ↔
    settings.retried func inputs around attempt world = none := by
  unfold Ends retried allowed
  cases func world (inputs attempt) with
  | mk outcome world =>
    cases outcome with
    | returned value => simp
    | cancelled => simp
    | raised error =>
      cases isRetryable : settings.retryable error with
      | false => simp [isRetryable]
      | true =>
        cases consumed : settings.consumeRetry world.timestamps (around attempt).now with
        | mk granted timestamps => cases granted <;> simp [isRetryable, consumed]

theorem retried_of_allowed (granted : settings.allowed func inputs around attempt world = some world')
    (awake : (around attempt).cancelled = false) :
    settings.retried func inputs around attempt world = some world' := by
  rw [retried, awake, if_neg Bool.false_ne_true, granted]

theorem retried_of_cancelled (asleep : (around attempt).cancelled = true) :
    settings.retried func inputs around attempt world = none := by
  rw [retried, asleep, if_pos rfl]

theorem retried_of_not_allowed (refused : settings.allowed func inputs around attempt world = none) :
    settings.retried func inputs around attempt world = none := by
  rw [retried, refused, ite_self]

/-- Behind an attempt that ends there is none. -/
theorem worldAt_eq_none (gone : settings.worldAt func inputs around start attempt = none)
    (behind : attempt ≤ later) : settings.worldAt func inputs around start later = none := by
  induction later, behind using Nat.le_induction with
  | base => exact gone
  | succ later _ ih => rw [worldAt, ih, Option.bind_none]

theorem worldAt_succ (here : settings.worldAt func inputs around start attempt = some world) :
    settings.worldAt func inputs around start (attempt + 1) =
      settings.retried func inputs around attempt world := by
  rw [worldAt, here, Option.bind_some]

/-- An attempt that ends is the last one that has a world. -/
theorem eq_of_worldAt (here : settings.worldAt func inputs around start attempt = some world)
    (ends : settings.retried func inputs around attempt world = none) (behind : attempt ≤ later)
    (reached : settings.worldAt func inputs around start later = some world') :
    later = attempt ∧ world' = world := by
  have last := (worldAt_succ here).trans ends
  have same : later = attempt := by
    by_contra other
    have gone := worldAt_eq_none last (Nat.lt_of_le_of_ne behind (Ne.symm other))
    rw [gone] at reached
    cases reached
  subst same
  rw [here] at reached
  exact ⟨rfl, (Option.some.inj reached).symm⟩

/-! ### One attempt -/

/-- What an attempt does that is followed by a sleep. -/
def slept (settings : Backoff Exc) (around : Nat → Surroundings) (attempt : Nat) : List Event :=
  .invoked :: settings.tokens ++ [.slept (settings.delay attempt (around attempt).random)]

theorem attempts_stop
    (stops : attempt < settings.maxRetries → settings.allowed func inputs around attempt world = none) :
    (settings.attempts functionName func inputs around (attempt :: rest) last world).events =
      [.invoked] := by
  unfold allowed at stops
  rw [attempts]
  cases called : func world (inputs attempt) with
  | mk outcome world =>
    rw [called] at stops
    cases outcome with
    | returned value => rfl
    | cancelled => rfl
    | raised error =>
      by_cases again : (attempt < settings.maxRetries && settings.retryable error) = true
      · obtain ⟨retry, isRetryable⟩ := Bool.and_eq_true_iff.mp again
        have refused := stops (of_decide_eq_true retry)
        cases checked : settings.consumeRetry world.timestamps (around attempt).now with
        | mk budgetAllowed timestamps =>
          cases budgetAllowed with
          | true => simp [isRetryable, checked] at refused
          | false => simp [again, checked]
      · simp [again]

variable (functionName rest last) in
theorem attempts_allowed (retry : attempt < settings.maxRetries)
    (granted : settings.allowed func inputs around attempt world = some world') :
    ∃ error, settings.attempts functionName func inputs around (attempt :: rest) last world =
      if (around attempt).cancelled then ⟨.error .cancelled, settings.slept around attempt, world'⟩
      else (settings.attempts functionName func inputs around rest (some error) world').after
        (settings.slept around attempt) := by
  unfold allowed at granted
  rw [attempts]
  cases called : func world (inputs attempt) with
  | mk outcome world =>
    rw [called] at granted
    cases outcome with
    | returned value => cases granted
    | cancelled => cases granted
    | raised error =>
      cases isRetryable : settings.retryable error with
      | false => simp [isRetryable] at granted
      | true =>
        cases consumed : settings.consumeRetry world.timestamps (around attempt).now with
        | mk budgetAllowed timestamps =>
          cases budgetAllowed with
          | false => simp [isRetryable, consumed] at granted
          | true =>
            simp only [isRetryable, consumed, if_true, Option.some.injEq] at granted
            subst granted
            exact ⟨error, by simp [retry, isRetryable, consumed, slept]⟩

/-! ### All attempts -/

@[simp] theorem invocations_append (first second : List Event) :
    invocations (first ++ second) = invocations first + invocations second := List.countP_append

@[simp] theorem consumed_append (first second : List Event) :
    consumed (first ++ second) = consumed first + consumed second := List.countP_append

@[simp] theorem sleeps_append (first second : List Event) :
    sleeps (first ++ second) = sleeps first ++ sleeps second := List.filterMap_append

@[simp] theorem invocations_slept : invocations (settings.slept around attempt) = 1 := by
  unfold slept tokens
  split <;> rfl

@[simp] theorem consumed_slept :
    consumed (settings.slept around attempt) = if settings.retryBudget.isSome then 1 else 0 := by
  unfold slept tokens
  split <;> rfl

@[simp] theorem sleeps_slept :
    sleeps (settings.slept around attempt) =
      [settings.delay attempt (around attempt).random] := by
  unfold slept tokens
  split <;> rfl

/-- The attempt sleeps: it is not the last, and its retry is allowed. -/
def Sleeps (settings : Backoff Exc) (func : World σ → ι → Outcome Val Exc × World σ)
    (inputs : Nat → ι) (around : Nat → Surroundings) (start : World σ) (attempt : Nat) : Prop :=
  attempt < settings.maxRetries ∧ ∃ world, settings.worldAt func inputs around start attempt = some world ∧
    (settings.allowed func inputs around attempt world).isSome

/-- What the attempts from one on do. -/
structure Counts (settings : Backoff Exc) (func : World σ → ι → Outcome Val Exc × World σ)
    (inputs : Nat → ι) (around : Nat → Surroundings) (start : World σ) (attempt : Nat)
    (events : List Event) : Prop where
  ends : ∀ later world, attempt ≤ later → settings.worldAt func inputs around start later = some world →
    settings.Ends func inputs around later world →
      invocations events + attempt = min (later + 1) (settings.maxRetries + 1)
  exhausted : (∀ later, (settings.worldAt func inputs around start later).isSome) →
    invocations events + attempt = settings.maxRetries + 1
  tokens : consumed events = if settings.retryBudget.isSome then (sleeps events).length else 0
  sleeps : ∀ delay, delay ∈ sleeps events ↔ ∃ later, attempt ≤ later ∧
    settings.Sleeps func inputs around start later ∧
      delay = settings.delay later (around later).random

section Step

variable (here : settings.worldAt func inputs around start attempt = some world)

include here

theorem Counts.stop (last : attempt ≤ settings.maxRetries)
    (stops : attempt < settings.maxRetries → settings.allowed func inputs around attempt world = none) :
    Counts settings func inputs around start attempt [.invoked] where
  ends later world' behind reached ends := by
    rcases Nat.lt_or_ge attempt settings.maxRetries with retry | final
    · obtain ⟨rfl, -⟩ := eq_of_worldAt here (retried_of_not_allowed (stops retry)) behind reached
      simp only [invocations, List.countP_singleton, Event.isInvoked, if_true]
      omega
    · simp only [invocations, List.countP_singleton, Event.isInvoked, if_true]
      omega
  exhausted all := by
    rcases Nat.lt_or_ge attempt settings.maxRetries with retry | final
    · have next := all (attempt + 1)
      rw [worldAt_succ here, retried_of_not_allowed (stops retry)] at next
      cases next
    · simp only [invocations, List.countP_singleton, Event.isInvoked, if_true]
      omega
  tokens := by split <;> rfl
  sleeps delay := by
    refine iff_of_false (by simp [Backoff.sleeps, Event.delay?]) ?_
    rintro ⟨later, behind, ⟨retry, world', reached, granted⟩, -⟩
    have stopped := stops (behind.trans_lt retry)
    obtain ⟨rfl, rfl⟩ := eq_of_worldAt here (retried_of_not_allowed stopped) behind reached
    rw [stopped] at granted
    cases granted

variable (retry : attempt < settings.maxRetries)
  (granted : settings.allowed func inputs around attempt world = some world')

include retry granted

theorem sleeps_here : settings.Sleeps func inputs around start attempt :=
  ⟨retry, world, here, by rw [granted]; rfl⟩

theorem Counts.asleep (cancelled : (around attempt).cancelled = true) :
    Counts settings func inputs around start attempt (settings.slept around attempt) where
  ends later world' behind reached ends := by
    obtain ⟨rfl, -⟩ := eq_of_worldAt here (retried_of_cancelled cancelled) behind reached
    rw [invocations_slept]
    omega
  exhausted all := by
    have next := all (attempt + 1)
    rw [worldAt_succ here, retried_of_cancelled cancelled] at next
    cases next
  tokens := by simp
  sleeps delay := by
    rw [sleeps_slept, List.mem_singleton]
    constructor
    · rintro rfl
      exact ⟨attempt, le_rfl, sleeps_here here retry granted, rfl⟩
    · rintro ⟨later, behind, ⟨-, world', reached, -⟩, rfl⟩
      obtain ⟨rfl, -⟩ := eq_of_worldAt here (retried_of_cancelled cancelled) behind reached
      rfl

theorem Counts.again {events : List Event} (awake : (around attempt).cancelled = false)
    (rest : Counts settings func inputs around start (attempt + 1) events) :
    Counts settings func inputs around start attempt (settings.slept around attempt ++ events) where
  ends later world' behind reached ends := by
    have other : later ≠ attempt := by
      rintro rfl
      rw [here] at reached
      obtain rfl := Option.some.inj reached
      rw [ends_iff, retried_of_allowed granted awake] at ends
      cases ends
    have counted := rest.ends later world' (Nat.lt_of_le_of_ne behind other.symm) reached ends
    rw [invocations_append, invocations_slept]
    omega
  exhausted all := by
    have counted := rest.exhausted all
    rw [invocations_append, invocations_slept]
    omega
  tokens := by
    rw [consumed_append, consumed_slept, rest.tokens, sleeps_append, sleeps_slept, List.length_append]
    split <;> rfl
  sleeps delay := by
    rw [sleeps_append, sleeps_slept, List.mem_append, List.mem_singleton, rest.sleeps]
    constructor
    · rintro (rfl | ⟨later, behind, found⟩)
      · exact ⟨attempt, le_rfl, sleeps_here here retry granted, rfl⟩
      · exact ⟨later, Nat.le_of_succ_le behind, found⟩
    · rintro ⟨later, behind, isSlept, rfl⟩
      by_cases same : later = attempt
      · subst same
        exact Or.inl rfl
      · exact Or.inr ⟨later, Nat.lt_of_le_of_ne behind (Ne.symm same), isSlept, rfl⟩

end Step

/-- **The attempts that are left**, by induction on their number. -/
theorem counts_attempts {left : Nat} (whole : attempt + left = settings.maxRetries)
    (here : settings.worldAt func inputs around start attempt = some world) :
    Counts settings func inputs around start attempt
      (settings.attempts functionName func inputs around (List.range' attempt (left + 1)) last world).events := by
  induction left generalizing attempt world last with
  | zero =>
    have stops : attempt < settings.maxRetries →
        settings.allowed func inputs around attempt world = none := fun retry => by omega
    rw [List.range'_succ, attempts_stop stops]
    exact Counts.stop here (by omega) stops
  | succ left ih =>
    have retry : attempt < settings.maxRetries := by omega
    rw [List.range'_succ]
    cases granted : settings.allowed func inputs around attempt world with
    | none =>
      rw [attempts_stop fun _ => granted]
      exact Counts.stop here (by omega) fun _ => granted
    | some world' =>
      obtain ⟨error, same⟩ := attempts_allowed functionName
        (List.range' (attempt + 1) (left + 1)) last retry granted
      rw [same]
      cases cancelled : (around attempt).cancelled with
      | true => exact Counts.asleep here retry granted cancelled
      | false =>
        refine Counts.again here retry granted cancelled (ih (by omega) ?_)
        rw [worldAt_succ here, retried_of_allowed granted cancelled]

theorem counts_wrapper (settings : Backoff Exc) (functionName : String)
    (func : World σ → ι → Outcome Val Exc × World σ) (inputs : Nat → ι) (around : Nat → Surroundings)
    (start : World σ) :
    Counts settings func inputs around start 0
      (settings.wrapper functionName func inputs around start).events := by
  rw [wrapper, List.range_eq_range']
  exact counts_attempts (Nat.zero_add _) rfl

/-! ### The delays -/

/-- The delay before the jitter. -/
def capped (settings : Backoff Exc) (attempt : Nat) : Rat :=
  min (settings.baseDelay * 2 ^ attempt) settings.maxDelay

theorem capped_nonneg (settings : Backoff Exc) (attempt : Nat) : 0 ≤ settings.capped attempt := by
  obtain ⟨base, cap⟩ := settings.nonneg
  exact le_min (mul_nonneg base (by positivity)) cap

theorem delay_of_jitter (jitter : settings.jitter = true) (random : Rat) :
    settings.delay attempt random = settings.capped attempt * (4 / 5 + 2 / 5 * random) := by
  simp only [delay, jitter, if_true, applyJitter, uniform, capped]
  ring

theorem delay_of_not_jitter (jitter : settings.jitter = false) (random : Rat) :
    settings.delay attempt random = settings.capped attempt := by
  simp only [delay, jitter, Bool.false_eq_true, if_false, capped]

theorem delay_nonneg {random : Rat} (drawn : 0 ≤ random) : 0 ≤ settings.delay attempt random := by
  have cappedNonneg := capped_nonneg settings attempt
  cases jitter : settings.jitter with
  | true =>
    rw [delay_of_jitter jitter]
    positivity
  | false =>
    rw [delay_of_not_jitter jitter]
    exact cappedNonneg

/-- A delay that is stretched beyond the cap was capped before, or had no room to be stretched. -/
theorem stretched_le_iff {raw cap factor : Rat} (nonneg : 0 ≤ cap) (stretch : 1 < factor) :
    min raw cap * factor ≤ cap ↔ cap = 0 ∨ raw * factor ≤ cap := by
  rcases le_total raw cap with below | above
  · rw [min_eq_left below]
    refine ⟨Or.inr, ?_⟩
    rintro (zero | fits)
    · rw [zero] at below ⊢
      exact mul_nonpos_of_nonpos_of_nonneg below (by linarith)
    · exact fits
  · rw [min_eq_right above]
    constructor
    · intro fits
      refine Or.inl (le_antisymm ?_ nonneg)
      by_contra positive
      have grows : cap * 1 < cap * factor := mul_lt_mul_of_pos_left stretch (not_le.mp positive)
      linarith
    · rintro (zero | fits)
      · rw [zero, zero_mul]
      · exact (mul_le_mul_of_nonneg_right above (by linarith)).trans fits

/-- A delay is at most `max_delay` when the jitter shortens it or has room to stretch it. -/
theorem delay_le_iff (random : Rat) :
    settings.delay attempt random ≤ settings.maxDelay ↔
      settings.jitter = false ∨ random ≤ 1 / 2 ∨ settings.maxDelay = 0 ∨
        settings.baseDelay * 2 ^ attempt * (4 / 5 + 2 / 5 * random) ≤ settings.maxDelay := by
  have capped_le : settings.capped attempt ≤ settings.maxDelay := min_le_right _ _
  cases jitter : settings.jitter with
  | false =>
    rw [delay_of_not_jitter jitter]
    exact iff_of_true capped_le (Or.inl rfl)
  | true =>
    rw [delay_of_jitter jitter, or_iff_right (by simp)]
    by_cases low : random ≤ 1 / 2
    · refine iff_of_true ?_ (Or.inl low)
      have shortened : settings.capped attempt * (4 / 5 + 2 / 5 * random) ≤ settings.capped attempt * 1 :=
        mul_le_mul_of_nonneg_left (by linarith) (capped_nonneg settings attempt)
      linarith
    · rw [or_iff_right low]
      exact stretched_le_iff settings.nonneg.2 (by linarith)

/-! ### The contract -/

/-- The function is invoked up to the first attempt that ends, and at most `max_retries + 1` times;
every sleep takes one token of the budget; and no sleep is longer than `max_delay`. -/
structure Contract (settings : Backoff Exc) (func : World σ → ι → Outcome Val Exc × World σ)
    (inputs : Nat → ι) (around : Nat → Surroundings) (start : World σ) (events : List Event) : Prop where
  ends : ∀ first world, settings.worldAt func inputs around start first = some world →
    settings.Ends func inputs around first world →
      invocations events = min (first + 1) (settings.maxRetries + 1)
  exhausted : (∀ attempt, (settings.worldAt func inputs around start attempt).isSome) →
    invocations events = settings.maxRetries + 1
  tokens : consumed events = if settings.retryBudget.isSome then (sleeps events).length else 0
  delays : ∀ delay ∈ sleeps events, 0 ≤ delay ∧ delay ≤ settings.maxDelay

/-- At every sleep the jitter is off, shortens the delay, or has room to stretch it. -/
def JitterFits (settings : Backoff Exc) (func : World σ → ι → Outcome Val Exc × World σ)
    (inputs : Nat → ι) (around : Nat → Surroundings) (start : World σ) : Prop :=
  ∀ attempt, settings.Sleeps func inputs around start attempt →
    settings.jitter = false ∨ (around attempt).random ≤ 1 / 2 ∨ settings.maxDelay = 0 ∨
      settings.baseDelay * 2 ^ attempt * (4 / 5 + 2 / 5 * (around attempt).random) ≤ settings.maxDelay

end Attempts

/-- One retry after one second, which is also the longest delay. -/
def oneSecond : Backoff Unit where
  maxRetries := 1
  maxDelay := 1

/-- A draw above the middle. -/
def high : Surroundings where
  now := 0
  random := 3 / 4
  drawn := by norm_num

def failing (world : World Unit) (_ : Unit) : Outcome Unit Unit × World Unit := (.raised (), world)

end Backoff

end ApiObservatory
