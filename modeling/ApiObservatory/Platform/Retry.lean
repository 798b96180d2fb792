import ApiObservatory.Foundation.RollingWindow
import Mathlib.Algebra.Order.Field.Rat

/-
Retries (`libs/platform/retry.py`): the retry budget and the backoff.

Times are in seconds, of `time.monotonic()`, and all arithmetic is exact.
-/

namespace ApiObservatory

open Foundation

/-! ### `RetryBudget` -/

structure RetryBudget where
  maxRetryTokens : Nat
  windowSeconds : Rat
  /-- `max_retry_tokens must be > 0`, `window_seconds must be > 0`. -/
  positive : 0 < maxRetryTokens ∧ 0 < windowSeconds

namespace RetryBudget

section Methods

variable (budget : RetryBudget) (timestamps : List Rat) (now : Rat)

/-- `_prune_expired`. -/
def pruneExpired : List Rat :=
  timestamps.dropWhile fun timestamp => decide (now - timestamp > budget.windowSeconds)

/-- `consume_retry`. -/
def consumeRetry : Bool × List Rat :=
  let timestamps := budget.pruneExpired timestamps now
  if timestamps.length ≥ budget.maxRetryTokens then (false, timestamps)
  else (true, timestamps ++ [now])

/-- `tokens_used`. -/
def tokensUsed : Nat × List Rat :=
  let timestamps := budget.pruneExpired timestamps now
  (timestamps.length, timestamps)

end Methods

/-- The calls of a budget, with their times. -/
inductive Call where
  | consumeRetry (now : Rat)
  | tokensUsed (now : Rat)
deriving DecidableEq

def Call.now : Call → Rat
  | .consumeRetry now => now
  | .tokensUsed now => now

def next (budget : RetryBudget) (timestamps : List Rat) : Call → Option (List Rat)
  | .consumeRetry now => some (budget.consumeRetry timestamps now).2
  | .tokensUsed now => some (budget.tokensUsed timestamps now).2

/-- The answer of `consume_retry`, if it is what is called. -/
def asked (budget : RetryBudget) (timestamps : List Rat) : Call → Option Bool
  | .consumeRetry now => some (budget.consumeRetry timestamps now).1
  | .tokensUsed _ => none

/-- The times of the tokens that were granted. -/
def granted (budget : RetryBudget) (history : List (List Rat × Call)) : List Rat :=
  timesOf Call.now (fun timestamps call => budget.asked timestamps call == some true) history

/-- The times at which a token was refused. -/
def refused (budget : RetryBudget) (history : List (List Rat × Call)) : List Rat :=
  timesOf Call.now (fun timestamps call => budget.asked timestamps call == some false) history

/-! ### The budget is a rolling window -/

def window (budget : RetryBudget) : RollingWindow Rat where
  limit := budget.maxRetryTokens
  width := budget.windowSeconds

@[simp] theorem window_limit (budget : RetryBudget) : budget.window.limit = budget.maxRetryTokens := rfl

@[simp] theorem window_width (budget : RetryBudget) : budget.window.width = budget.windowSeconds := rfl

variable {budget : RetryBudget} {timestamps : List Rat} {now : Rat}
  {history : List (List Rat × Call)}

theorem pruneExpired_eq : budget.pruneExpired timestamps now = budget.window.expire now timestamps := by
  unfold pruneExpired RollingWindow.expire
  congr 1
  funext timestamp
  exact decide_eq_decide.mpr (by rw [gt_iff_lt]; exact lt_sub_comm)

theorem consumeRetry_eq : budget.consumeRetry timestamps now = budget.window.ask now timestamps := by
  unfold consumeRetry RollingWindow.ask
  simp only [pruneExpired_eq, ge_iff_le]
  by_cases full : budget.maxRetryTokens ≤ (budget.window.expire now timestamps).length
  · simp [full, not_lt.mpr full]
  · simp [full, not_le.mp full]

/-- A call that asks for a token. -/
def Call.asks : Call → Bool
  | .consumeRetry _ => true
  | .tokensUsed _ => false

theorem calledBy (budget : RetryBudget) :
    budget.window.CalledBy Call.now id Call.asks budget.next where
  call := by
    intro timestamps call timestamps' step asks
    cases call with
    | consumeRetry now =>
      rw [← Option.some.inj step, id, id, consumeRetry_eq]
      rfl
    | tokensUsed now => cases asks
  other := by
    intro timestamps call timestamps' step asks
    cases call with
    | consumeRetry now => cases asks
    | tokensUsed now =>
      rw [← Option.some.inj step]
      exact Or.inr pruneExpired_eq

theorem granted_eq (history : List (List Rat × Call)) :
    budget.granted history = budget.window.grantsOf Call.now id Call.asks history := by
  unfold granted RollingWindow.grantsOf
  congr 1
  funext timestamps call
  cases call with
  | consumeRetry now => simp [asked, Call.asks, Call.now, consumeRetry_eq]
  | tokensUsed now => rfl

theorem refused_eq (history : List (List Rat × Call)) :
    budget.refused history = budget.window.refusalsOf Call.now id Call.asks history := by
  unfold refused RollingWindow.refusalsOf
  congr 1
  funext timestamps call
  cases call with
  | consumeRetry now => simp [asked, Call.asks, Call.now, consumeRetry_eq]
  | tokensUsed now => rfl

/-- **The budget is exact** along a clock. -/
theorem exact_of_run (budget : RetryBudget) (run : Run budget.next [] history timestamps)
    (ordered : Chronological Call.now history) :
    budget.window.Exact (budget.granted history) (budget.refused history) := by
  rw [granted_eq, refused_eq]
  exact (calledBy budget).exact rfl run ordered

end RetryBudget

end ApiObservatory
