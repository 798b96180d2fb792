import ApiObservatory.Foundation.Keyed
import ApiObservatory.Platform.Retry
import ApiObservatory.RateLimiting.TokenBucket

/-
The sliding window of the v2 routes (`services/ingestor/rate_limiting_advanced.py`).
-/

namespace ApiObservatory.RateLimiting

open Foundation

structure SlidingWindowLimiter where
  limit : Nat
  windowSeconds : Rat

/-- The `_windows` of a limiter: the times of a key, oldest first. A missing key has none. -/
abbrev Windows := String → List Rat

namespace SlidingWindowLimiter

section Methods

variable (limiter : SlidingWindowLimiter) (windows : Windows) (key : String) (now : Rat)

/-- `is_allowed`. -/
def isAllowed : (Bool × Int) × Windows :=
  let window := windows key
  let cutoff := now - limiter.windowSeconds
  let window := window.dropWhile fun timestamp => decide (timestamp < cutoff)
  let currentCount := window.length
  if currentCount < limiter.limit then
    ((true, (limiter.limit : Int) - currentCount - 1), Function.update windows key (window ++ [now]))
  else ((false, 0), Function.update windows key window)

/-- `reset_in`, with the jitter's offset. -/
def resetIn (offset : Rat := 0) : Rat :=
  match windows key with
  | [] => 0
  | oldest :: _ =>
      let resetAt := oldest + limiter.windowSeconds
      let base := max 0 (resetAt - now)
      applyJitter base offset

end Methods

def next (limiter : SlidingWindowLimiter) (windows : Windows) (request : Request) : Option Windows :=
  some (limiter.isAllowed windows request.key request.now).2

/-- What a request is answered. -/
def answer (limiter : SlidingWindowLimiter) (windows : Windows) (request : Request) : Bool × Int :=
  (limiter.isAllowed windows request.key request.now).1

section History

variable (limiter : SlidingWindowLimiter) (key : String) (history : List (Windows × Request))

/-- The times of the requests of a key that were granted. -/
def granted : List Rat :=
  timesOf Request.now
    (fun windows request => decide (request.key = key) && (limiter.answer windows request).1) history

/-- The times of the requests of a key that were refused. -/
def refused : List Rat :=
  timesOf Request.now
    (fun windows request => decide (request.key = key) && !(limiter.answer windows request).1) history

end History

/-! ### Each key has a rolling window -/

def window (limiter : SlidingWindowLimiter) : RollingWindow Rat where
  limit := limiter.limit
  width := limiter.windowSeconds

@[simp] theorem window_limit (limiter : SlidingWindowLimiter) : limiter.window.limit = limiter.limit :=
  rfl

@[simp] theorem window_width (limiter : SlidingWindowLimiter) :
    limiter.window.width = limiter.windowSeconds := rfl

variable {limiter : SlidingWindowLimiter} {windows windows' : Windows} {key : String} {now : Rat}
  {request : Request} {history : List (Windows × Request)}

/-- A request is a call of the window of its key. -/
theorem isAllowed_eq (limiter : SlidingWindowLimiter) (windows : Windows) (key : String) (now : Rat) :
    limiter.isAllowed windows key now =
      (((limiter.window.ask now (windows key)).1,
          if (limiter.window.ask now (windows key)).1 then
            (limiter.limit : Int) - (limiter.window.expire now (windows key)).length - 1
          else 0),
        Function.update windows key (limiter.window.ask now (windows key)).2) := by
  have same : (windows key).dropWhile (fun timestamp => decide (timestamp < now - limiter.windowSeconds)) =
      limiter.window.expire now (windows key) := rfl
  simp only [isAllowed, RollingWindow.ask, same, window_limit]
  by_cases room : (limiter.window.expire now (windows key)).length < limiter.limit
  · simp only [room, if_true]
  · simp only [room, if_false, Bool.false_eq_true]

theorem answer_fst : (limiter.answer windows request).1 =
    (limiter.window.ask request.now (windows request.key)).1 := by
  rw [answer, isAllowed_eq]

theorem next_eq : limiter.next windows request =
    some (Function.update windows request.key
      (limiter.window.ask request.now (windows request.key)).2) := by
  rw [next, isAllowed_eq]

theorem calledBy (limiter : SlidingWindowLimiter) (key : String) :
    limiter.window.CalledBy Request.now (fun windows : Windows => windows key)
      (fun request => decide (request.key = key)) limiter.next where
  call := by
    intro windows request windows' step own
    rw [next_eq] at step
    obtain rfl := Option.some.inj step
    obtain rfl := of_decide_eq_true own
    exact Function.update_self ..
  other := by
    intro windows request windows' step other
    rw [next_eq] at step
    obtain rfl := Option.some.inj step
    exact Or.inl (Function.update_of_ne (Ne.symm (of_decide_eq_false other)) ..)

theorem granted_eq (history : List (Windows × Request)) :
    limiter.granted key history = limiter.window.grantsOf Request.now (fun windows : Windows => windows key)
      (fun request => decide (request.key = key)) history := by
  unfold granted RollingWindow.grantsOf
  congr 1
  funext windows request
  by_cases own : request.key = key
  · subst own; simp [answer_fst]
  · simp [own]

theorem refused_eq (history : List (Windows × Request)) :
    limiter.refused key history = limiter.window.refusalsOf Request.now
      (fun windows : Windows => windows key) (fun request => decide (request.key = key)) history := by
  unfold refused RollingWindow.refusalsOf
  congr 1
  funext windows request
  by_cases own : request.key = key
  · subst own; simp [answer_fst]
  · simp [own]

/-- No stored times. -/
def empty : Windows := fun _ => []

/-- A request on the times of its key. -/
def call (limiter : SlidingWindowLimiter) (stamps : List Rat) (request : Request) :
    (Bool × Int) × List Rat :=
  (limiter.answer (fun _ => stamps) request, (limiter.window.ask request.now stamps).2)

/-- Each key is on its own. -/
theorem keyed (limiter : SlidingWindowLimiter) :
    Keyed limiter.next Request.key (fun windows key => windows key) limiter.answer limiter.call where
  answered windows request := by
    simp only [call, answer, isAllowed_eq]
  own := by
    intro windows request windows' step
    rw [next_eq] at step
    obtain rfl := Option.some.inj step
    exact Function.update_self ..
  other := by
    intro windows request windows' step key other
    rw [next_eq] at step
    obtain rfl := Option.some.inj step
    exact Function.update_of_ne other ..

theorem exact_of_run (limiter : SlidingWindowLimiter) (run : Run limiter.next empty history windows)
    (ordered : Chronological Request.now history) (key : String) :
    limiter.window.Exact (limiter.granted key history) (limiter.refused key history) := by
  rw [granted_eq, refused_eq]
  exact (limiter.calledBy key).exact rfl run ordered

/-- The remaining requests are those that the window has left, up to this one. -/
theorem answer_remaining (run : Run limiter.next empty history windows)
    (ordered : Chronological Request.now ((windows, request) :: history))
    (wide : 0 < limiter.windowSeconds) :
    (limiter.answer windows request).2 = (limiter.limit : Int) -
      limiter.window.within (request.now - limiter.windowSeconds)
        (limiter.granted request.key ((windows, request) :: history)) := by
  have tracks := (limiter.calledBy request.key).tracks rfl run ordered.tail request.now ordered.before
  have remaining : (limiter.answer windows request).2 =
      if (limiter.window.ask request.now (windows request.key)).1 then
        (limiter.limit : Int) - (limiter.window.expire request.now (windows request.key)).length - 1
      else 0 := by
    rw [answer, isAllowed_eq]
  rw [remaining, granted_eq]
  unfold RollingWindow.grantsOf at tracks ⊢
  cases granted : (limiter.window.ask request.now (windows request.key)).1 with
  | true =>
    rw [timesOf_cons_of_true (by simp [granted]), if_pos rfl, tracks.length_expire]
    have last := @RollingWindow.within_append_last _ _ _ limiter.window _ wide.le
    simp only [window_width] at last ⊢
    rw [last]
    omega
  | false =>
    rw [timesOf_cons_of_false (by simp [granted])]
    have full := tracks.full granted
    simp only [window_width, window_limit] at full
    rw [full]
    simp

theorem remaining_of_run (limiter : SlidingWindowLimiter) (run : Run limiter.next empty history windows)
    (ordered : Chronological Request.now history) (wide : 0 < limiter.windowSeconds) :
    Meets (fun earlier windows request => (limiter.answer windows request).2 = (limiter.limit : Int) -
      limiter.window.within (request.now - limiter.windowSeconds)
        (limiter.granted request.key ((windows, request) :: earlier))) history := by
  induction run with
  | init => trivial
  | snoc run step ih => exact ⟨answer_remaining run ordered wide, ih ordered.tail⟩

end SlidingWindowLimiter

/-- **Rolling windows are exact.** Along a clock no closed interval of the window's length holds
more grants of a budget, or of a key of a limiter, than the limit, and a refusal finds as many up
to it. A limiter answers with what the limit leaves, and each key as if it were alone. -/
theorem rolling_windows_exact :
    (∀ (budget : RetryBudget) (history : List (List Rat × RetryBudget.Call)) (timestamps : List Rat),
      Run budget.next [] history timestamps → Chronological RetryBudget.Call.now history →
        budget.window.Exact (budget.granted history) (budget.refused history)) ∧
    (∀ (limiter : SlidingWindowLimiter) (history : List (Windows × Request)) (windows : Windows),
      0 < limiter.windowSeconds → Run limiter.next SlidingWindowLimiter.empty history windows →
        Chronological Request.now history →
          (∀ key, limiter.window.Exact (limiter.granted key history) (limiter.refused key history)) ∧
          Meets (fun earlier windows request =>
            (limiter.answer windows request).2 = (limiter.limit : Int) -
              limiter.window.within (request.now - limiter.windowSeconds)
                (limiter.granted request.key ((windows, request) :: earlier))) history ∧
          ∀ key other windows', Run limiter.next SlidingWindowLimiter.empty other windows' →
            callsOf Request.key key history = callsOf Request.key key other →
              answersOf Request.key key limiter.answer history =
                answersOf Request.key key limiter.answer other) := by
  refine ⟨fun budget history timestamps run ordered => budget.exact_of_run run ordered, ?_⟩
  intro limiter history windows wide run ordered
  refine ⟨limiter.exact_of_run run ordered, limiter.remaining_of_run run ordered wide, ?_⟩
  intro key other windows' otherRun same
  exact limiter.keyed.answersOf_congr run otherRun same

/-- One grant a second: the second call meets the end of the closed interval, the third does not. -/
theorem rolling_windows_exact_boundary :
    (∃ history timestamps, Run (RetryBudget.next ⟨1, 1, Nat.one_pos, by decide⟩) [] history timestamps ∧
      history.map Prod.snd = [.consumeRetry 2, .consumeRetry 1, .consumeRetry 0] ∧
      (RetryBudget.window ⟨1, 1, Nat.one_pos, by decide⟩).Exact (RetryBudget.granted ⟨1, 1, Nat.one_pos, by decide⟩ history)
        (RetryBudget.refused ⟨1, 1, Nat.one_pos, by decide⟩ history)) ∧
    ∃ history windows, Run (SlidingWindowLimiter.next ⟨1, 1⟩) SlidingWindowLimiter.empty history windows ∧
      history.map Prod.snd = [⟨"10.0.0.1", 1⟩, ⟨"10.0.0.2", 0⟩, ⟨"10.0.0.1", 0⟩] ∧
      (SlidingWindowLimiter.window ⟨1, 1⟩).Exact (SlidingWindowLimiter.granted ⟨1, 1⟩ "10.0.0.1" history)
        (SlidingWindowLimiter.refused ⟨1, 1⟩ "10.0.0.1" history) := by
  constructor
  · refine ⟨_, _, ((Run.init.snoc rfl).snoc rfl).snoc rfl, rfl, ?_⟩
    refine rolling_windows_exact.1 _ _ _ (((Run.init.snoc rfl).snoc rfl).snoc rfl) ?_
    simp [Chronological, RetryBudget.Call.now]
  · refine ⟨_, _, ((Run.init.snoc rfl).snoc rfl).snoc rfl, rfl, ?_⟩
    refine (rolling_windows_exact.2 _ _ _ ?_ (((Run.init.snoc rfl).snoc rfl).snoc rfl) ?_).1 _
    · exact one_pos
    · simp [Chronological]

end ApiObservatory.RateLimiting
