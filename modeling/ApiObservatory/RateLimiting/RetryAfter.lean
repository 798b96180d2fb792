import ApiObservatory.RateLimiting.SlidingWindow
import ApiObservatory.RateLimiting.TokenBucketLaw
import Mathlib.Algebra.Order.Floor.Ring

/-
`Retry-After` of the v2 routes (`services/ingestor/api/routes/observations_v2.py`): what the
routes of the token bucket and of the sliding window answer before they create an observation,
and when a client that waits for as long as it is told is let in.

A route asks its limiter, and reads the clock again for the header. The header is the time that
the limiter needs, shifted by a jitter of either sign and rounded.
-/

namespace ApiObservatory.RateLimiting

open Foundation

/-! ### The routes up to their limiters -/

/-- `JITTER_MIN_SECONDS` and `JITTER_MAX_SECONDS`. -/
def jitterMinSeconds : Rat := 5

def jitterMaxSeconds : Rat := 10

/-- `TOKEN_BUCKET_CAPACITY` and `TOKEN_BUCKET_REFILL_PER_SEC`. -/
def tokenBucket : BucketSettings where
  capacity := 20
  refillPerSecond := 10 / 60
  positive := by norm_num

/-- `SLIDING_WINDOW_LIMIT` and `SLIDING_WINDOW_SECONDS`. -/
def slidingWindow : SlidingWindowLimiter where
  limit := 10
  windowSeconds := 60

/-- A request: its client, the clock when it is checked and when a refusal is answered, and the
offset that `RNG.uniform(-JITTER_MIN_SECONDS, JITTER_MAX_SECONDS)` draws. -/
structure Attempt where
  ip : String
  now : Rat
  answered : Rat
  offset : Rat
  inOrder : now ≤ answered
  drawn : -jitterMinSeconds ≤ offset ∧ offset ≤ jitterMaxSeconds

def Attempt.request (attempt : Attempt) : Request := ⟨attempt.ip, attempt.now⟩

/-- `int(value)`, which cuts towards zero. -/
def int (value : Rat) : Int := if 0 ≤ value then ⌊value⌋ else ⌈value⌉

/-- The `HTTPException` of a route, with the numbers of its headers. -/
structure TooManyRequests where
  detail : String
  strategy : String
  limit : Int
  remaining : Int
  retryAfter : Int
deriving DecidableEq

/-- `_rl_headers`. -/
def rlHeaders (strategy : String) (limit remaining : Int) : List (String × String) :=
  [("X-RateLimit-Strategy", strategy), ("X-RateLimit-Limit", toString limit),
    ("X-RateLimit-Remaining", toString remaining)]

def TooManyRequests.headers (refusal : TooManyRequests) : List (String × String) :=
  rlHeaders refusal.strategy refusal.limit refusal.remaining ++
    [("Retry-After", toString refusal.retryAfter)]

/-- The limiter's part of a route: the headers of an admitted request, or the exception. -/
inductive Gate where
  | admitted (headers : List (String × String))
  | refused (refusal : TooManyRequests)
deriving DecidableEq

/-- `create_observation_token_bucket`. -/
def createObservationTokenBucket (buckets : Buckets) (attempt : Attempt) : Gate × Buckets :=
  let ((allowed, remaining), buckets) := consume tokenBucket buckets attempt.ip attempt.now
  if !allowed then
    let retryAfter := secondsUntilToken tokenBucket buckets attempt.ip attempt.answered attempt.offset
    (.refused
      { detail := "Rate limit exceeded (token bucket drained)"
        strategy := "token-bucket"
        limit := tokenBucket.capacity
        remaining := int remaining
        retryAfter := int retryAfter + 1 }, buckets)
  else (.admitted (rlHeaders "token-bucket" tokenBucket.capacity (int remaining)), buckets)

/-- `create_observation_sliding_window`. -/
def createObservationSlidingWindow (windows : Windows) (attempt : Attempt) : Gate × Windows :=
  let ((allowed, remaining), windows) := slidingWindow.isAllowed windows attempt.ip attempt.now
  if !allowed then
    let retryAfter := slidingWindow.resetIn windows attempt.ip attempt.answered attempt.offset
    (.refused
      { detail := "Rate limit exceeded (sliding window full)"
        strategy := "sliding-window"
        limit := slidingWindow.limit
        remaining
        retryAfter := int retryAfter + 1 }, windows)
  else (.admitted (rlHeaders "sliding-window" slidingWindow.limit remaining), windows)

/-! ### Waiting for as long as the header says -/

/-- A whole number of seconds after `int` and one more. -/
theorem int_of_nonneg {value : Rat} (nonneg : 0 ≤ value) : int value = ⌊value⌋ := if_pos nonneg

/-- A header is not negative. -/
theorem header_nonneg {value : Rat} (nonneg : 0 ≤ value) : (0 : Rat) ≤ (int value + 1 : Int) := by
  have floor : 0 ≤ ⌊value⌋ := Int.floor_nonneg.mpr nonneg
  rw [int_of_nonneg nonneg]
  exact_mod_cast (by omega : 0 ≤ ⌊value⌋ + 1)

theorem applyJitter_nonneg (base offset : Rat) : 0 ≤ applyJitter base offset := le_max_left _ _

/-- **A header reaches** a time that is `base` seconds off unless the jitter takes it below the
last whole second before. -/
theorem le_header_iff (base offset : Rat) :
    base ≤ (int (applyJitter base offset) + 1 : Int) ↔ base ≤ 1 ∨ ⌈base⌉ - 1 ≤ base + offset := by
  have whole : base ≤ ((⌊applyJitter base offset⌋ + 1 : Int) : Rat) ↔
      ((⌈base⌉ - 1 : Int) : Rat) ≤ applyJitter base offset := by
    rw [← Int.ceil_le, ← Int.le_floor]
    omega
  have soon : ((⌈base⌉ - 1 : Int) : Rat) ≤ 0 ↔ base ≤ 1 := by
    have first : base ≤ 1 ↔ ⌈base⌉ ≤ 1 := by rw [Int.ceil_le, Int.cast_one]
    rw [first, ← Int.cast_zero, Int.cast_le]
    omega
  rw [int_of_nonneg (applyJitter_nonneg base offset), whole, applyJitter, le_max_iff, soon]
  push_cast
  rfl

/-- **A header passes** a time that is `base` seconds off unless the jitter takes it below the
whole seconds of that time. -/
theorem lt_header_iff (base offset : Rat) :
    base < (int (applyJitter base offset) + 1 : Int) ↔ base < 1 ∨ ⌊base⌋ ≤ base + offset := by
  have whole : base < ((⌊applyJitter base offset⌋ + 1 : Int) : Rat) ↔
      ((⌊base⌋ : Int) : Rat) ≤ applyJitter base offset := by
    rw [← Int.floor_lt, ← Int.le_floor]
    omega
  have soon : ((⌊base⌋ : Int) : Rat) ≤ 0 ↔ base < 1 := by
    have first : base < 1 ↔ ⌊base⌋ < 1 := by rw [Int.floor_lt, Int.cast_one]
    rw [first, ← Int.cast_zero, Int.cast_le]
    omega
  rw [int_of_nonneg (applyJitter_nonneg base offset), whole, applyJitter, le_max_iff, soon]

/-! ### The token bucket -/

section TokenBucket

variable {buckets after later : Buckets} {attempt : Attempt} {refusal : TooManyRequests}

/-- A refused client that makes no other request is let in when the header says so. -/
def TokenBucketSuffices (buckets : Buckets) (attempt : Attempt) : Prop :=
  ∀ refusal after, createObservationTokenBucket buckets attempt = (.refused refusal, after) →
    ∀ between later, Run (takeToken tokenBucket) after between later →
      (∀ entry ∈ between, entry.2.key ≠ attempt.ip) →
        admits tokenBucket later ⟨attempt.ip, attempt.answered + refusal.retryAfter⟩ = true

/-- The seconds from the answer on after which the client's bucket holds a token. -/
def tokenDue (buckets : Buckets) (attempt : Attempt) : Rat :=
  (1 - refilled tokenBucket buckets attempt.ip attempt.answered) / tokenBucket.refillPerSecond

/-- The jitter leaves the last whole second before the token is due, if there is one. -/
def TokenJitterLeaves (buckets : Buckets) (attempt : Attempt) : Prop :=
  admits tokenBucket buckets attempt.request = false →
    tokenDue buckets attempt ≤ 1 ∨
      ⌈tokenDue buckets attempt⌉ - 1 ≤ tokenDue buckets attempt + attempt.offset

theorem refilled_later {settings : BucketSettings} {now time : Rat} (passed : now ≤ time) (ip : String) :
    refilled settings buckets ip time =
      min (settings.capacity : Rat)
        (refilled settings buckets ip now + (time - now) * settings.refillPerSecond) := by
  have gained : 0 ≤ (time - now) * settings.refillPerSecond :=
    mul_nonneg (sub_nonneg.mpr passed) settings.positive.le
  cases found : buckets ip with
  | none =>
    have full : ∀ time, refilled settings buckets ip time = settings.capacity := by
      intro time
      simp [refilled, found]
    rw [full, full, min_eq_left (by linarith)]
  | some bucket =>
    have whole : min (settings.capacity : Rat)
        (settings.capacity + (time - now) * settings.refillPerSecond) = settings.capacity :=
      min_eq_left (by linarith)
    rw [refilled_of_some found, refilled_of_some found, ← min_add_add_right, ← min_assoc, whole]
    congr 1
    ring

/-- What a refused request is answered, and what it leaves in its bucket. -/
theorem createObservationTokenBucket_refused
    (answer : createObservationTokenBucket buckets attempt = (.refused refusal, after)) :
    admits tokenBucket buckets attempt.request = false ∧
      takeToken tokenBucket buckets attempt.request = some after ∧
      refusal.retryAfter =
        int (secondsUntilToken tokenBucket after attempt.ip attempt.answered attempt.offset) + 1 := by
  unfold createObservationTokenBucket at answer
  unfold admits takeToken Attempt.request
  cases consumed : consume tokenBucket buckets attempt.ip attempt.now with
  | mk result next =>
    obtain ⟨allowed, remaining⟩ := result
    rw [consumed] at answer
    cases allowed with
    | true => cases answer
    | false =>
      cases answer
      exact ⟨rfl, rfl, rfl⟩

theorem refused_of_admits_eq_false (refused : admits tokenBucket buckets attempt.request = false) :
    ∃ refusal after, createObservationTokenBucket buckets attempt = (.refused refusal, after) := by
  unfold admits Attempt.request at refused
  unfold createObservationTokenBucket
  cases consumed : consume tokenBucket buckets attempt.ip attempt.now with
  | mk result next =>
    obtain ⟨allowed, remaining⟩ := result
    rw [consumed] at refused
    cases (show allowed = false from refused)
    exact ⟨_, _, rfl⟩

theorem secondsUntilToken_nonneg (settings : BucketSettings) (buckets : Buckets) (key : String)
    (now offset : Rat) : 0 ≤ secondsUntilToken settings buckets key now offset := by
  unfold secondsUntilToken
  by_cases enough : 1 - refilled settings buckets key now ≤ 0
  · simp only [enough, if_true]
    exact le_rfl
  · simp only [enough, if_false]
    exact applyJitter_nonneg _ _

/-- The bucket after a refusal is the one before it. -/
theorem refilled_after (refused : admits tokenBucket buckets attempt.request = false)
    (step : takeToken tokenBucket buckets attempt.request = some after) {time : Rat}
    (passed : attempt.now ≤ time) :
    refilled tokenBucket after attempt.ip time = refilled tokenBucket buckets attempt.ip time := by
  rw [takeToken_eq, leftOver_of_refused refused] at step
  rw [← Option.some.inj step]
  refine (refilled_of_some (Function.update_self ..) time).trans ?_
  exact (refilled_later passed attempt.ip).symm

/-- The time that the limiter tells, with the jitter, reaches the time that is due or not. -/
theorem tokenDue_le_header_iff (refused : admits tokenBucket buckets attempt.request = false)
    (step : takeToken tokenBucket buckets attempt.request = some after) :
    tokenDue buckets attempt ≤ (int (secondsUntilToken tokenBucket after attempt.ip attempt.answered
        attempt.offset) + 1 : Int) ↔
      tokenDue buckets attempt ≤ 1 ∨
        ⌈tokenDue buckets attempt⌉ - 1 ≤ tokenDue buckets attempt + attempt.offset := by
  have same := refilled_after refused step attempt.inOrder
  by_cases enough : 1 - refilled tokenBucket buckets attempt.ip attempt.answered ≤ 0
  · have soon : tokenDue buckets attempt ≤ 0 :=
      div_nonpos_of_nonpos_of_nonneg enough tokenBucket.positive.le
    have now : secondsUntilToken tokenBucket after attempt.ip attempt.answered attempt.offset = 0 := by
      simp only [secondsUntilToken, same, enough, if_true]
    rw [now, int_of_nonneg le_rfl, Int.floor_zero]
    refine iff_of_true ?_ (Or.inl (by linarith))
    push_cast
    linarith
  · have due : secondsUntilToken tokenBucket after attempt.ip attempt.answered attempt.offset =
        applyJitter (tokenDue buckets attempt) attempt.offset := by
      simp only [secondsUntilToken, same, enough, if_false, tokenDue]
    rw [due]
    exact le_header_iff _ _

/-- The client is let in exactly when the token is due. -/
theorem admits_later_iff (refused : admits tokenBucket buckets attempt.request = false)
    (step : takeToken tokenBucket buckets attempt.request = some after)
    (alone : later attempt.ip = after attempt.ip) {wait : Rat} (nonneg : 0 ≤ wait) :
    admits tokenBucket later ⟨attempt.ip, attempt.answered + wait⟩ = true ↔
      tokenDue buckets attempt ≤ wait := by
  have passed : attempt.answered ≤ attempt.answered + wait := le_add_of_nonneg_right nonneg
  rw [admits_iff, refilled_congr alone, refilled_after refused step (attempt.inOrder.trans passed),
    refilled_later passed, le_min_iff, add_sub_cancel_left, tokenDue, div_le_iff₀ tokenBucket.positive]
  have room : (1 : Rat) ≤ tokenBucket.capacity := by norm_num [tokenBucket]
  constructor
  · rintro ⟨-, enough⟩
    linarith
  · intro enough
    exact ⟨room, by linarith⟩

theorem tokenBucketSuffices_iff (buckets : Buckets) (attempt : Attempt) :
    TokenBucketSuffices buckets attempt ↔ TokenJitterLeaves buckets attempt := by
  constructor
  · intro suffices_ refused
    obtain ⟨refusal, after, answer⟩ := refused_of_admits_eq_false refused
    obtain ⟨-, step, header⟩ := createObservationTokenBucket_refused answer
    have nonneg := header_nonneg
      (secondsUntilToken_nonneg tokenBucket after attempt.ip attempt.answered attempt.offset)
    have admitted := suffices_ refusal after answer [] after .init nofun
    rw [header, admits_later_iff refused step rfl nonneg] at admitted
    exact (tokenDue_le_header_iff refused step).mp admitted
  · intro leaves refusal after answer between later run others
    obtain ⟨refused, step, header⟩ := createObservationTokenBucket_refused answer
    have nonneg := header_nonneg
      (secondsUntilToken_nonneg tokenBucket after attempt.ip attempt.answered attempt.offset)
    rw [header, admits_later_iff refused step (alone_of_run run others) nonneg]
    exact (tokenDue_le_header_iff refused step).mpr (leaves refused)

end TokenBucket

/-! ### The sliding window -/

section SlidingWindow

variable {windows after later : Windows} {attempt : Attempt} {refusal : TooManyRequests}
  {history : List (Windows × Request)}

/-- A refused client that makes no other request is let in when the header says so. -/
def SlidingWindowSuffices (windows : Windows) (attempt : Attempt) : Prop :=
  ∀ refusal after, createObservationSlidingWindow windows attempt = (.refused refusal, after) →
    ∀ between later, Run slidingWindow.next after between later →
      (∀ entry ∈ between, entry.2.key ≠ attempt.ip) →
        (slidingWindow.answer later ⟨attempt.ip, attempt.answered + refusal.retryAfter⟩).1 = true

/-- The times of the client that its request still counts. -/
def counted (windows : Windows) (attempt : Attempt) : List Rat :=
  (windows attempt.ip).dropWhile fun timestamp =>
    decide (timestamp < attempt.now - slidingWindow.windowSeconds)

/-- The seconds from the answer on for which a time counts. -/
def windowDue (attempt : Attempt) (oldest : Rat) : Rat :=
  oldest + slidingWindow.windowSeconds - attempt.answered

/-- The jitter leaves the whole seconds for which the oldest counted time still counts, if there
are any. -/
def WindowJitterLeaves (windows : Windows) (attempt : Attempt) : Prop :=
  (slidingWindow.answer windows attempt.request).1 = false →
    ∀ oldest ∈ (counted windows attempt).head?,
      windowDue attempt oldest < 1 ∨ ⌊windowDue attempt oldest⌋ ≤ windowDue attempt oldest + attempt.offset

/-- A window never holds more times than its limit. -/
theorem length_le_of_run {limiter : SlidingWindowLimiter}
    (run : Run limiter.next SlidingWindowLimiter.empty history windows) (key : String) :
    (windows key).length ≤ limiter.limit := by
  refine Run.stateInvariant (I := fun windows : Windows => ∀ key, (windows key).length ≤ limiter.limit)
    (fun _ => Nat.zero_le _) ?_ run key
  intro windows request windows' bound step key
  rw [SlidingWindowLimiter.next_eq] at step
  obtain rfl := Option.some.inj step
  by_cases own : key = request.key
  · subst own
    rw [Function.update_self]
    cases granted : (limiter.window.ask request.now (windows request.key)).1 with
    | true =>
      rw [RollingWindow.ask_granted granted, List.length_append]
      exact RollingWindow.ask_fst_iff.mp granted
    | false =>
      rw [RollingWindow.ask_refused granted]
      exact (List.dropWhile_sublist _).length_le.trans (bound request.key)
  · rw [Function.update_of_ne own]
    exact bound key

/-- What a refused request is answered, and what it leaves in its window. -/
theorem createObservationSlidingWindow_refused
    (answer : createObservationSlidingWindow windows attempt = (.refused refusal, after)) :
    (slidingWindow.answer windows attempt.request).1 = false ∧
      slidingWindow.next windows attempt.request = some after ∧
      refusal.retryAfter =
        int (slidingWindow.resetIn after attempt.ip attempt.answered attempt.offset) + 1 := by
  unfold createObservationSlidingWindow at answer
  unfold SlidingWindowLimiter.answer SlidingWindowLimiter.next Attempt.request
  cases checked : slidingWindow.isAllowed windows attempt.ip attempt.now with
  | mk result next =>
    obtain ⟨allowed, remaining⟩ := result
    rw [checked] at answer
    cases allowed with
    | true => cases answer
    | false =>
      cases answer
      exact ⟨rfl, rfl, rfl⟩

theorem refused_of_answer_eq_false (refused : (slidingWindow.answer windows attempt.request).1 = false) :
    ∃ refusal after, createObservationSlidingWindow windows attempt = (.refused refusal, after) := by
  unfold SlidingWindowLimiter.answer Attempt.request at refused
  unfold createObservationSlidingWindow
  cases checked : slidingWindow.isAllowed windows attempt.ip attempt.now with
  | mk result next =>
    obtain ⟨allowed, remaining⟩ := result
    rw [checked] at refused
    cases (show allowed = false from refused)
    exact ⟨_, _, rfl⟩

/-- **A refusal** leaves the counted times, as many as the limit. -/
theorem counted_after (bound : (windows attempt.ip).length ≤ slidingWindow.limit)
    (refused : (slidingWindow.answer windows attempt.request).1 = false)
    (step : slidingWindow.next windows attempt.request = some after) :
    after attempt.ip = counted windows attempt ∧
      (counted windows attempt).length = slidingWindow.limit := by
  have counts : slidingWindow.window.expire attempt.request.now (windows attempt.request.key) =
      counted windows attempt := rfl
  rw [SlidingWindowLimiter.answer_fst] at refused
  rw [SlidingWindowLimiter.next_eq, RollingWindow.ask_refused refused, counts] at step
  rw [← Bool.not_eq_true, RollingWindow.ask_fst_iff, counts, SlidingWindowLimiter.window_limit,
    not_lt] at refused
  refine ⟨?_, le_antisymm ((List.dropWhile_sublist _).length_le.trans bound) refused⟩
  rw [← Option.some.inj step]
  exact Function.update_self ..

/-- The time that the limiter tells, with the jitter, passes the time that is due or not. -/
theorem windowDue_lt_header_iff {oldest : Rat} {rest : List Rat}
    (stored : after attempt.ip = oldest :: rest) :
    windowDue attempt oldest < (int (slidingWindow.resetIn after attempt.ip attempt.answered
        attempt.offset) + 1 : Int) ↔
      windowDue attempt oldest < 1 ∨
        ⌊windowDue attempt oldest⌋ ≤ windowDue attempt oldest + attempt.offset := by
  have reset : slidingWindow.resetIn after attempt.ip attempt.answered attempt.offset =
      applyJitter (max 0 (windowDue attempt oldest)) attempt.offset := by
    simp only [SlidingWindowLimiter.resetIn, stored, windowDue]
  rw [reset]
  by_cases passed : windowDue attempt oldest < 0
  · have nonneg := header_nonneg (applyJitter_nonneg (max 0 (windowDue attempt oldest)) attempt.offset)
    exact iff_of_true (passed.trans_le nonneg) (Or.inl (by linarith))
  · rw [max_eq_right (not_lt.mp passed)]
    exact lt_header_iff _ _

/-- The client is let in exactly when the oldest counted time counts no more. -/
theorem answer_later_iff {oldest : Rat} {rest : List Rat} (stored : later attempt.ip = oldest :: rest)
    (full : (oldest :: rest).length = slidingWindow.limit) (wait : Rat) :
    (slidingWindow.answer later ⟨attempt.ip, attempt.answered + wait⟩).1 = true ↔
      windowDue attempt oldest < wait := by
  rw [SlidingWindowLimiter.answer_fst, stored, RollingWindow.ask_full_iff full, windowDue,
    SlidingWindowLimiter.window_width]
  constructor
  · intro old
    linarith
  · intro due
    linarith

/-- Between a refusal and a later request of the client its window stays. -/
theorem window_alone {start : Windows} {key : String}
    (run : Run slidingWindow.next start history windows)
    (others : ∀ entry ∈ history, entry.2.key ≠ key) : windows key = start key :=
  @Run.unmoved _ _ _ _ _ _ _ (fun windows : Windows => windows key) (fun request => request.key = key)
    (fun step other => slidingWindow.keyed.other step key (Ne.symm other)) run others

theorem slidingWindowSuffices_iff
    (run : Run slidingWindow.next SlidingWindowLimiter.empty history windows) (attempt : Attempt) :
    SlidingWindowSuffices windows attempt ↔ WindowJitterLeaves windows attempt := by
  have bound := length_le_of_run run attempt.ip
  have nonempty : ∀ {after}, (slidingWindow.answer windows attempt.request).1 = false →
      slidingWindow.next windows attempt.request = some after →
        ∃ oldest rest, counted windows attempt = oldest :: rest ∧ after attempt.ip = oldest :: rest ∧
          (oldest :: rest).length = slidingWindow.limit := by
    intro after refused step
    obtain ⟨stored, full⟩ := counted_after bound refused step
    cases counts : counted windows attempt with
    | nil =>
      rw [counts] at full
      cases full
    | cons oldest rest => exact ⟨oldest, rest, rfl, stored.trans counts, counts ▸ full⟩
  constructor
  · intro suffices_ refused oldest first
    obtain ⟨refusal, after, answer⟩ := refused_of_answer_eq_false refused
    obtain ⟨-, step, header⟩ := createObservationSlidingWindow_refused answer
    obtain ⟨_, rest, counts, stored, full⟩ := nonempty refused step
    rw [counts, List.head?_cons, Option.mem_some_iff] at first
    subst first
    have admitted := suffices_ refusal after answer [] after .init nofun
    rw [header, answer_later_iff stored full] at admitted
    exact (windowDue_lt_header_iff stored).mp admitted
  · intro leaves refusal after answer between later run others
    obtain ⟨refused, step, header⟩ := createObservationSlidingWindow_refused answer
    obtain ⟨oldest, rest, counts, stored, full⟩ := nonempty refused step
    have first : oldest ∈ (counted windows attempt).head? := by
      rw [counts]
      exact rfl
    rw [header, answer_later_iff ((window_alone run others).trans stored) full]
    exact (windowDue_lt_header_iff stored).mpr (leaves refused oldest first)

end SlidingWindow

/-- **`Retry-After` suffices** exactly when the jitter leaves enough of the time that is due: for a
client of the token bucket, and for one of the sliding window. -/
theorem retry_after_suffices_iff (buckets : Buckets) {history : List (Windows × Request)}
    {windows : Windows} (run : Run slidingWindow.next SlidingWindowLimiter.empty history windows)
    (attempt : Attempt) :
    (TokenBucketSuffices buckets attempt ↔ TokenJitterLeaves buckets attempt) ∧
      (SlidingWindowSuffices windows attempt ↔ WindowJitterLeaves windows attempt) :=
  ⟨tokenBucketSuffices_iff buckets attempt, slidingWindowSuffices_iff run attempt⟩

/-! ### A client that comes back too early -/

/-- Ten requests at once. -/
def burst : List Request := List.replicate 10 ⟨"10.0.0.1", 0⟩

def afterBurst : Windows := (finalState slidingWindow.next SlidingWindowLimiter.empty burst).get rfl

theorem run_burst : ∃ history, Run slidingWindow.next SlidingWindowLimiter.empty history afterBurst ∧
    history.map Prod.snd = burst.reverse :=
  run_of_isSome_labels (show (finalState slidingWindow.next SlidingWindowLimiter.empty burst).isSome =
    true from rfl)

/-- A request after the burst, answered with the jitter's offset. -/
def followUp (offset : Rat) (drawn : -jitterMinSeconds ≤ offset ∧ offset ≤ jitterMaxSeconds) : Attempt where
  ip := "10.0.0.1"
  now := 0
  answered := 0
  offset
  inOrder := le_rfl
  drawn

/-- The client is told 56 seconds, and its window is full for 60. -/
theorem retry_after_too_early : ∃ history attempt,
    Run slidingWindow.next SlidingWindowLimiter.empty history afterBurst ∧
      history.map Prod.snd = burst.reverse ∧ ¬ SlidingWindowSuffices afterBurst attempt := by
  obtain ⟨history, run, labels⟩ := run_burst
  let early := followUp (-5) (by norm_num [jitterMinSeconds, jitterMaxSeconds])
  refine ⟨history, early, run, labels, ?_⟩
  have counts : counted afterBurst early = List.replicate 10 0 := by decide +kernel
  have refused : (slidingWindow.answer afterBurst early.request).1 = false := by decide +kernel
  rw [slidingWindowSuffices_iff run]
  intro leaves
  have due := leaves refused 0 (by rw [counts]; rfl)
  norm_num [windowDue, early, followUp, slidingWindow] at due

theorem retry_after_suffices_burst : ∃ history attempt,
    Run slidingWindow.next SlidingWindowLimiter.empty history afterBurst ∧
      history.map Prod.snd = burst.reverse ∧
      (SlidingWindowSuffices afterBurst attempt ↔ WindowJitterLeaves afterBurst attempt) := by
  obtain ⟨history, run, labels⟩ := run_burst
  exact ⟨history, followUp 0 (by norm_num [jitterMinSeconds, jitterMaxSeconds]), run, labels,
    (retry_after_suffices_iff Limiters.empty.buckets run _).2⟩

end ApiObservatory.RateLimiting
