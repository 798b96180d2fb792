import Mathlib.Algebra.Order.Field.Rat
import Mathlib.Data.Rat.Floor
import Mathlib.Logic.Function.Basic

/-
The token bucket of the v1 routes: the limiter in the process
(`services/ingestor/rate_limiting_advanced.py`) and the Lua script that Redis runs
(`services/ingestor/rate_limiting_token_bucket.py`).

Times are in seconds and all arithmetic is exact. A request has one clock time, that of
`time.monotonic()` and of the Redis `TIME`.
-/

namespace ApiObservatory.RateLimiting

/-- `V1_TOKEN_BUCKET_CAPACITY` and `V1_TOKEN_BUCKET_REFILL_PER_SEC`. -/
structure BucketSettings where
  capacity : Int
  refillPerSecond : Rat
  positive : 0 < refillPerSecond

/-! ### The limiter in the process -/

/-- The `_buckets` of a `TokenBucketLimiter`: the tokens, and the time of the last refill. -/
abbrev Buckets := String → Option (Rat × Rat)

section Limiter

variable (settings : BucketSettings) (buckets : Buckets) (key : String)

/-- The tokens of a bucket after the time that has passed; a missing bucket is full. -/
def refilled (now : Rat) : Rat :=
  let (current, lastRefill) := (buckets key).getD (settings.capacity, now)
  let elapsed := now - lastRefill
  min settings.capacity (current + elapsed * settings.refillPerSecond)

/-- `TokenBucketLimiter.consume`. -/
def consume (now : Rat) (tokens : Int := 1) : (Bool × Rat) × Buckets :=
  let current := refilled settings buckets key now
  if current ≥ tokens then
    let current := current - tokens
    ((true, current), Function.update buckets key (some (current, now)))
  else ((false, current), Function.update buckets key (some (current, now)))

/-- `apply_jitter`, with the offset that was drawn. -/
def applyJitter (baseValue offset : Rat) : Rat := max 0 (baseValue + offset)

/-- `TokenBucketLimiter.seconds_until_token`; without jitter the offset is zero. -/
def secondsUntilToken (now : Rat) (offset : Rat := 0) : Rat :=
  let current := refilled settings buckets key now
  let deficit := 1 - current
  if deficit ≤ 0 then 0
  else
    let base := deficit / settings.refillPerSecond
    applyJitter base offset

end Limiter

/-! ### The script -/

/-- The hash of a key in Redis, and when the key expires. -/
structure BucketHash where
  tokens : Rat
  last : Rat
  expires : Rat

abbrev RedisBuckets := String → Option BucketHash

/-- What `HGET` finds: an expired key is gone. -/
def live (store : RedisBuckets) (key : String) (now : Rat) : Option BucketHash :=
  (store key).filter fun hash => now < hash.expires

/-- The integer that Redis makes of a number of a script's reply. -/
def replyInteger (number : Rat) : Int := if 0 ≤ number then ⌊number⌋ else ⌈number⌉

/-- `_TOKEN_BUCKET_LUA`: `{allowed, tokens, retry_after}`. -/
def tokenBucketLua (store : RedisBuckets) (key : String) (capacity : Int) (refill : Rat)
    (ttl : Int) (now : Rat) : (Int × Int × Int) × RedisBuckets :=
  let hash := live store key now
  let tokens : Rat := (hash.map BucketHash.tokens).getD capacity
  let last := (hash.map BucketHash.last).getD now
  let tokens : Rat := min capacity (tokens + max 0 (now - last) * refill)
  let (tokens, allowed) : Rat × Rat := if tokens ≥ 1 then (tokens - 1, 1) else (tokens, 0)
  let retryAfter : Rat := if allowed = 0 then ⌈(1 - tokens) / refill⌉ else 0
  ((replyInteger allowed, replyInteger tokens, replyInteger retryAfter),
    Function.update store key (some { tokens, last := now, expires := now + ttl }))

/-! ### The dependency of the routes -/

/-- `_rate_limit_headers`. -/
def rateLimitHeaders (settings : BucketSettings) (remaining : Rat) (retryAfter : Option Int) :
    List (String × String) :=
  [("X-RateLimit-Strategy", "token-bucket"),
    ("X-RateLimit-Limit", toString settings.capacity),
    ("X-RateLimit-Remaining", toString (max 0 ⌊remaining⌋))] ++
  match retryAfter with
  | none => []
  | some retryAfter => [("Retry-After", toString (max 1 retryAfter))]

/-- Where a token is taken from: the cache is disabled, Redis answers, or its call raises
a `RedisError`. -/
inductive Backend where
  | disabled
  | redis
  | redisError
deriving DecidableEq

structure Limiters where
  buckets : Buckets
  redis : RedisBuckets

def Limiters.empty : Limiters where
  buckets _ := none
  redis _ := none

section Routes

variable (settings : BucketSettings) (backend : Backend) (limiters : Limiters) (key : String)
  (now : Rat)

/-- `ttl_seconds`. -/
def ttlSeconds : Int := max 1 ⌈settings.capacity / settings.refillPerSecond * 2⌉

def redisKey : String := "rate-limit:v1:" ++ key

/-- The local bucket: `consume`, and `seconds_until_token` for a refused request. -/
def consumeLocally : (Bool × Rat × Option Int) × Limiters :=
  let ((allowed, remaining), buckets) := consume settings limiters.buckets key now
  let retryAfter :=
    if !allowed then some ⌈secondsUntilToken settings buckets key now⌉ else none
  ((allowed, remaining, retryAfter), { limiters with buckets })

/-- `retry_after or None`. -/
def orNone : Option Int → Option Int
  | some 0 => none
  | retryAfter => retryAfter

/-- `_consume`. -/
def consumeToken : (Bool × Rat × Option Int) × Limiters :=
  match backend with
  | .disabled => consumeLocally settings limiters key now
  | .redis =>
      let ((allowed, remaining, retryAfter), redis) :=
        tokenBucketLua limiters.redis (redisKey key) settings.capacity settings.refillPerSecond
          (ttlSeconds settings) now
      ((allowed != 0, remaining, orNone (some retryAfter)), { limiters with redis })
  | .redisError =>
      let ((allowed, remaining, retryAfter), limiters) :=
        consumeLocally settings limiters key now
      ((allowed, remaining, orNone retryAfter), limiters)

/-- What `enforce_v1_token_bucket` makes of a request. -/
inductive Answer where
  | admitted (headers : List (String × String))
  | refused (statusCode : Nat) (detail : String) (headers : List (String × String))
deriving DecidableEq

/-- `enforce_v1_token_bucket` and `enforce_public_v1_token_bucket`, for the key they build. -/
def enforceV1TokenBucket : Answer × Limiters :=
  let ((allowed, remaining, retryAfter), limiters) :=
    consumeToken settings backend limiters key now
  let headers := rateLimitHeaders settings remaining retryAfter
  if !allowed then (.refused 429 "Rate limit exceeded" headers, limiters)
  else (.admitted headers, limiters)

end Routes

/-- A request, by its key and its time. -/
structure Request where
  key : String
  now : Rat

/-- The answers to some requests. -/
def answers (settings : BucketSettings) (backend : Backend) :
    Limiters → List Request → List Answer
  | _, [] => []
  | limiters, request :: rest =>
      let (answer, limiters) :=
        enforceV1TokenBucket settings backend limiters request.key request.now
      answer :: answers settings backend limiters rest

end ApiObservatory.RateLimiting
