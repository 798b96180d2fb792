import ApiObservatory.RateLimiting.TokenBucket

/-
The script on Redis and the limiter in the process are one limiter: a key that Redis has
dropped stands for a bucket that has filled up again.
-/

namespace ApiObservatory.RateLimiting

variable {settings : BucketSettings} {buckets : Buckets} {store : RedisBuckets} {key : String}
  {clock now : Rat} {limiters : Limiters}

/-! ### The headers -/

/-- Redis cuts a number of a reply towards zero, which the header does not show. -/
theorem floor_replyInteger (number : Rat) :
    max 0 ⌊(replyInteger number : Rat)⌋ = max 0 ⌊number⌋ := by
  rw [Int.floor_intCast]
  unfold replyInteger
  split
  · rfl
  · rename_i hneg
    have hceil : ⌈number⌉ ≤ 0 := Int.ceil_le.2 (by exact_mod_cast (not_le.1 hneg).le)
    have hfloor : ⌊number⌋ ≤ 0 := by
      exact_mod_cast (Int.floor_le number).trans (not_le.1 hneg).le
    rw [max_eq_left hceil, max_eq_left hfloor]

theorem replyInteger_intCast (n : Int) : replyInteger (n : Rat) = n := by
  unfold replyInteger
  split <;> simp

theorem rateLimitHeaders_replyInteger (settings : BucketSettings) (remaining : Rat)
    (retryAfter : Option Int) :
    rateLimitHeaders settings (replyInteger remaining) retryAfter =
      rateLimitHeaders settings remaining retryAfter := by
  simp only [rateLimitHeaders, floor_replyInteger]

/-! ### A refill -/

theorem refilled_le_capacity : refilled settings buckets key now ≤ settings.capacity :=
  min_le_left _ _

/-- The bucket that a call has just written does not change when it is refilled at once. -/
theorem refilled_update {current : Rat} (hcurrent : current ≤ settings.capacity) :
    refilled settings (Function.update buckets key (some (current, now))) key now = current := by
  simp [refilled, hcurrent]

/-- The time after which a key expires fills every bucket. -/
theorem capacity_le_ttl (settings : BucketSettings) :
    max 0 (settings.capacity : Rat) ≤ ttlSeconds settings * settings.refillPerSecond := by
  have hpos := settings.positive
  have hone : (1 : Rat) ≤ ttlSeconds settings := by
    exact_mod_cast le_max_left 1 _
  have htwice : settings.capacity / settings.refillPerSecond * 2 ≤ (ttlSeconds settings : Rat) :=
    (Int.le_ceil _).trans (by exact_mod_cast le_max_right 1 _)
  have hfill : (settings.capacity : Rat) * 2 ≤ ttlSeconds settings * settings.refillPerSecond := by
    have := mul_le_mul_of_nonneg_right htwice hpos.le
    have heq : settings.capacity / settings.refillPerSecond * 2 * settings.refillPerSecond =
        settings.capacity * 2 := by
      field_simp
    linarith
  have hnonneg : 0 ≤ ttlSeconds settings * settings.refillPerSecond :=
    mul_nonneg (by linarith) hpos.le
  rcases le_total 0 (settings.capacity : Rat) with hcap | hcap
  · rw [max_eq_right hcap]
    linarith
  · rwa [max_eq_left hcap]

/-! ### What the hashes stand for -/

/-- The hash that stands for a bucket. -/
def hashOf (settings : BucketSettings) (bucket : Rat × Rat) : BucketHash where
  tokens := bucket.1
  last := bucket.2
  expires := bucket.2 + ttlSeconds settings

/-- The script's hashes stand for the buckets, none of which was written after `clock`. -/
structure Represents (settings : BucketSettings) (clock : Rat) (store : RedisBuckets)
    (buckets : Buckets) : Prop where
  hash : ∀ key, store (redisKey key) = (buckets key).map (hashOf settings)
  tokens : ∀ key bucket, buckets key = some bucket → min 0 (settings.capacity : Rat) ≤ bucket.1
  written : ∀ key bucket, buckets key = some bucket → bucket.2 ≤ clock

theorem Represents.empty (settings : BucketSettings) (clock : Rat) :
    Represents settings clock Limiters.empty.redis Limiters.empty.buckets where
  hash _ := rfl
  tokens _ _ h := nomatch h
  written _ _ h := nomatch h

/-- A bucket whose key has expired is full. -/
theorem refilled_of_expired {bucket : Rat × Rat} (hbucket : buckets key = some bucket)
    (htokens : min 0 (settings.capacity : Rat) ≤ bucket.1)
    (hexpired : (hashOf settings bucket).expires ≤ now) :
    refilled settings buckets key now = settings.capacity := by
  have hpos := settings.positive
  have helapsed : (ttlSeconds settings : Rat) ≤ now - bucket.2 := by
    simp only [hashOf] at hexpired
    linarith
  have hrefill : max 0 (settings.capacity : Rat) ≤ (now - bucket.2) * settings.refillPerSecond :=
    (capacity_le_ttl settings).trans (mul_le_mul_of_nonneg_right helapsed hpos.le)
  have hsum := min_add_max 0 (settings.capacity : Rat)
  simp only [refilled, hbucket, Option.getD_some]
  exact min_eq_left (by linarith)

/-- What the script reads of a key: the hash of the bucket, until the key expires. -/
theorem Represents.live_eq (h : Represents settings clock store buckets) (key : String)
    (now : Rat) :
    live store (redisKey key) now =
      ((buckets key).map (hashOf settings)).filter fun hash => now < hash.expires := by
  rw [live, h.hash]

/-- The script refills a bucket as the limiter does. -/
theorem Represents.refill (h : Represents settings clock store buckets) (hnow : clock ≤ now) :
    min (settings.capacity : Rat)
      (((live store (redisKey key) now).map BucketHash.tokens).getD settings.capacity +
        max 0 (now - ((live store (redisKey key) now).map BucketHash.last).getD now) *
          settings.refillPerSecond) =
      refilled settings buckets key now := by
  rw [h.live_eq]
  cases hbucket : buckets key with
  | none => simp [hbucket, refilled]
  | some bucket =>
      by_cases hlive : now < (hashOf settings bucket).expires
      · have hlast : 0 ≤ now - bucket.2 := by linarith [h.written key bucket hbucket]
        rw [Option.map_some, Option.filter_some_pos (by simpa using hlive)]
        simp [hbucket, refilled, hashOf, hlast]
      · rw [refilled_of_expired hbucket (h.tokens key bucket hbucket) (not_lt.1 hlive),
          Option.map_some, Option.filter_some_neg (by simpa using hlive)]
        simp

theorem min_le_refilled (h : Represents settings clock store buckets) (hnow : clock ≤ now) :
    min 0 (settings.capacity : Rat) ≤ refilled settings buckets key now := by
  unfold refilled
  cases hbucket : buckets key with
  | none => simp
  | some bucket =>
      have htokens := h.tokens key bucket hbucket
      have hlast : 0 ≤ now - bucket.2 := by linarith [h.written key bucket hbucket]
      have := mul_nonneg hlast settings.positive.le
      simp only [Option.getD_some]
      exact le_min (min_le_right _ _) (by linarith)

theorem redisKey_injective : Function.Injective redisKey :=
  fun _ _ => (String.append_right_inj _).1

/-- Both limiters write the tokens that are left. -/
theorem Represents.update (h : Represents settings clock store buckets) (hnow : clock ≤ now)
    (key : String) {current : Rat} (hcurrent : min 0 (settings.capacity : Rat) ≤ current) :
    Represents settings now
      (Function.update store (redisKey key) (some (hashOf settings (current, now))))
      (Function.update buckets key (some (current, now))) where
  hash other := by
    by_cases hother : other = key
    · subst hother
      simp
    · have : redisKey other ≠ redisKey key := fun heq => hother (redisKey_injective heq)
      simp [Function.update_of_ne, hother, this, h.hash]
  tokens other bucket hbucket := by
    by_cases hother : other = key
    · subst hother
      simp only [Function.update_self, Option.some.injEq] at hbucket
      rwa [← hbucket]
    · rw [Function.update_of_ne hother] at hbucket
      exact h.tokens other bucket hbucket
  written other bucket hbucket := by
    by_cases hother : other = key
    · subst hother
      simp only [Function.update_self, Option.some.injEq] at hbucket
      rw [← hbucket]
    · rw [Function.update_of_ne hother] at hbucket
      exact (h.written other bucket hbucket).trans hnow

/-! ### The same answers -/

/-- The tokens that a call leaves. -/
def leftOver (settings : BucketSettings) (buckets : Buckets) (key : String) (now : Rat) : Rat :=
  if refilled settings buckets key now ≥ 1 then refilled settings buckets key now - 1
  else refilled settings buckets key now

/-- A refused request is told the time until the bucket holds one token, rounded up. -/
def retryAfter (settings : BucketSettings) (buckets : Buckets) (key : String) (now : Rat) :
    Option Int :=
  if refilled settings buckets key now ≥ 1 then none
  else some ⌈(1 - refilled settings buckets key now) / settings.refillPerSecond⌉

theorem consume_eq :
    consume settings buckets key now =
      ((decide (refilled settings buckets key now ≥ 1), leftOver settings buckets key now),
        Function.update buckets key (some (leftOver settings buckets key now, now))) := by
  unfold consume leftOver
  by_cases hq : refilled settings buckets key now ≥ 1
  · simp [hq]
  · simp [hq]

/-- After a refusal the bucket is as the call left it, so the time is that of its deficit. -/
theorem secondsUntilToken_of_refused (hq : ¬refilled settings buckets key now ≥ 1) :
    secondsUntilToken settings
        (Function.update buckets key (some (leftOver settings buckets key now, now))) key now =
      (1 - refilled settings buckets key now) / settings.refillPerSecond := by
  have hdeficit : ¬1 - refilled settings buckets key now ≤ 0 := by linarith [not_le.1 hq]
  have hbase : 0 ≤ (1 - refilled settings buckets key now) / settings.refillPerSecond :=
    div_nonneg (not_le.1 hdeficit).le settings.positive.le
  have hleft : leftOver settings buckets key now = refilled settings buckets key now := if_neg hq
  rw [secondsUntilToken, hleft, refilled_update refilled_le_capacity]
  simp only [if_neg hdeficit, applyJitter, add_zero]
  exact max_eq_right hbase

theorem consumeLocally_eq :
    consumeLocally settings limiters key now =
      ((decide (refilled settings limiters.buckets key now ≥ 1),
          leftOver settings limiters.buckets key now,
          retryAfter settings limiters.buckets key now),
        { limiters with
          buckets := Function.update limiters.buckets key
            (some (leftOver settings limiters.buckets key now, now)) }) := by
  simp only [consumeLocally, consume_eq, retryAfter]
  by_cases hq : refilled settings limiters.buckets key now ≥ 1
  · simp [hq]
  · simp only [hq, decide_false, Bool.not_false, if_true, if_false]
    rw [secondsUntilToken_of_refused hq]

theorem tokenBucketLua_eq (h : Represents settings clock store buckets) (hnow : clock ≤ now) :
    tokenBucketLua store (redisKey key) settings.capacity settings.refillPerSecond
        (ttlSeconds settings) now =
      ((if refilled settings buckets key now ≥ 1 then 1 else 0,
          replyInteger (leftOver settings buckets key now),
          (retryAfter settings buckets key now).getD 0),
        Function.update store (redisKey key)
          (some (hashOf settings (leftOver settings buckets key now, now)))) := by
  simp only [tokenBucketLua, h.refill hnow, leftOver, retryAfter, hashOf]
  by_cases hq : refilled settings buckets key now ≥ 1
  · simp only [hq, if_true, one_ne_zero, if_false]
    simp [replyInteger]
  · simp only [hq, if_false, if_true, replyInteger_intCast]
    simp [replyInteger]

/-- A `Retry-After` is at least one second, so `retry_after or None` drops none. -/
theorem orNone_retryAfter : orNone (retryAfter settings buckets key now) =
    retryAfter settings buckets key now := by
  unfold retryAfter
  split
  · rfl
  · rename_i hq
    have hpos : 0 < ⌈(1 - refilled settings buckets key now) / settings.refillPerSecond⌉ :=
      Int.ceil_pos.2 (div_pos (by linarith [not_le.1 hq]) settings.positive)
    unfold orNone
    split
    · rename_i heq
      rw [Option.some.inj heq] at hpos
      exact absurd hpos (lt_irrefl 0)
    · rfl

theorem orNone_getD_retryAfter : orNone (some ((retryAfter settings buckets key now).getD 0)) =
    retryAfter settings buckets key now := by
  cases hretry : retryAfter settings buckets key now with
  | none => rfl
  | some seconds => exact hretry ▸ orNone_retryAfter

attribute [local simp] consumeToken enforceV1TokenBucket

variable {redisSide localSide : Limiters}

/-- A request is answered alike, and the hashes still stand for the buckets. -/
theorem enforceV1TokenBucket_redis
    (h : Represents settings clock redisSide.redis localSide.buckets) (hnow : clock ≤ now)
    (key : String) :
    (enforceV1TokenBucket settings .redis redisSide key now).1 =
        (enforceV1TokenBucket settings .disabled localSide key now).1 ∧
      Represents settings now (enforceV1TokenBucket settings .redis redisSide key now).2.redis
        (enforceV1TokenBucket settings .disabled localSide key now).2.buckets := by
  have hleft : min 0 (settings.capacity : Rat) ≤ leftOver settings localSide.buckets key now := by
    unfold leftOver
    split
    · rename_i hq
      exact (min_le_left _ _).trans (by linarith)
    · exact min_le_refilled h hnow
  have hnext := h.update hnow key hleft
  simp only [enforceV1TokenBucket, consumeToken, tokenBucketLua_eq h hnow, consumeLocally_eq,
    orNone_getD_retryAfter, rateLimitHeaders_replyInteger]
  by_cases hq : refilled settings localSide.buckets key now ≥ 1
  · simpa [hq] using hnext
  · simpa [hq] using hnext

/-- After a `RedisError` the bucket in the process decides. -/
theorem enforceV1TokenBucket_redisError :
    enforceV1TokenBucket settings .redisError limiters key now =
      enforceV1TokenBucket settings .disabled limiters key now := by
  simp [consumeLocally_eq, orNone_retryAfter]

theorem answers_redisError (requests : List Request) :
    answers settings .redisError limiters requests =
      answers settings .disabled limiters requests := by
  induction requests generalizing limiters with
  | nil => rfl
  | cons request rest ih =>
      simp only [answers, enforceV1TokenBucket_redisError, ih]

/-- Requests in the order of time are answered alike from states that agree. -/
theorem answers_redis (requests : List Request)
    (h : Represents settings clock redisSide.redis localSide.buckets)
    (hstart : ∀ request ∈ requests, clock ≤ request.now)
    (horder : requests.Pairwise fun earlier later => earlier.now ≤ later.now) :
    answers settings .redis redisSide requests = answers settings .disabled localSide requests := by
  induction requests generalizing clock redisSide localSide with
  | nil => rfl
  | cons request rest ih =>
      obtain ⟨hlater, hrest⟩ := List.pairwise_cons.1 horder
      obtain ⟨hanswer, hnext⟩ :=
        enforceV1TokenBucket_redis h (hstart request List.mem_cons_self) request.key
      simp only [answers, hanswer]
      rw [ih hnext hlater hrest]

/-- Started empty, the script on Redis, the limiter that stands in for it after an error, and
the limiter of a disabled cache give every request the same answer, headers included. -/
theorem fallback_agrees (settings : BucketSettings) (requests : List Request)
    (horder : requests.Pairwise fun earlier later => earlier.now ≤ later.now) :
    answers settings .redis .empty requests = answers settings .disabled .empty requests ∧
      answers settings .redisError .empty requests =
        answers settings .disabled .empty requests := by
  refine ⟨?_, answers_redisError requests⟩
  cases requests with
  | nil => rfl
  | cons request rest =>
      refine answers_redis (request :: rest) (Represents.empty settings request.now) ?_ horder
      intro other hother
      rcases List.mem_cons.1 hother with rfl | hrest
      · exact le_rfl
      · exact (List.pairwise_cons.1 horder).1 other hrest

/-- One token and one a second: the second request is refused, and the third comes after the
key has expired. -/
theorem fallback_agrees_after_expiry :
    answers { capacity := 1, refillPerSecond := 1, positive := one_pos } .redis .empty
        [⟨"ip:10.0.0.1", 0⟩, ⟨"ip:10.0.0.1", 1 / 2⟩, ⟨"ip:10.0.0.1", 3⟩] =
      answers { capacity := 1, refillPerSecond := 1, positive := one_pos } .disabled .empty
        [⟨"ip:10.0.0.1", 0⟩, ⟨"ip:10.0.0.1", 1 / 2⟩, ⟨"ip:10.0.0.1", 3⟩] :=
  (fallback_agrees _ _ (by norm_num)).1

end ApiObservatory.RateLimiting
