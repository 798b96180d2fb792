import ApiObservatory.Foundation.Clock
import ApiObservatory.Foundation.Refill
import ApiObservatory.RateLimiting.Fallback

/-
The limiter in the process follows the continuous refill: a bucket that is written at
every call, also at a refused one, has the level that the granted calls alone explain.
-/

namespace ApiObservatory.RateLimiting

open Foundation

variable {settings : BucketSettings} {buckets buckets' : Buckets} {key : String} {now : Rat}
  {request : Request} {history : List (Buckets × Request)}

/-- The limiter takes one token for a request. -/
def takeToken (settings : BucketSettings) (buckets : Buckets) (request : Request) : Option Buckets :=
  some (consume settings buckets request.key request.now).2

/-- Whether a request gets its token. -/
def admits (settings : BucketSettings) (buckets : Buckets) (request : Request) : Bool :=
  (consume settings buckets request.key request.now).1.1

/-- The times of the requests of a key that were granted, oldest first. -/
def grantsTo (settings : BucketSettings) (key : String) (history : List (Buckets × Request)) :
    List Rat :=
  timesOf Request.now
    (fun buckets request => decide (request.key = key) && admits settings buckets request) history

def BucketSettings.refill (settings : BucketSettings) : Refill Rat where
  capacity := settings.capacity
  rate := settings.refillPerSecond

/-- The tokens of a key at `now`, by continuous refill from a full bucket. -/
def accumulated (settings : BucketSettings) (key : String) (history : List (Buckets × Request))
    (now : Rat) : Rat :=
  settings.refill.level (grantsTo settings key history).reverse now

/-! ### One request -/

theorem admits_iff : admits settings buckets request = true ↔
    1 ≤ refilled settings buckets request.key request.now := by
  rw [admits, consume_eq, decide_eq_true_eq]

theorem takeToken_eq : takeToken settings buckets request = some (Function.update buckets request.key
    (some (leftOver settings buckets request.key request.now, request.now))) := by
  rw [takeToken, consume_eq]

theorem leftOver_of_admits (granted : admits settings buckets request = true) :
    leftOver settings buckets request.key request.now =
      refilled settings buckets request.key request.now - 1 := if_pos (admits_iff.mp granted)

theorem leftOver_of_refused (refused : admits settings buckets request = false) :
    leftOver settings buckets request.key request.now =
      refilled settings buckets request.key request.now := by
  refine if_neg fun enough => ?_
  rw [admits_iff.mpr enough] at refused
  cases refused

/-- A request changes no other bucket. -/
theorem takeToken_other (step : takeToken settings buckets request = some buckets')
    (other : request.key ≠ key) : buckets' key = buckets key := by
  rw [takeToken_eq] at step
  rw [← Option.some.inj step]
  exact Function.update_of_ne other.symm ..

theorem refilled_congr (same : buckets' key = buckets key) (now : Rat) :
    refilled settings buckets' key now = refilled settings buckets key now := by
  unfold refilled
  rw [same]

theorem refilled_of_some {tokens last : Rat} (found : buckets key = some (tokens, last)) (now : Rat) :
    refilled settings buckets key now =
      min (settings.capacity : Rat) (tokens + (now - last) * settings.refillPerSecond) := by
  simp [refilled, found]

/-! ### The invariant -/

/-- What is true of the bucket of a key from `clock` on: it has the level that the grants
explain, every grant has found a token, and what is stored lies between empty and full. -/
structure Level (settings : BucketSettings) (key : String) (clock : Rat)
    (history : List (Buckets × Request)) (buckets : Buckets) : Prop where
  level : ∀ now, clock ≤ now →
    refilled settings buckets key now = accumulated settings key history now
  lawful : settings.refill.Lawful (grantsTo settings key history).reverse
  past : ∀ grant ∈ grantsTo settings key history, grant ≤ clock
  stored : ∀ bucket, buckets key = some bucket → 0 ≤ bucket.1 ∧ bucket.1 ≤ settings.capacity

theorem Level.empty (settings : BucketSettings) (key : String) (clock : Rat) :
    Level settings key clock [] Limiters.empty.buckets where
  level now _ := by simp [refilled, Limiters.empty, accumulated, grantsTo, Refill.level,
    BucketSettings.refill]
  lawful := trivial
  past _ mem := nomatch mem
  stored _ found := nomatch found

theorem Level.later {clock : Rat} (held : Level settings key clock history buckets)
    (passed : clock ≤ now) : Level settings key now history buckets where
  level later after := held.level later (passed.trans after)
  lawful := held.lawful
  past grant mem := (held.past grant mem).trans passed
  stored := held.stored

/-- A request of another key. -/
theorem Level.other (held : Level settings key request.now history buckets)
    (other : request.key ≠ key) (step : takeToken settings buckets request = some buckets') :
    Level settings key request.now ((buckets, request) :: history) buckets' := by
  have same := takeToken_other step other
  have grants : grantsTo settings key ((buckets, request) :: history) =
      grantsTo settings key history := timesOf_cons_of_false (by simp [other])
  refine { level := ?_, lawful := ?_, past := ?_, stored := ?_ }
  · intro now after
    rw [refilled_congr same, held.level now after, accumulated, accumulated, grants]
  · rw [grants]; exact held.lawful
  · rw [grants]; exact held.past
  · rw [same]; exact held.stored

section Own

variable (held : Level settings request.key request.now history buckets) (full : 0 ≤ settings.capacity)

include held full

theorem Level.refilled_mem : 0 ≤ refilled settings buckets request.key request.now ∧
    refilled settings buckets request.key request.now ≤ settings.capacity := by
  rw [held.level _ le_rfl]
  refine ⟨?_, Refill.level_le_capacity _ _⟩
  refine held.lawful.level_nonneg ?_ settings.positive.le ?_
  · show (0 : Rat) ≤ settings.capacity
    exact_mod_cast full
  · exact fun grant mem => held.past grant (List.mem_reverse.mp mem)

/-- **A granted request** takes one from the level. -/
theorem Level.grant (granted : admits settings buckets request = true)
    (step : takeToken settings buckets request = some buckets') :
    Level settings request.key request.now ((buckets, request) :: history) buckets' := by
  rw [takeToken_eq] at step
  obtain rfl := Option.some.inj step
  have grants : grantsTo settings request.key ((buckets, request) :: history) =
      grantsTo settings request.key history ++ [request.now] :=
    timesOf_cons_of_true (by simp [granted])
  have found := held.level _ le_rfl
  have enough := admits_iff.mp granted
  have bounds := held.refilled_mem full
  have leaves := leftOver_of_admits granted
  refine { level := ?_, lawful := ?_, past := ?_, stored := ?_ }
  · intro now after
    rw [refilled_of_some (Function.update_self ..), accumulated, grants, List.reverse_append, leaves, found]
    rfl
  · rw [grants, List.reverse_append]
    refine ⟨?_, ?_, held.lawful⟩
    · rw [found] at enough
      exact enough
    · exact fun grant mem => held.past grant (List.mem_reverse.mp mem)
  · rw [grants]
    intro grant mem
    rcases List.mem_append.mp mem with old | last
    · exact held.past grant old
    · exact (List.mem_singleton.mp last).le
  · intro bucket stored
    rw [Function.update_self] at stored
    rw [← Option.some.inj stored, leaves]
    exact ⟨by linarith, by linarith [bounds.2]⟩

/-- **A refused request** writes the level down, which changes nothing. -/
theorem Level.refuse (refused : admits settings buckets request = false)
    (step : takeToken settings buckets request = some buckets') :
    Level settings request.key request.now ((buckets, request) :: history) buckets' := by
  rw [takeToken_eq] at step
  obtain rfl := Option.some.inj step
  have grants : grantsTo settings request.key ((buckets, request) :: history) =
      grantsTo settings request.key history := timesOf_cons_of_false (by simp [refused])
  have leaves := leftOver_of_refused refused
  refine { level := ?_, lawful := ?_, past := ?_, stored := ?_ }
  · intro now after
    rw [refilled_of_some (Function.update_self ..), accumulated, grants, leaves, held.level _ le_rfl]
    exact (Refill.level_later settings.positive.le after _).symm
  · rw [grants]; exact held.lawful
  · rw [grants]; exact held.past
  · intro bucket stored
    rw [Function.update_self] at stored
    rw [← Option.some.inj stored, leaves]
    exact held.refilled_mem full

end Own

/-- **One request** keeps the levels of all keys. -/
theorem Level.step (held : ∀ key, Level settings key request.now history buckets)
    (full : 0 ≤ settings.capacity) (step : takeToken settings buckets request = some buckets')
    (key : String) : Level settings key request.now ((buckets, request) :: history) buckets' := by
  by_cases own : request.key = key
  · subst own
    cases granted : admits settings buckets request with
    | true => exact (held _).grant full granted step
    | false => exact (held _).refuse full granted step
  · exact (held key).other own step

theorem Level.of_run (full : 0 ≤ settings.capacity)
    (run : Run (takeToken settings) Limiters.empty.buckets history buckets)
    (ordered : Chronological Request.now history) (now : Rat)
    (last : ∀ entry ∈ history, entry.2.now ≤ now) (key : String) :
    Level settings key now history buckets := by
  refine run.invariant_of_chronological
    (I := fun now history buckets => ∀ key, Level settings key now history buckets)
    ?_ (fun passed held key => (held key).later passed) ?_ ordered now last key
  · exact fun now key => Level.empty settings key now
  · exact fun held step key => Level.step held full step key

/-! ### After a refusal -/

/-- The level that is short of a token reaches it after the time that its deficit takes. -/
theorem one_le_of_wait {level read later rate capacity last : Rat} (full : 1 ≤ capacity)
    (rising : 0 < rate)
    (waited : read + (1 - min capacity (level + (read - last) * rate)) / rate ≤ later) :
    1 ≤ min capacity (level + (later - last) * rate) := by
  refine le_min full ?_
  have deficit : 1 - min capacity (level + (read - last) * rate) ≤ (later - read) * rate :=
    (div_le_iff₀ rising).mp (by linarith)
  have short : min capacity (level + (read - last) * rate) ≤ level + (read - last) * rate :=
    min_le_right _ _
  have split : (later - last) * rate = (later - read) * rate + (read - last) * rate := by ring
  linarith

/-- What `seconds_until_token` says is at least what the deficit takes. -/
theorem deficit_le_secondsUntilToken (settings : BucketSettings) (buckets : Buckets) (key : String)
    (now : Rat) : (1 - refilled settings buckets key now) / settings.refillPerSecond ≤
      secondsUntilToken settings buckets key now := by
  unfold secondsUntilToken
  by_cases enough : 1 - refilled settings buckets key now ≤ 0
  · simp only [enough, if_true]
    exact div_nonpos_of_nonpos_of_nonneg enough settings.positive.le
  · simp only [enough, if_false, applyJitter, add_zero]
    exact le_max_right _ _

/-- **A refused key** that is left alone gets its token once it has waited. -/
theorem admits_after_wait {after later : Buckets} {read time : Rat} (full : 1 ≤ settings.capacity)
    (step : takeToken settings buckets request = some after)
    (alone : later request.key = after request.key)
    (waited : read + secondsUntilToken settings after request.key read ≤ time) :
    admits settings later ⟨request.key, time⟩ = true := by
  rw [takeToken_eq] at step
  obtain rfl := Option.some.inj step
  rw [Function.update_self] at alone
  have enough := deficit_le_secondsUntilToken settings _ request.key read |>.trans
    (le_sub_iff_add_le'.mpr waited)
  rw [refilled_of_some (Function.update_self ..)] at enough
  rw [admits_iff, refilled_of_some alone]
  refine one_le_of_wait ?_ settings.positive (le_sub_iff_add_le'.mp enough)
  exact_mod_cast full

/-! ### Runs -/

/-- A key that makes no request keeps its bucket. -/
theorem alone_of_run {start : Buckets} (run : Run (takeToken settings) start history buckets)
    (others : ∀ entry ∈ history, entry.2.key ≠ key) : buckets key = start key :=
  @Run.unmoved _ _ _ _ _ _ _ (fun buckets : Buckets => buckets key) (fun request => request.key = key)
    (fun step other => takeToken_other step other) run others

/-- Every request of a run is granted exactly when continuous refill has a token for it. -/
theorem admits_iff_of_run (full : 0 ≤ settings.capacity)
    (run : Run (takeToken settings) Limiters.empty.buckets history buckets)
    (ordered : Chronological Request.now history) :
    Meets (fun earlier buckets request => admits settings buckets request = true ↔
      1 ≤ accumulated settings request.key earlier request.now) history := by
  induction run with
  | init => trivial
  | snoc run step ih =>
    refine ⟨?_, ih ordered.tail⟩
    have held := Level.of_run full run ordered.tail _ ordered.before
    exact admits_iff.trans (by rw [(held _).level _ le_rfl])

/-- **The token bucket's law.** In every run along a clock the stored tokens lie between empty and
full; an interval grants a key at most the capacity and what the time refills; a request is
refused only when continuous refill from a full bucket has no token for it; and a refused key that
makes no other request is granted once it has waited as long as it is told to. -/
theorem token_bucket_law (settings : BucketSettings) (full : 1 ≤ settings.capacity)
    {history : List (Buckets × Request)} {buckets : Buckets}
    (run : Run (takeToken settings) Limiters.empty.buckets history buckets)
    (ordered : Chronological Request.now history) :
    (∀ key bucket, buckets key = some bucket → 0 ≤ bucket.1 ∧ bucket.1 ≤ settings.capacity) ∧
    (∀ key start finish, start ≤ finish →
      ((grantsTo settings key history).countP fun grant =>
          decide (start ≤ grant ∧ grant ≤ finish) : Rat) ≤
        settings.capacity + (finish - start) * settings.refillPerSecond) ∧
    Meets (fun earlier buckets request => admits settings buckets request = false →
      accumulated settings request.key earlier request.now < 1) history ∧
    ∀ request after, admits settings buckets request = false →
      takeToken settings buckets request = some after →
        ∀ between later, Run (takeToken settings) after between later →
          (∀ entry ∈ between, entry.2.key ≠ request.key) →
            ∀ read time, read + secondsUntilToken settings after request.key read ≤ time →
              admits settings later ⟨request.key, time⟩ = true := by
  have room : 0 ≤ settings.capacity := by omega
  obtain ⟨now, last⟩ := ordered.exists_last
  have held := Level.of_run room run ordered now last
  refine ⟨fun key => (held key).stored, ?_, ?_, ?_⟩
  · intro key start finish begun
    have capacity_nonneg : (0 : Rat) ≤ settings.capacity := by exact_mod_cast room
    have bound := (held key).lawful.count_le capacity_nonneg settings.positive.le begun
    rwa [List.countP_reverse] at bound
  · refine (admits_iff_of_run room run ordered).mono fun earlier buckets request same refused => ?_
    rw [← not_le, ← same, refused]
    exact Bool.false_ne_true
  · intro request after _ step between later run others read time waited
    refine admits_after_wait full step ?_ waited
    exact alone_of_run run others

/-- One token, and one a second. -/
def oneASecond : BucketSettings where
  capacity := 1
  refillPerSecond := 1
  positive := one_pos

/-- A request after half a second is refused, and the bucket keeps its half. -/
theorem token_bucket_law_refusal : ∃ history buckets,
    Run (takeToken oneASecond) Limiters.empty.buckets history buckets ∧
    history.map Prod.snd = [⟨"10.0.0.1", 1 / 2⟩, ⟨"10.0.0.1", 0⟩] ∧
    ∀ key bucket, buckets key = some bucket → 0 ≤ bucket.1 ∧ bucket.1 ≤ oneASecond.capacity := by
  obtain ⟨history, run, labels⟩ := run_of_isSome_labels (show (finalState (takeToken oneASecond)
    Limiters.empty.buckets [⟨"10.0.0.1", 0⟩, ⟨"10.0.0.1", 1 / 2⟩]).isSome = true from rfl)
  refine ⟨history, _, run, labels, ?_⟩
  refine (token_bucket_law oneASecond le_rfl run ?_).1
  rw [chronological_iff, labels]
  norm_num

end ApiObservatory.RateLimiting
