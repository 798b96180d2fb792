import ApiObservatory.Health.Automaton
import ApiObservatory.Jobs.Probes

/-
An outage as the scheduled probes of a source see it.

Every request of the probes fails with a transport error. Each failure the breaker
lets through counts against it and is stored as a sample, if its text fits the
schema; the third one opens the breaker, and later probes return before their
request. So the incident needs its threshold of failures from the samples stored
before and the requests the breaker still lets through.
-/

namespace ApiObservatory.Jobs

open Foundation Health

/-- The breakers of the process and the tables. -/
structure World where
  breakers : Breakers
  db : HealthDb

/-- The world after `k` probes. -/
def after (sourceId : Nat) (start : World) (calls : Nat → ProbeIo) : Nat → World
  | 0 => start
  | k + 1 =>
      let world := after sourceId start calls k
      let done := runSourceProbe world.breakers world.db sourceId (calls k)
      ⟨done.1, done.2.1⟩

/-- A live and active source under ids that a sequence gives out. -/
structure Probeable (source : SourceProfile) : Prop where
  live : source.deletedAt = none
  active : source.isActive = true
  id : 1 ≤ source.id
  tenant : ∀ tenantId, source.tenantId = some tenantId → 1 ≤ tenantId
  threshold : 1 ≤ source.incidentFailureThreshold

/-- The URL is allowed and the request fails with a transport error. -/
structure TransportFailure (source : SourceProfile) (io : ProbeIo) (text : String) : Prop where
  allowed : io.validate (targetUrl source) = .ok ()
  outcome : io.outcome = .error (.http text)
  latency : 0 ≤ io.latencyMs

/-- The error text of the probe fits its sample. -/
def fits (io : ProbeIo) : Bool :=
  match io.outcome with
  | .error (.http text) => decide (text.length ≤ healthSampleErrorMsgMax)
  | _ => false

/-- How many of the first `k` probes have a text that fits. -/
def fitting (calls : Nat → ProbeIo) : Nat → Nat
  | 0 => 0
  | k + 1 => fitting calls k + if fits (calls k) then 1 else 0

/-- The failing requests that a breaker still lets through. -/
def admits (breaker : CircuitBreaker RequestError) : Nat :=
  if breaker.isOpen then 0 else (breaker.failureThreshold - breaker.failureCount).toNat

/-- A probe breaker between two calls: it is not in its recovery probe, and its
count is below the threshold. -/
structure Resting (breaker : CircuitBreaker RequestError) : Prop where
  threshold : breaker.failureThreshold = 3
  counts : ∀ error, breaker.isFailure error = true
  settled : breaker.state ≠ .halfOpen
  below : breaker.failureCount < 3

/-! ### One probe -/

section Probe

variable {source : SourceProfile} {breaker : CircuitBreaker RequestError}

theorem resting_new : Resting newProbeBreaker where
  threshold := rfl
  counts _ := rfl
  settled := by decide
  below := by decide

theorem fitting_mono (calls : Nat → ProbeIo) {k m : Nat} (le : k ≤ m) :
    fitting calls k ≤ fitting calls m := by
  induction le with
  | refl => exact Nat.le_refl _
  | step _ ih => exact Nat.le_trans ih (Nat.le_add_right _ _)

theorem admits_le (resting : Resting breaker) : admits breaker ≤ 3 := by
  have threshold := resting.threshold
  unfold admits
  split
  · omega
  · omega

/-- **A failure** takes one of the requests a breaker lets through. -/
theorem Resting.fail (resting : Resting breaker) (closed : breaker.isOpen = false)
    (error : RequestError) (now : Int) :
    Resting (breaker.leave (some error) now) ∧
      admits (breaker.leave (some error) now) + 1 = admits breaker := by
  have threshold := resting.threshold
  have below := resting.below
  simp only [CircuitBreaker.leave, resting.counts error, if_true, CircuitBreaker.observationFailure,
    resting.settled, if_false, admits, closed, Bool.false_eq_true]
  by_cases last : (breaker.failureCount : Int) + 1 ≥ breaker.failureThreshold
  · rw [if_pos last]
    refine ⟨⟨threshold, resting.counts, by simp, by simp⟩, ?_⟩
    simp only [CircuitBreaker.isOpen, beq_self_eq_true, if_true]
    omega
  · rw [if_neg last]
    refine ⟨⟨threshold, resting.counts, resting.settled, ?_⟩, ?_⟩
    · show breaker.failureCount + 1 < 3
      omega
    · have stillClosed : ({ breaker with failureCount := breaker.failureCount + 1 } :
          CircuitBreaker RequestError).isOpen = false := closed
      rw [if_neg (by rw [stillClosed]; decide)]
      show (breaker.failureThreshold - (breaker.failureCount + 1 : Nat)).toNat + 1 =
        (breaker.failureThreshold - breaker.failureCount).toNat
      omega

/-- The sample of a failed request. -/
def failedSample (source : SourceProfile) (io : ProbeIo) (text : String) : HealthSampleCreate :=
  { sourceId := source.id, sampledAt := .utc io.sampledAt, latencyMs := io.latencyMs,
    isSuccess := false, httpStatus := none, errorMessage := some text, tenantId := source.tenantId }

theorem failedSample_valid (probeable : Probeable source) {io : ProbeIo} {text : String}
    (failure : TransportFailure source io text) :
    (failedSample source io text).valid = fits io := by
  have tenant : source.tenantId.all (fun tenantId => decide (1 ≤ tenantId)) = true := by
    cases has : source.tenantId with
    | none => rfl
    | some tenantId => exact decide_eq_true (probeable.tenant tenantId has)
  simp [failedSample, HealthSampleCreate.valid, fits, failure.outcome, probeable.id, failure.latency,
    tenant]

theorem activeProfile_of_found {sources : Rows SourceProfile} (probeable : Probeable source)
    (found : sources.get source.id = some source) : activeProfile sources source.id = some source := by
  simp [activeProfile, found, probeable.live, probeable.active]

/-- A probe that finds the breaker open changes nothing. -/
theorem runSourceProbe_open {breakers : Breakers} {db : HealthDb} (probeable : Probeable source)
    (found : db.sources.get source.id = some source)
    (opened : (getSourceProbeBreaker breakers source.id).isOpen = true) (io : ProbeIo) :
    runSourceProbe breakers db source.id io = (breakers, db, circuitOpen) := by
  simp [runSourceProbe, activeProfile_of_found probeable found, opened]

/-- A probe whose request fails. -/
theorem runSourceProbe_failure {breakers : Breakers} {db : HealthDb} (probeable : Probeable source)
    (found : db.sources.get source.id = some source)
    (closed : (getSourceProbeBreaker breakers source.id).isOpen = false) {io : ProbeIo}
    {text : String} (failure : TransportFailure source io text) :
    (runSourceProbe breakers db source.id io).1 = Function.update breakers source.id
        (some ((getSourceProbeBreaker breakers source.id).leave (some (.http text)) io.leftAt)) ∧
      (if fits io then
        next source db (.record (failedSample source io text) io.now io.checkedAt) =
          some (runSourceProbe breakers db source.id io).2.1
      else (runSourceProbe breakers db source.id io).2.1 = db) := by
  have result : runSourceProbe breakers db source.id io =
      (Function.update breakers source.id
        (some ((getSourceProbeBreaker breakers source.id).leave (some (.http text)) io.leftAt)),
        saveSample db source source.id io
          (.probed (targetUrl source) none io.latencyMs false (some text))) := by
    simp [runSourceProbe, activeProfile_of_found probeable found, closed, failure.allowed,
      CircuitBreaker.enter_of_not_open closed, failure.outcome, raisedBy, Job.result, probeResult]
  rw [result]
  refine ⟨rfl, ?_⟩
  have valid := failedSample_valid probeable failure
  cases isFit : fits io with
  | true =>
    obtain ⟨done, recorded⟩ := recordHealthSample_ok
      (show db.sources.get (failedSample source io text).sourceId = some source from found)
      probeable.live io.now io.checkedAt
    rw [isFit] at valid
    unfold failedSample at valid recorded
    simp [saveSample, valid, next, failedSample, recorded]
  | false =>
    rw [isFit] at valid
    unfold failedSample at valid
    simp [saveSample, valid]

end Probe

/-! ### A run of probes -/

section Run

variable {source : SourceProfile} {start : World} {calls : Nat → ProbeIo}
  {history : List (HealthDb × Label)}

/-- The state after some probes: the samples in order before the next probe, the
failures in a row, and the requests the breaker still lets through. -/
structure Seen (source : SourceProfile) (world : World) (time : Int) (run rest : Nat) : Prop where
  samples : ∃ history, Run (next source) (initial source) history world.db ∧
    InOrder (recorded history) ∧
    (∀ payload ∈ recorded history, payload.sampledAt.instant < time) ∧
    runLength failed (recorded history) = run
  resting : Resting (getSourceProbeBreaker world.breakers source.id)
  rest : admits (getSourceProbeBreaker world.breakers source.id) = rest

theorem Seen.active_iff {world : World} {time : Int} {run rest : Nat}
    (seen : Seen source world time run rest) (probeable : Probeable source) :
    (∃ id row, Active world.db.incidents .availability id row) ↔
      source.incidentFailureThreshold ≤ run := by
  obtain ⟨history, earlier, order, -, rfl⟩ := seen.samples
  exact active_iff_runLength probeable.threshold earlier order

/-- **One failing probe.** -/
theorem Seen.probe {world : World} {io : ProbeIo} {text : String} {time : Int} {run rest : Nat}
    (seen : Seen source world io.sampledAt run rest) (probeable : Probeable source)
    (failure : TransportFailure source io text) (later : io.sampledAt < time) :
    Seen source
      ⟨(runSourceProbe world.breakers world.db source.id io).1,
        (runSourceProbe world.breakers world.db source.id io).2.1⟩
      time (if rest = 0 then run else run + if fits io then 1 else 0) (rest - 1) := by
  obtain ⟨history, earlier, order, before, is⟩ := seen.samples
  have found := (registered_of_run earlier).found
  cases opened : (getSourceProbeBreaker world.breakers source.id).isOpen with
  | true =>
    have none_left : rest = 0 := by
      rw [← seen.rest]
      simp [admits, opened]
    rw [runSourceProbe_open probeable found opened, if_pos none_left]
    refine ⟨⟨history, earlier, order, fun payload mem => ?_, is⟩, seen.resting, ?_⟩
    · exact (before payload mem).trans later
    · rw [seen.rest]
      omega
  | false =>
    obtain ⟨breakers, db⟩ := runSourceProbe_failure probeable found opened failure
    obtain ⟨resting, left⟩ := seen.resting.fail opened (.http text) io.leftAt
    rw [seen.rest] at left
    rw [if_neg (by omega)]
    have breaker : getSourceProbeBreaker (runSourceProbe world.breakers world.db source.id io).1
        source.id = (getSourceProbeBreaker world.breakers source.id).leave (some (.http text))
          io.leftAt := by
      rw [breakers]
      simp [getSourceProbeBreaker]
    refine ⟨?_, by rw [breaker]; exact resting, by rw [breaker]; omega⟩
    cases isFit : fits io with
    | false =>
      rw [isFit] at db
      refine ⟨history, ?_, order, fun payload mem => (before payload mem).trans later, ?_⟩
      · rw [show _ = world.db from db]
        exact earlier
      · simpa using is
    | true =>
      -- The sample is stored, and extends the run of failures.
      rw [isFit] at db
      have sample : failed (failedSample source io text) = true := rfl
      refine ⟨_, earlier.snoc db, ?_, ?_, ?_⟩
      · rw [recorded_cons]
        refine ⟨List.pairwise_cons.mpr ⟨?_, order.increasing⟩,
          List.forall_mem_cons.mpr ⟨rfl, order.utc⟩⟩
        simpa [failedSample, Datetime.utc, Datetime.instant] using before
      · rw [recorded_cons]
        refine List.forall_mem_cons.mpr ⟨?_, fun payload mem => (before payload mem).trans later⟩
        simpa [failedSample, Datetime.utc, Datetime.instant] using later
      · rw [recorded_cons]
        show runLength failed (failedSample source io text :: recorded history) = _
        rw [runLength_cons_of_pos sample, is]
        rfl

/-- **The run of probes.** -/
theorem seen_after (probeable : Probeable source) {run rest : Nat}
    (seen : Seen source start (calls 0).sampledAt run rest)
    (failing : ∀ k, ∃ text, TransportFailure source (calls k) text)
    (spaced : ∀ k, (calls k).sampledAt + seconds 60 ≤ (calls (k + 1)).sampledAt) (k : Nat) :
    Seen source (after source.id start calls k) (calls k).sampledAt
      (run + fitting calls (min k rest)) (rest - k) := by
  induction k with
  | zero => simpa [after, fitting] using seen
  | succ k ih =>
    obtain ⟨text, failure⟩ := failing k
    have later : (calls k).sampledAt < (calls (k + 1)).sampledAt := by
      have := spaced k
      unfold seconds at this
      omega
    have probed := ih.probe probeable failure later
    by_cases spent : rest - k = 0
    · rw [if_pos spent] at probed
      rw [Nat.min_eq_right (by omega)] at probed ⊢
      rwa [show rest - (k + 1) = rest - k - 1 by omega]
    · rw [if_neg spent] at probed
      rw [Nat.min_eq_left (by omega)] at probed ⊢
      rw [show rest - (k + 1) = rest - k - 1 by omega]
      rw [Nat.add_assoc] at probed
      exact probed

/-- The incident after `k` probes. -/
theorem active_after_iff (probeable : Probeable source)
    (earlier : Run (next source) (initial source) history start.db)
    (order : InOrder (recorded history))
    (resting : Resting (getSourceProbeBreaker start.breakers source.id))
    (before : ∀ payload ∈ recorded history, payload.sampledAt.instant < (calls 0).sampledAt)
    (failing : ∀ k, ∃ text, TransportFailure source (calls k) text)
    (spaced : ∀ k, (calls k).sampledAt + seconds 60 ≤ (calls (k + 1)).sampledAt) (k : Nat) :
    (∃ id row, Active (after source.id start calls k).db.incidents .availability id row) ↔
      source.incidentFailureThreshold ≤ runLength failed (recorded history) +
        fitting calls (min k (admits (getSourceProbeBreaker start.breakers source.id))) :=
  (seen_after probeable ⟨⟨history, earlier, order, before, rfl⟩, resting, rfl⟩ failing spaced
    k).active_iff probeable

end Run

/-! ### Two sources -/

/-- A source that asks for `threshold` failures in a row. -/
def thresholdSource (threshold : Nat) : SourceProfile :=
  { id := 1, name := "orders", baseUrl := "https://orders.example", tenantId := none,
    incidentFailureThreshold := threshold }

/-- Probe `k` of an outage, one a minute. -/
def refusedProbe (k : Nat) : ProbeIo where
  validate _ := .ok ()
  enteredAt := seconds (60 * k)
  outcome := .error (.http "connection refused")
  leftAt := seconds (60 * k)
  sampledAt := seconds (60 * k)
  latencyMs := 0
  now _ := seconds (60 * k)
  checkedAt _ := seconds (60 * k)

def newWorld (threshold : Nat) : World := ⟨fun _ => none, initial (thresholdSource threshold)⟩

theorem refusedProbe_fails (threshold k : Nat) :
    TransportFailure (thresholdSource threshold) (refusedProbe k) "connection refused" :=
  ⟨rfl, rfl, le_refl 0⟩

theorem refusedProbe_spaced (k : Nat) :
    (refusedProbe k).sampledAt + seconds 60 ≤ (refusedProbe (k + 1)).sampledAt := by
  simp only [refusedProbe, seconds]
  omega

theorem thresholdSource_probeable {threshold : Nat} (positive : 1 ≤ threshold) :
    Probeable (thresholdSource threshold) where
  live := rfl
  active := rfl
  id := Nat.le_refl 1
  tenant _ is := nomatch is
  threshold := positive

theorem inOrder_nothing : InOrder (recorded []) :=
  ⟨.nil, fun _ mem => absurd mem List.not_mem_nil⟩

theorem nothing_before (time : Int) :
    ∀ payload ∈ recorded [], payload.sampledAt.instant < time :=
  fun _ mem => absurd mem List.not_mem_nil

end ApiObservatory.Jobs
