import ApiObservatory.Foundation.Json
import ApiObservatory.Health.Reconcile
import ApiObservatory.Platform.CircuitBreaker
import ApiObservatory.Repositories.ContractSchema

/-
The scheduled jobs of a source (`services/ingestor/jobs/probes.py`).

A job reads the profile, tests whether the source's breaker is open, validates
the target URL and sends one request through the breaker. What the outside world
answers (the URL check, the request, the clocks) is an argument. Each `await` in
between lets other jobs run, so the parts of a job are definitions of their own;
`runSourceProbe` is a probe without interruption.
-/

namespace ApiObservatory.Jobs

open Foundation Health

/-- Exceptions of a request, by the `except` clause that catches them, with `str(exc)`. -/
inductive RequestError where
  | http (text : String)
  | value (text : String)
  | other (text : String)
  | cancelled
deriving DecidableEq

/-- A response; `json` is `none` when its body is not JSON. -/
structure Response where
  statusCode : Nat
  json : Option Json := none

/-- The dictionary a job returns, or the exception that leaves it. -/
inductive Result where
  | skipped (reason : String)
  | probed (targetUrl : String) (statusCode : Option Nat) (latencyMs : Rat) (isSuccess : Bool)
      (error : Option String)
  | ingesting (payload : Payload)
  | raised (error : RequestError)

/-- The two jobs of a source. -/
inductive Job where
  | probe | contractSnapshot
deriving DecidableEq

/-! ### Parts of a job -/

/-- `_source_probe_breakers`. -/
abbrev Breakers := Nat → Option (CircuitBreaker RequestError)

def newProbeBreaker : CircuitBreaker RequestError :=
  { failureThreshold := 3, recoveryTimeout := seconds 60 }

/-- `_get_source_probe_breaker`; a new breaker is stored with its first change. -/
def getSourceProbeBreaker (breakers : Breakers) (sourceId : Nat) : CircuitBreaker RequestError :=
  (breakers sourceId).getD newProbeBreaker

/-- The profile, if the source is live and active. -/
def activeProfile (sources : Rows SourceProfile) (sourceId : Nat) : Option SourceProfile :=
  (sources.get sourceId).filter fun profile => profile.deletedAt.isNone && profile.isActive

/-- `f"{base_url.rstrip('/')}/{health_check_path.lstrip('/')}"`. -/
def targetUrl (profile : SourceProfile) : String :=
  String.ofList (profile.baseUrl.toList.reverse.dropWhile (· == '/')).reverse ++ "/" ++
    String.ofList (profile.healthCheckPath.toList.dropWhile (· == '/'))

def circuitOpen : Result := .skipped "circuit_open"

/-- What a job returns when the breaker raises `CircuitOpenError` inside the call. -/
def Job.rejected : Job → Result
  | .probe => circuitOpen
  | .contractSnapshot => .skipped "fetch_failed"

/-- What a job returns when the URL is refused. -/
def Job.refused (targetUrl error : String) : Job → Result
  | .probe => .probed targetUrl none 0 false (some s!"SSRF validation failed: {error}")
  | .contractSnapshot => .skipped "ssrf_blocked"

/-- The exception that passes `__aexit__`. -/
def raisedBy (outcome : Except RequestError Response) : Option RequestError :=
  match outcome with
  | .ok _ => none
  | .error error => some error

/-- A probe after its request. -/
def probeResult (targetUrl : String) (latencyMs : Rat) : Except RequestError Response → Result
  | .ok response =>
      let isSuccess := decide (200 ≤ response.statusCode ∧ response.statusCode < 400)
      .probed targetUrl (some response.statusCode) latencyMs isSuccess
        (if isSuccess then none else some s!"upstream_status_{response.statusCode}")
  | .error (.http text) => .probed targetUrl none latencyMs false (some text)
  | .error (.value text) => .probed targetUrl none latencyMs false (some text)
  | .error (.other text) => .probed targetUrl none latencyMs false (some text)
  | .error .cancelled => .raised .cancelled

/-- A contract snapshot after its request; `raise_for_status` accepts 2xx. -/
def snapshotResult : Except RequestError Response → Result
  | .ok response =>
      if 200 ≤ response.statusCode ∧ response.statusCode < 300 then
        match response.json with
        | none => .skipped "fetch_failed"
        | some (.object payload) => .ingesting payload
        | some _ => .skipped "non_dict_response"
      else .skipped "fetch_failed"
  | .error (.http _) => .skipped "fetch_failed"
  | .error (.value _) => .skipped "fetch_failed"
  | .error error => .raised error

def Job.result (targetUrl : String) (latencyMs : Rat) (outcome : Except RequestError Response) :
    Job → Result
  | .probe => probeResult targetUrl latencyMs outcome
  | .contractSnapshot => snapshotResult outcome

/-! ### A probe without interruption -/

/-- What one probe gets from outside: the URL check, the breaker's clock when the
request starts and ends, the request, the sample's times, and the clock of the
reconciliation. -/
structure ProbeIo where
  validate : String → Except String Unit
  enteredAt : Int
  outcome : Except RequestError Response
  leftAt : Int
  sampledAt : Int
  latencyMs : Rat
  now : TriggerType → Int
  checkedAt : TriggerType → Int

/-- Record the sample of a result. `HealthSampleCreate` raises when a field does
not pass its check. -/
def saveSample (db : HealthDb) (profile : SourceProfile) (sourceId : Nat) (io : ProbeIo)
    (result : Result) : HealthDb × Result :=
  match result with
  | .probed _ statusCode latencyMs isSuccess error =>
      let payload : HealthSampleCreate :=
        { sourceId, sampledAt := .utc io.sampledAt, latencyMs, isSuccess, httpStatus := statusCode,
          errorMessage := error, tenantId := profile.tenantId }
      if payload.valid then
        match recordHealthSample db payload io.now io.checkedAt with
        | .ok (db', _) => (db', result)
        | .error text => (db, .raised (.value text))
      else (db, .raised (.value "HealthSampleCreate"))
  | result => (db, result)

/-- `run_source_probe`. -/
def runSourceProbe (breakers : Breakers) (db : HealthDb) (sourceId : Nat) (io : ProbeIo) :
    Breakers × HealthDb × Result :=
  match activeProfile db.sources sourceId with
  | none => (breakers, db, .skipped "source_inactive")
  | some profile =>
      let url := targetUrl profile
      let breaker := getSourceProbeBreaker breakers sourceId
      if breaker.isOpen then (breakers, db, circuitOpen)
      else
        match io.validate url with
        | .error text => (breakers, saveSample db profile sourceId io (Job.probe.refused url text))
        | .ok () =>
            match breaker.enter io.enteredAt with
            | none => (breakers, db, Job.probe.rejected)
            | some entered =>
                (Function.update breakers sourceId
                    (some (entered.leave (raisedBy io.outcome) io.leftAt)),
                  saveSample db profile sourceId io
                    (Job.probe.result url io.latencyMs io.outcome))

/-- `run_source_contract_snapshot`, up to the ingestion of its payload. -/
def runSourceContractSnapshot (breakers : Breakers) (sources : Rows SourceProfile) (sourceId : Nat)
    (io : ProbeIo) : Breakers × Result :=
  match activeProfile sources sourceId with
  | none => (breakers, .skipped "source_inactive")
  | some profile =>
      let url := targetUrl profile
      let breaker := getSourceProbeBreaker breakers sourceId
      if breaker.isOpen then (breakers, circuitOpen)
      else
        match io.validate url with
        | .error text => (breakers, Job.contractSnapshot.refused url text)
        | .ok () =>
            match breaker.enter io.enteredAt with
            | none => (breakers, Job.contractSnapshot.rejected)
            | some entered =>
                (Function.update breakers sourceId
                    (some (entered.leave (raisedBy io.outcome) io.leftAt)),
                  Job.contractSnapshot.result url io.latencyMs io.outcome)

/-- The URL that either job sends its request to, if it gets that far. -/
def requestUrl (breakers : Breakers) (sources : Rows SourceProfile) (sourceId : Nat)
    (io : ProbeIo) : Option String :=
  match activeProfile sources sourceId with
  | none => none
  | some profile =>
      let breaker := getSourceProbeBreaker breakers sourceId
      if breaker.isOpen then none
      else
        match io.validate (targetUrl profile), breaker.enter io.enteredAt with
        | .ok (), some _ => some (targetUrl profile)
        | _, _ => none

section Unsent

variable {breakers : Breakers} {db : HealthDb} {sources : Rows SourceProfile} {sourceId : Nat}
  {io : ProbeIo} (outcome : Except RequestError Response)

/-- The breaker that was found closed lets the request through. -/
theorem requestUrl_eq_some {url : String} :
    requestUrl breakers sources sourceId io = some url ↔
      ∃ profile, activeProfile sources sourceId = some profile ∧
        (getSourceProbeBreaker breakers sourceId).isOpen = false ∧
        io.validate (targetUrl profile) = .ok () ∧ targetUrl profile = url := by
  unfold requestUrl
  cases activeProfile sources sourceId with
  | none => simp only [reduceCtorEq, false_and, exists_false]
  | some profile =>
    simp only [Option.some.injEq, exists_eq_left']
    by_cases opened : (getSourceProbeBreaker breakers sourceId).isOpen = true
    · simp only [opened, if_true, reduceCtorEq, false_and]
    · rw [if_neg opened]
      rw [Bool.not_eq_true] at opened
      rw [CircuitBreaker.enter_of_not_open opened]
      cases io.validate (targetUrl profile) with
      | error text => simp only [reduceCtorEq, false_and, and_false]
      | ok => simp only [opened, Option.some.injEq, true_and]

/-- What ends a job that sends no request. -/
theorem refused_of_unsent {profile : SourceProfile}
    (active : activeProfile sources sourceId = some profile)
    (unsent : requestUrl breakers sources sourceId io = none) :
    (getSourceProbeBreaker breakers sourceId).isOpen = true ∨
      ∃ text, io.validate (targetUrl profile) = .error text := by
  by_contra sends
  obtain ⟨closed, accepted⟩ := not_or.mp sends
  cases checked : io.validate (targetUrl profile) with
  | error text => exact accepted ⟨text, checked⟩
  | ok =>
    have sent := requestUrl_eq_some.mpr
      ⟨profile, active, Bool.not_eq_true _ ▸ closed, checked, rfl⟩
    rw [unsent] at sent
    cases sent

/-- A probe that sends no request has no outcome to read. -/
theorem runSourceProbe_unsent (unsent : requestUrl breakers db.sources sourceId io = none) :
    runSourceProbe breakers db sourceId { io with outcome } =
      runSourceProbe breakers db sourceId io := by
  unfold runSourceProbe
  cases active : activeProfile db.sources sourceId with
  | none => rfl
  | some profile =>
    rcases refused_of_unsent active unsent with opened | ⟨text, refused⟩
    · simp only [if_pos opened]
    · simp only [refused]
      rfl

theorem runSourceContractSnapshot_unsent
    (unsent : requestUrl breakers sources sourceId io = none) :
    runSourceContractSnapshot breakers sources sourceId { io with outcome } =
      runSourceContractSnapshot breakers sources sourceId io := by
  unfold runSourceContractSnapshot
  cases active : activeProfile sources sourceId with
  | none => rfl
  | some profile =>
    rcases refused_of_unsent active unsent with opened | ⟨text, refused⟩
    · simp only [if_pos opened]
    · simp only [refused]

end Unsent

end ApiObservatory.Jobs
