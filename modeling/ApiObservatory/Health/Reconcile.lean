import ApiObservatory.Incidents.Transactions
import Mathlib.Data.Rat.Floor
import Mathlib.Data.Int.Log

/-
Health samples and the incidents they open, update and resolve
(`services/ingestor/incident_lifecycle.py` and `reconcile_health_incidents` in
`services/ingestor/repositories/incidents.py`).

Which calls a reconciliation makes depends on the samples it reads and on no
answer of an earlier call, so they are a list (`reconcileCalls`). Here one
`record_health_sample` runs alone; the notification requests and their dispatch
after the commit change neither table and are left out.
-/

namespace ApiObservatory.Health

open Foundation Incidents

/-- Request body of one health sample. -/
structure HealthSampleCreate where
  sourceId : Nat
  sampledAt : Datetime
  latencyMs : Rat
  isSuccess : Bool
  httpStatus : Option Nat := none
  responseBodyHash : Option String := none
  errorMessage : Option String := none
  region : Option String := none
  tenantId : Option Nat := none
deriving DecidableEq

def healthSampleErrorMsgMax : Nat := 512

def healthSampleRegionMax : Nat := 64

/-- The field constraints of the schema. -/
def HealthSampleCreate.valid (payload : HealthSampleCreate) : Bool :=
  decide (1 ≤ payload.sourceId) &&
  decide (0 ≤ payload.latencyMs) &&
  payload.httpStatus.all (fun status => decide (100 ≤ status ∧ status ≤ 599)) &&
  payload.responseBodyHash.all (fun hash => hash.length == 64) &&
  payload.errorMessage.all (fun text => decide (text.length ≤ healthSampleErrorMsgMax)) &&
  payload.region.all (fun region => decide (region.length ≤ healthSampleRegionMax)) &&
  payload.tenantId.all (fun tenantId => decide (1 ≤ tenantId))

/-- The `trigger_details` of the two health triggers. -/
inductive HealthDetails where
  | availability (latestSampleId : Nat) (httpStatus : Option Nat) (errorMessage : Option String)
      (threshold : Nat)
  | latency (latestSampleId : Nat) (latencyMs thresholdMs : Rat) (consecutiveThreshold : Nat)
deriving DecidableEq

abbrev Incident := DependencyIncident HealthDetails

structure HealthDb where
  sources : Rows SourceProfile
  samples : Rows ProviderHealthSample
  incidents : Rows Incident

/-! ### The text of a threshold -/

/-- The integer nearest to `x`, the even one of two. -/
def roundHalfEven (x : Rat) : Int :=
  let rest := x - x.floor
  if rest < 1 / 2 then x.floor
  else if 1 / 2 < rest then x.floor + 1
  else if x.floor % 2 = 0 then x.floor
  else x.floor + 1

/-- The digits after the decimal point, without trailing zeros. -/
def fraction (digits : List Char) : String :=
  match (digits.reverse.dropWhile (· == '0')).reverse with
  | [] => ""
  | kept => "." ++ String.ofList kept

/-- `f"{x:g}"` for a positive float: six significant digits. -/
def formatG (x : Rat) : String :=
  let scale := Int.log 10 x
  let rounded := (roundHalfEven (x / 10 ^ (scale - 5))).toNat
  let exponent := if rounded = 1000000 then scale + 1 else scale
  let digits := (toString (if rounded = 1000000 then 100000 else rounded)).toList
  if 6 ≤ exponent ∨ exponent < -4 then
    let size := toString exponent.natAbs
    String.ofList (digits.take 1) ++ fraction (digits.drop 1) ++
      (if exponent < 0 then "e-" else "e+") ++ (if size.length < 2 then "0" ++ size else size)
  else if 0 ≤ exponent then
    String.ofList (digits.take (exponent.toNat + 1)) ++ fraction (digits.drop (exponent.toNat + 1))
  else "0" ++ fraction (List.replicate (-exponent - 1).toNat '0' ++ digits)

example : formatG 5000 = "5000" ∧ formatG (1 / 3) = "0.333333" ∧ formatG 1234567 = "1.23457e+06" := by
  decide +kernel

/-! ### Reconciliation -/

/-- `ORDER BY sampled_at DESC LIMIT threshold`, over the selected samples. -/
def recentSamples (samples : List (Nat × ProviderHealthSample)) (threshold : Nat) :
    List ProviderHealthSample :=
  ((samples.map Prod.snd).insertionSort fun a b => b.sampledAt ≤ a.sampledAt).take threshold

/-- All of the newest samples failed, and there are enough of them. -/
def consecutiveFailures (threshold : Nat) (recent : List ProviderHealthSample) : Bool :=
  decide (recent.length ≥ threshold) && recent.all (!·.isSuccess)

/-- All of the newest samples were slow, and there are enough of them. -/
def consecutiveSlow (threshold : Nat) (latencyThreshold : Rat)
    (recent : List ProviderHealthSample) : Bool :=
  decide (recent.length ≥ threshold) &&
    recent.all fun item => item.isSuccess && decide (item.latencyMs ≥ latencyThreshold)

/-- The availability policy. -/
def availabilityCalls (source : SourceProfile) (sampleId : Nat) (sample : ProviderHealthSample)
    (recent : List ProviderHealthSample) (now checkedAt : TriggerType → Int) :
    List (Call HealthDetails) :=
  let threshold := source.incidentFailureThreshold
  if consecutiveFailures threshold recent then
    [.openOrUpdate .availability "critical"
      s!"{threshold} consecutive probes failed for {source.name}."
      (.availability sampleId sample.httpStatus sample.errorMessage threshold)
      (now .availability) (checkedAt .availability)]
  else if sample.isSuccess then
    [.resolveActive .availability "health-probe-recovery" (now .availability)]
  else []

/-- The latency policy, for a source that has a latency threshold. -/
def latencyCalls (source : SourceProfile) (sampleId : Nat) (sample : ProviderHealthSample)
    (recent : List ProviderHealthSample) (now checkedAt : TriggerType → Int) :
    List (Call HealthDetails) :=
  let threshold := source.incidentFailureThreshold
  match source.latencyThresholdMs with
  | none => []
  | some latencyThreshold =>
      if consecutiveSlow threshold latencyThreshold recent then
        [.openOrUpdate .latency "warning"
          s!"{threshold} consecutive probes for {source.name} exceeded {formatG latencyThreshold} ms."
          (.latency sampleId sample.latencyMs latencyThreshold threshold)
          (now .latency) (checkedAt .latency)]
      else if sample.isSuccess ∧ sample.latencyMs < latencyThreshold then
        [.resolveActive .latency "health-probe-recovery" (now .latency)]
      else []

/-- The calls of `reconcile_health_incidents`. -/
def reconcileCalls (source : SourceProfile) (sampleId : Nat) (sample : ProviderHealthSample)
    (recent : List ProviderHealthSample) (now checkedAt : TriggerType → Int) :
    List (Call HealthDetails) :=
  availabilityCalls source sampleId sample recent now checkedAt ++
    latencyCalls source sampleId sample recent now checkedAt

/-- The row of `record_health_sample`. -/
def newSample (source : SourceProfile) (payload : HealthSampleCreate) : ProviderHealthSample where
  sourceId := payload.sourceId
  sampledAt := payload.sampledAt.withoutTzinfo
  latencyMs := payload.latencyMs
  isSuccess := payload.isSuccess
  httpStatus := payload.httpStatus
  responseBodyHash := payload.responseBodyHash
  errorMessage := payload.errorMessage
  region := payload.region
  tenantId := source.tenantId

/-! ### One call alone -/

/-- The `SELECT` by `active_key`. -/
def activeIncident (incidents : Rows Incident) (key : String) : Option (Nat × Incident) :=
  (incidents.select fun _ row => row.activeKey == some key).head?

/-- One call on the stored incidents, with its transition. -/
def applyCall (source : SourceProfile) (incidents : Rows Incident) (call : Call HealthDetails) :
    Rows Incident × Option (IncidentTransition HealthDetails) :=
  let found := activeIncident incidents (fingerprint source call.triggerType)
  match call with
  | .openOrUpdate triggerType severity summary details now checkedAt =>
      let done := openOrUpdateIncident (found.map Prod.snd) source triggerType severity summary
        details now checkedAt
      match found with
      | none => (incidents.insert done.incident, some done)
      | some (id, _) => (incidents.modify id fun _ => done.incident, some done)
  | .resolveActive _ actor now =>
      match found, resolveActiveIncident (found.map Prod.snd) actor now with
      | some (id, _), some done => (incidents.modify id fun _ => done.incident, some done)
      | _, _ => (incidents, none)

/-- The calls one after another, with the transitions they return. -/
def applyCalls (source : SourceProfile) :
    List (Call HealthDetails) → Rows Incident → Rows Incident × List (IncidentTransition HealthDetails)
  | [], incidents => (incidents, [])
  | call :: rest, incidents =>
      let (incidents, transition) := applyCall source incidents call
      let (incidents, transitions) := applyCalls source rest incidents
      (incidents, transition.toList ++ transitions)

/-- `record_health_sample`; an error is the text of its `ValueError`. -/
def recordHealthSample (db : HealthDb) (payload : HealthSampleCreate)
    (now checkedAt : TriggerType → Int) :
    Except String (HealthDb × List (IncidentTransition HealthDetails)) :=
  match (db.sources.get payload.sourceId).filter (·.deletedAt.isNone) with
  | none => .error "Source not found."
  | some source =>
      let sample := newSample source payload
      let samples := db.samples.insert sample
      let recent := recentSamples (samples.select fun _ row => row.sourceId == source.id)
        source.incidentFailureThreshold
      let calls := reconcileCalls source db.samples.nextId sample recent now checkedAt
      let (incidents, transitions) := applyCalls source calls db.incidents
      .ok ({ db with samples, incidents }, transitions)

end ApiObservatory.Health
