import ApiObservatory.Foundation.Noninterference
import ApiObservatory.Models.Observations
import ApiObservatory.Repositories.ContractDrift
import ApiObservatory.Repositories.Incidents
import ApiObservatory.Repositories.Observations
import ApiObservatory.Security.Casbin

/-
The contract drift routes (`services/ingestor/api/routes/contract_drift.py`), with the
incident and the observation that a confirmed drift adds.

A request carries the clock readings it makes. The outbox events and the agent run of
an incident are left out: no modelled function reads them.
-/

namespace ApiObservatory.ContractRoutes

open Foundation Security

structure State where
  contracts : ContractDb
  incidents : Rows (DependencyIncident Json)
  observations : Rows Observation

structure Settings where
  superadminSubject : String
  policy : Policy
  sha256 : String → String
  /-- `notification_delivery_mode` is `broker`. -/
  broker : Bool
  notificationsEnabled : Bool
  /-- `configured_notification_channels` finds one. -/
  channels : Bool
  /-- It finds none twice, as the contract of a request demands. -/
  distinctChannels : Bool

/-- The identity of a verified token. -/
structure Caller where
  subject : String
  tenantId : Option Int
deriving DecidableEq

def Caller.claims (caller : Caller) : Claims where
  sub := some caller.subject
  tenantId := caller.tenantId.map toString

/-- The clock readings of an ingestion. -/
structure Clock where
  createdAt : Int
  now : Int
  incidentAt : Int
  checkedAt : Int
  observedAt : Int
  attemptedAt : Int
deriving DecidableEq

/-! ### The response to a drift -/

def driftSeverityText : DriftSeverity → String
  | .none => "none"
  | .low => "low"
  | .medium => "medium"
  | .high => "high"
  | .critical => "critical"

/-- `_requires_incident_response`. -/
def requiresIncidentResponse (event : DriftEvent) : Bool :=
  event.severity == .critical || event.eventType == .breaking

section Details

variable (eventId : Nat) (event : DriftEvent)

def texts (fields : List String) : Json := .array (fields.map .string)

/-- `type_changed_fields` as JSON. -/
def typeChanges : Json :=
  .object (event.typeChangedFields.map fun (path, change) =>
    (path, .object [("from_type", .string change.fromType), ("to_type", .string change.toType)]))

/-- The `details` of the incident. -/
def incidentDetails : Json :=
  .object [
    ("drift_event_id", .number (toString eventId)),
    ("event_type", .string event.eventType.text),
    ("compatibility_score", .number s!"{event.compatibilityScore}.0"),
    ("removed_fields", texts event.removedFields),
    ("type_changed_fields", typeChanges event)]

/-- The `raw_data` of the observation. -/
def observationData : Json :=
  .object [
    ("drift_event_id", .number (toString eventId)),
    ("event_type", .string event.eventType.text),
    ("severity", .string (driftSeverityText event.severity)),
    ("added_fields", texts event.addedFields),
    ("removed_fields", texts event.removedFields),
    ("type_changed_fields", typeChanges event),
    ("compatibility_score", .number s!"{event.compatibilityScore}.0"),
    ("summary", .string event.summary)]

end Details

/-- The incident after its notification was enqueued or sent. -/
def notified (settings : Settings) (transition : IncidentTransition Json) (attemptedAt : Int) :
    DependencyIncident Json :=
  let incident := transition.incident
  if transition.shouldNotify then
    if settings.broker then
      if settings.notificationsEnabled then
        { incident with lastNotificationAt := some incident.lastSeenAt }
      else incident
    else { incident with lastNotificationAt := some attemptedAt }
  else incident

/-- The active incident of a fingerprint. -/
def activeIncident (incidents : Rows (DependencyIncident Json)) (key : String) :
    Option (Nat × DependencyIncident Json) :=
  (incidents.select fun _ incident => incident.activeKey == some key).head?

/-- The request of the notification is refused by its contract. -/
def requestRefused (settings : Settings) (incidents : Rows (DependencyIncident Json))
    (source : SourceProfile) (eventId : Nat) (event : DriftEvent) (clock : Clock) : Bool :=
  let found := activeIncident incidents (fingerprint source .drift)
  let summary := if event.summary = "" then "Breaking contract drift detected." else event.summary
  let transition := openOrUpdateIncident (found.map Prod.snd) source .drift
    (driftSeverityText event.severity) summary (incidentDetails eventId event) clock.incidentAt
    clock.checkedAt
  settings.broker && settings.notificationsEnabled && !settings.distinctChannels &&
    transition.shouldNotify

/-- The incident rows after a drift event. -/
def recordIncident (settings : Settings) (incidents : Rows (DependencyIncident Json))
    (source : SourceProfile) (eventId : Nat) (event : DriftEvent) (clock : Clock) :
    Rows (DependencyIncident Json) :=
  let found := activeIncident incidents (fingerprint source .drift)
  let summary := if event.summary = "" then "Breaking contract drift detected." else event.summary
  let transition := openOrUpdateIncident (found.map Prod.snd) source .drift
    (driftSeverityText event.severity) summary (incidentDetails eventId event) clock.incidentAt
    clock.checkedAt
  let incident := notified settings transition clock.attemptedAt
  match found with
  | none => incidents.insert incident
  | some (incidentId, _) => incidents.modify incidentId fun _ => incident

/-- The observation of a drift event. -/
def incidentObservation (source : SourceProfile) (eventId : Nat) (event : DriftEvent)
    (clock : Clock) : Observation where
  sourceId := source.id
  timestamp := clock.observedAt
  rawData := observationData eventId event
  tags := ["incident", driftSeverityText event.severity]
  tenantId := source.tenantId.map Int.ofNat
  createdAt := clock.observedAt

/-- The part of `create_contract_snapshot` after its drift event. The unique index of the
observations may refuse the new one, and the contract of a notification its request. -/
def respondToDrift (settings : Settings) (state : State) (source : SourceProfile)
    (driftEvent : Option (Nat × DriftEvent)) (clock : Clock) : Option State :=
  match driftEvent with
  | none => some state
  | some (eventId, event) =>
      if requiresIncidentResponse event then
        let observation := incidentObservation source eventId event clock
        if keyTaken state.observations observation then none
        else if requestRefused settings state.incidents source eventId event clock then none
        else
          some { state with
            incidents := recordIncident settings state.incidents source eventId event clock
            observations := state.observations.insert observation }
      else some state

/-! ### Routes -/

/-- What a route answers with. -/
inductive Body where
  | ingested (snapshot : Nat × ContractSnapshot) (driftEvent : Option (Nat × DriftEvent))
  | baseline (baselineId : Nat) (baseline : ContractBaseline)
  | snapshots (items : List (Nat × ContractSnapshot)) (total offset limit : Nat)
  | driftEvents (items : List (Nat × DriftEvent)) (total offset limit : Nat)
  | report (report : CompatibilityReport)

/-- A body, the error of a route, or an exception that becomes a 500. -/
inductive Answer where
  | ok (body : Body)
  | error (error : RouteError)
  | raised

def sourceNotFound : RouteError := .httpException 404 "Source not found."

def baselineNotEstablished : RouteError := .httpException 404 "Contract baseline not established."

def maxPageSize : Nat := 1000

section Routes

variable (settings : Settings) (caller : Caller) (state : State) (sourceId : Nat)

/-- `_roles`. -/
def roles : List String :=
  ((settings.policy.links caller.claims.domain).filter (·.1 == caller.subject)).map Prod.snd

/-- `_require_scoped_source`. -/
def requireScopedSource (sources : Rows SourceProfile) : Except RouteError Unit :=
  match getSourceProfile sources sourceId with
  | none => .error sourceNotFound
  | some source =>
      if "admin" ∈ roles settings caller then .ok ()
      else
        match caller.tenantId with
        | none => .error (.httpException 403 "A tenant-scoped identity is required.")
        | some tenantId =>
            if source.tenantId.map Int.ofNat ≠ some tenantId then .error sourceNotFound else .ok ()

/-- `create_contract_snapshot` as a whole. Without a channel the broker mode raises for a
source that has a baseline. -/
def createSnapshot (payload : ContractSnapshotCreate) (clock : Clock) :
    Option (State × Option (Nat × ContractSnapshot) × Option (Nat × DriftEvent)) :=
  match state.contracts.liveSource payload.sourceId with
  | none => some (state, none, none)
  | some source =>
      match createContractSnapshot settings.sha256 state.contracts payload clock.createdAt
          clock.now with
      | .error _ => none
      | .ok result =>
          if (getActiveContractBaseline state.contracts payload.sourceId).isSome &&
              settings.broker && settings.notificationsEnabled && !settings.channels then none
          else
            (respondToDrift settings { state with contracts := result.db } source
              result.driftEvent clock).map fun state => (state, result.snapshot, result.driftEvent)

/-- `ingest_snapshot`. -/
def ingestSnapshot (payload : ContractSnapshotCreate) (clock : Clock) : State × Answer :=
  match casbinGuard settings.superadminSubject settings.policy ["user", "admin"] caller.claims with
  | .error error => (state, .error error)
  | .ok _ =>
      match createSnapshot settings state payload clock with
      | none => (state, .raised)
      | some (state, none, _) => (state, .error sourceNotFound)
      | some (state, some snapshot, driftEvent) => (state, .ok (.ingested snapshot driftEvent))

/-- `get_baseline`. -/
def getBaseline : Answer :=
  match requireScopedSource settings caller sourceId state.contracts.sources with
  | .error error => .error error
  | .ok () =>
      match getActiveContractBaseline state.contracts sourceId with
      | none => .error baselineNotEstablished
      | some (baselineId, baseline) => .ok (.baseline baselineId baseline)

/-- `accept_baseline`; it answers with the promoted baseline, the newest row. -/
def acceptBaselineRoute (acceptanceNote : Option String) (candidateSnapshotId : Option Nat)
    (now : Int) : State × Answer :=
  match casbinGuard settings.superadminSubject settings.policy ["user", "admin"] caller.claims with
  | .error error => (state, .error error)
  | .ok _ =>
      match requireScopedSource settings caller sourceId state.contracts.sources with
      | .error error => (state, .error error)
      | .ok () =>
          match getActiveContractBaseline state.contracts sourceId with
          | none => (state, .error baselineNotEstablished)
          | some (baselineId, baseline) =>
              let actor := if caller.subject = "" then "unknown" else caller.subject
              match acceptContractBaseline state.contracts baselineId baseline actor acceptanceNote
                  candidateSnapshotId now with
              | .error text => (state, .error (.httpException 409 text))
              | .ok contracts =>
                  let promotedId := state.contracts.baselines.nextId
                  match contracts.baselines.get promotedId with
                  | none => ({ state with contracts }, .raised)
                  | some promoted => ({ state with contracts }, .ok (.baseline promotedId promoted))

/-- `list_snapshots`. -/
def listSnapshots (offset limit : Nat) : Answer :=
  if 1 ≤ limit ∧ limit ≤ maxPageSize then
    match getSourceProfile state.contracts.sources sourceId with
    | none => .error sourceNotFound
    | some _ =>
        let snapshots := snapshotsByAge state.contracts sourceId
        .ok (.snapshots ((snapshots.drop offset).take limit) snapshots.length offset limit)
  else .error .requestValidation

/-- `list_drift_events`. An event is stored when it is created, so the newest has the
last id. -/
def listDriftEvents (offset limit : Nat) : Answer :=
  if 1 ≤ limit ∧ limit ≤ maxPageSize then
    match getSourceProfile state.contracts.sources sourceId with
    | none => .error sourceNotFound
    | some _ =>
        let events := (state.contracts.driftEvents.select fun _ event =>
          event.sourceId == sourceId).reverse
        .ok (.driftEvents ((events.drop offset).take limit) events.length offset limit)
  else .error .requestValidation

/-- `compatibility_report`. -/
def compatibilityReport : Answer :=
  match getSourceProfile state.contracts.sources sourceId with
  | none => .error sourceNotFound
  | some _ =>
      match getCompatibilityReport state.contracts sourceId with
      | .error _ => .raised
      | .ok report => .ok (.report report)

end Routes

inductive Request where
  | ingestSnapshot (payload : ContractSnapshotCreate) (clock : Clock)
  | getBaseline (sourceId : Nat)
  | acceptBaseline (sourceId : Nat) (acceptanceNote : Option String)
      (candidateSnapshotId : Option Nat) (now : Int)
  | listSnapshots (sourceId offset limit : Nat)
  | listDriftEvents (sourceId offset limit : Nat)
  | compatibilityReport (sourceId : Nat)

/-- One request of a caller. -/
def handle (settings : Settings) (caller : Caller) (state : State) : Request → State × Answer
  | .ingestSnapshot payload clock => ingestSnapshot settings caller state payload clock
  | .getBaseline sourceId => (state, getBaseline settings caller state sourceId)
  | .acceptBaseline sourceId acceptanceNote candidateSnapshotId now =>
      acceptBaselineRoute settings caller state sourceId acceptanceNote candidateSnapshotId now
  | .listSnapshots sourceId offset limit => (state, listSnapshots state sourceId offset limit)
  | .listDriftEvents sourceId offset limit => (state, listDriftEvents state sourceId offset limit)
  | .compatibilityReport sourceId => (state, compatibilityReport state sourceId)

end ApiObservatory.ContractRoutes
