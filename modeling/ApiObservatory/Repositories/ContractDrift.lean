import ApiObservatory.Foundation.Rows
import ApiObservatory.Models.Contracts
import ApiObservatory.Models.Sources

/-
Contract snapshots, baselines and the compatibility report
(`services/ingestor/repositories/contract_drift.py`).

Each function is one transaction, run alone. A transaction that raises leaves
the database as it was. The incident, observation and agent-run rows that a
confirmed drift adds in the same transaction are not modelled, nor is what is
sent after the commit: nothing here reads them.
-/

namespace ApiObservatory

open Foundation

structure ContractDb where
  sources : Rows SourceProfile
  snapshots : Rows ContractSnapshot
  baselines : Rows ContractBaseline
  driftEvents : Rows DriftEvent

/-- The request of `create_contract_snapshot`. -/
structure ContractSnapshotCreate where
  sourceId : Nat
  payloadSchema : Payload
  schemaVersion : Option String := none
  snapshotNote : Option String := none

/-! ### Reading -/

namespace ContractDb

/-- The `SELECT` of a source that is not deleted. -/
def liveSource (db : ContractDb) (sourceId : Nat) : Option SourceProfile :=
  (db.sources.get sourceId).filter fun source => source.deletedAt.isNone

end ContractDb

/-- The `WHERE` clause of `get_active_contract_baseline`. -/
def ContractBaseline.isActive (baseline : ContractBaseline) (sourceId : Nat) : Bool :=
  baseline.sourceId == sourceId && baseline.status == .active && baseline.deletedAt.isNone

/-- `get_active_contract_baseline`. -/
def getActiveContractBaseline (db : ContractDb) (sourceId : Nat) :
    Option (Nat × ContractBaseline) :=
  (db.baselines.select fun _ baseline => baseline.isActive sourceId).head?

/-! ### The candidate of a baseline -/

namespace ContractBaseline

/-- `_clear_candidate`. -/
def clearCandidate (baseline : ContractBaseline) : ContractBaseline :=
  { baseline with
    candidateSnapshotId := none
    candidateSchemaFingerprint := none
    candidateObservationCount := 0
    candidateDriftEventId := none
    candidateFirstSeenAt := none
    candidateLastSeenAt := none }

/-- The candidate after a snapshot whose structure differs. -/
def observeCandidate (baseline : ContractBaseline) (candidateFingerprint : String)
    (snapshotId : Nat) (now : Int) : ContractBaseline :=
  let baseline :=
    if baseline.candidateSchemaFingerprint = some candidateFingerprint then
      { baseline with candidateObservationCount := baseline.candidateObservationCount + 1 }
    else
      { baseline with
        candidateSchemaFingerprint := some candidateFingerprint
        candidateObservationCount := 1
        candidateDriftEventId := none
        candidateFirstSeenAt := some now }
  { baseline with candidateSnapshotId := some snapshotId, candidateLastSeenAt := some now }

/-- A confirmed candidate without a drift event. -/
def confirmsDrift (baseline : ContractBaseline) : Bool :=
  decide (contractBaselineConfirmationPolls ≤ baseline.candidateObservationCount) &&
    baseline.candidateDriftEventId.isNone

end ContractBaseline

/-! ### Transactions -/

/-- The result of `create_contract_snapshot`, with the rows it returns. -/
structure SnapshotResult where
  db : ContractDb
  snapshot : Option (Nat × ContractSnapshot)
  driftEvent : Option (Nat × DriftEvent)

/-- The baseline of the first snapshot of a source. -/
def firstBaseline (source : SourceProfile) (sourceId snapshotId : Nat) (now : Int) :
    ContractBaseline where
  sourceId := sourceId
  tenantId := source.tenantId
  baselineSnapshotId := snapshotId
  version := 1
  status := .active
  activeKey := some s!"source:{sourceId}"
  acceptedBy := "system:first-observation"
  acceptedAt := now
  acceptanceNote := some "Initial observed contract baseline."

/-- The drift event of a confirmed candidate. -/
def newDriftEvent (sourceId previousSnapshotId currentSnapshotId : Nat) (diff : ContractDiff) :
    DriftEvent where
  sourceId := sourceId
  previousSnapshotId := previousSnapshotId
  currentSnapshotId := currentSnapshotId
  eventType := eventType diff
  severity := severity (eventType diff) (compatibilityScore diff)
  addedFields := diff.addedFields
  removedFields := diff.removedFields
  typeChangedFields := diff.typeChangedFields
  compatibilityScore := compatibilityScore diff
  summary := summary (eventType diff) diff

/-- The snapshot row of `create_contract_snapshot`, with its default score. -/
def newSnapshot (sha256 : String → String) (payload : ContractSnapshotCreate) (createdAt : Int) :
    ContractSnapshot where
  sourceId := payload.sourceId
  schemaVersion := payload.schemaVersion
  payloadSchema := payload.payloadSchema
  schemaFingerprint := payloadFingerprint sha256 payload.payloadSchema
  compatibilityScore := contractCompatibilityMaxScore
  snapshotNote := payload.snapshotNote
  createdAt := createdAt

/-- The baseline and the drift event after a snapshot has been compared with the
accepted baseline. The event gets the id `eventId`. -/
def afterComparison (sha256 : String → String) (payload : ContractSnapshotCreate)
    (baseline : ContractBaseline) (diff : ContractDiff) (snapshotId eventId : Nat) (now : Int) :
    ContractBaseline × Option DriftEvent :=
  if diff.isEmpty then (baseline.clearCandidate, none)
  else
    let candidateFingerprint := structureFingerprint sha256 (flattenSchema payload.payloadSchema "")
    let observed := baseline.observeCandidate candidateFingerprint snapshotId now
    if observed.confirmsDrift then
      ({ observed with candidateDriftEventId := some eventId },
        some (newDriftEvent payload.sourceId baseline.baselineSnapshotId snapshotId diff))
    else (observed, none)

/-- `create_contract_snapshot` from its comparison with the accepted baseline on. -/
def compareWithBaseline (sha256 : String → String) (db : ContractDb)
    (payload : ContractSnapshotCreate) (snapshot : ContractSnapshot) (baselineId : Nat)
    (baseline : ContractBaseline) (diff : ContractDiff) (now : Int) : SnapshotResult :=
  let snapshotId := db.snapshots.nextId
  let eventId := db.driftEvents.nextId
  let snapshot := { snapshot with compatibilityScore := compatibilityScore diff }
  let after := afterComparison sha256 payload baseline diff snapshotId eventId now
  { db :=
      { db with
        snapshots := db.snapshots.insert snapshot
        baselines := db.baselines.modify baselineId fun _ => after.1
        driftEvents :=
          match after.2 with
          | none => db.driftEvents
          | some event => db.driftEvents.insert event }
    snapshot := some (snapshotId, snapshot)
    driftEvent := after.2.map (eventId, ·) }

/-- `create_contract_snapshot`; an error is the text of its `RuntimeError`. The
snapshot is created at `createdAt`, and `now` is the clock after it. -/
def createContractSnapshot (sha256 : String → String) (db : ContractDb)
    (payload : ContractSnapshotCreate) (createdAt now : Int) : Except String SnapshotResult :=
  match db.liveSource payload.sourceId with
  | none => .ok ⟨db, none, none⟩
  | some source =>
      let snapshotId := db.snapshots.nextId
      let snapshot := newSnapshot sha256 payload createdAt
      match getActiveContractBaseline db payload.sourceId with
      | none =>
          .ok
            { db := { db with
                snapshots := db.snapshots.insert snapshot
                baselines :=
                  db.baselines.insert (firstBaseline source payload.sourceId snapshotId now) }
              snapshot := some (snapshotId, snapshot)
              driftEvent := none }
      | some (baselineId, baseline) =>
          match (db.snapshots.insert snapshot).get baseline.baselineSnapshotId with
          | none =>
              .error s!"Accepted baseline snapshot {baseline.baselineSnapshotId} is missing."
          | some baselineSnapshot =>
              let baselineFlat := flattenSchema baselineSnapshot.payloadSchema ""
              let currentFlat := flattenSchema payload.payloadSchema ""
              .ok (compareWithBaseline sha256 db payload snapshot baselineId baseline
                (diffContract baselineFlat currentFlat) now)

/-- The accepted row of `accept_contract_baseline`. -/
def promotedBaseline (baselineId : Nat) (baseline : ContractBaseline) (candidateId : Nat)
    (actor : String) (acceptanceNote : Option String) (now : Int) : ContractBaseline where
  sourceId := baseline.sourceId
  tenantId := baseline.tenantId
  baselineSnapshotId := candidateId
  promotedFromBaselineId := some baselineId
  version := baseline.version + 1
  status := .active
  activeKey := some s!"source:{baseline.sourceId}"
  acceptedBy := actor
  acceptedAt := now
  acceptanceNote := acceptanceNote

/-- The prior baseline of `accept_contract_baseline`. -/
def supersededBaseline (baseline : ContractBaseline) (now : Int) : ContractBaseline :=
  { baseline with status := .superseded, activeKey := none, supersededAt := some now }

/-- `candidate_snapshot_id or baseline.candidate_snapshot_id`. -/
def selectedSnapshotId (candidateSnapshotId : Option Nat) (baseline : ContractBaseline) :
    Option Nat :=
  match candidateSnapshotId with
  | none => baseline.candidateSnapshotId
  | some 0 => baseline.candidateSnapshotId
  | some id => some id

/-- `accept_contract_baseline`; an error is the text of its `ValueError`. -/
def acceptContractBaseline (db : ContractDb) (baselineId : Nat) (baseline : ContractBaseline)
    (actor : String) (acceptanceNote : Option String) (candidateSnapshotId : Option Nat)
    (now : Int) : Except String ContractDb :=
  match selectedSnapshotId candidateSnapshotId baseline, baseline.candidateSnapshotId with
  | some selected, some current =>
      if selected ≠ current then
        .error "The selected snapshot is not the current contract candidate."
      else
        match (db.snapshots.get selected).filter (·.sourceId == baseline.sourceId) with
        | none => .error "The candidate snapshot is unavailable."
        | some _ =>
            .ok { db with
              baselines :=
                (db.baselines.modify baselineId fun _ => supersededBaseline baseline now).insert
                  (promotedBaseline baselineId baseline selected actor acceptanceNote now) }
  | _, _ => .error "No candidate contract is available for acceptance."

/-- The acceptance route after its scope check; an error is the text of its 404
or 409 response. -/
def acceptBaseline (db : ContractDb) (sourceId : Nat) (actor : String)
    (acceptanceNote : Option String) (candidateSnapshotId : Option Nat) (now : Int) :
    Except String ContractDb :=
  match getActiveContractBaseline db sourceId with
  | none => .error "Contract baseline not established."
  | some (baselineId, baseline) =>
      acceptContractBaseline db baselineId baseline actor acceptanceNote candidateSnapshotId now

/-- `accept_contract_baseline` statement by statement, with the rows of its
session: an error leaves those that the statements before it have written. -/
def acceptContractBaselineSession (baselineId : Nat) (baseline : ContractBaseline) (actor : String)
    (acceptanceNote : Option String) (candidateSnapshotId : Option Nat) (now : Int) :
    ExceptT String (StateM ContractDb) Nat := do
  match selectedSnapshotId candidateSnapshotId baseline, baseline.candidateSnapshotId with
  | some selected, some current =>
      if selected ≠ current then
        throw "The selected snapshot is not the current contract candidate."
      match (← get).snapshots.get selected with
      | none => throw "The candidate snapshot is unavailable."
      | some candidate =>
          if candidate.sourceId ≠ baseline.sourceId then
            throw "The candidate snapshot is unavailable."
          modify fun db => { db with
            baselines := db.baselines.modify baselineId fun _ => supersededBaseline baseline now }
          let promotedId := (← get).baselines.nextId
          modify fun db => { db with
            baselines := db.baselines.insert
              (promotedBaseline baselineId baseline selected actor acceptanceNote now) }
          return promotedId
  | _, _ => throw "No candidate contract is available for acceptance."

theorem session_get {α : Type} (rest : ContractDb → ExceptT String (StateM ContractDb) α)
    (db : ContractDb) : (get >>= rest).run db = (rest db).run db := rfl

/-- An acceptance that raises has written nothing, and one that does not leaves
what `acceptContractBaseline` says. -/
theorem acceptContractBaselineSession_run (db : ContractDb) (baselineId : Nat)
    (baseline : ContractBaseline) (actor : String) (acceptanceNote : Option String)
    (candidateSnapshotId : Option Nat) (now : Int) :
    (acceptContractBaselineSession baselineId baseline actor acceptanceNote candidateSnapshotId
        now).run db =
      match acceptContractBaseline db baselineId baseline actor acceptanceNote candidateSnapshotId
        now with
      | .error text => (.error text, db)
      | .ok db' => (.ok db.baselines.nextId, db') := by
  unfold acceptContractBaselineSession acceptContractBaseline
  split
  · rename_i selected current chosen is
    by_cases agrees : selected = current
    · simp only [agrees, ne_eq, not_true_eq_false, if_false, session_get]
      cases found : db.snapshots.get current with
      | none => rfl
      | some candidate =>
        by_cases owned : candidate.sourceId = baseline.sourceId
        · simp only [owned, not_true_eq_false, if_false, Option.filter_some, beq_self_eq_true,
            if_true]
          rfl
        · have foreign : (candidate.sourceId == baseline.sourceId) = false := by simpa using owned
          simp only [owned, not_false_eq_true, if_true, Option.filter_some, foreign]
          rfl
    · simp only [ne_eq, agrees, not_false_eq_true, if_true]
      rfl
  · rfl

/-! ### The report -/

structure CompatibilityReport where
  sourceId : Nat
  latestSnapshotId : Option Nat
  previousSnapshotId : Option Nat
  compatibilityScore : Int
  driftDetected : Bool
  eventType : Option DriftEventType
  severity : Option DriftSeverity
  addedFields : List String
  removedFields : List String
  typeChangedFields : List (String × DriftTypeChange)
deriving DecidableEq

/-- A report without a comparison. -/
def uncomparedReport (sourceId : Nat) (latestSnapshotId : Option Nat) (score : Int) :
    CompatibilityReport where
  sourceId := sourceId
  latestSnapshotId := latestSnapshotId
  previousSnapshotId := none
  compatibilityScore := score
  driftDetected := false
  eventType := none
  severity := none
  addedFields := []
  removedFields := []
  typeChangedFields := []

/-- The report of a comparison. -/
def comparedReport (sourceId latestSnapshotId previousSnapshotId : Nat) (diff : ContractDiff) :
    CompatibilityReport :=
  let eventType := ApiObservatory.eventType diff
  let score := ApiObservatory.compatibilityScore diff
  { sourceId := sourceId
    latestSnapshotId := some latestSnapshotId
    previousSnapshotId := some previousSnapshotId
    compatibilityScore := score
    driftDetected := eventType ≠ .none
    eventType := if eventType ≠ .none then some eventType else none
    severity := if eventType ≠ .none then some (severity eventType score) else none
    addedFields := diff.addedFields
    removedFields := diff.removedFields
    typeChangedFields := diff.typeChangedFields }

/-- The snapshots of a source, `ORDER BY created_at DESC`. -/
def snapshotsByAge (db : ContractDb) (sourceId : Nat) : List (Nat × ContractSnapshot) :=
  (db.snapshots.select fun _ snapshot => snapshot.sourceId == sourceId).insertionSort
    fun a b => b.2.createdAt ≤ a.2.createdAt

/-- `get_compatibility_report`; an error is the text of its `RuntimeError`. -/
def getCompatibilityReport (db : ContractDb) (sourceId : Nat) : Except String CompatibilityReport :=
  match (snapshotsByAge db sourceId).head? with
  | none => .ok (uncomparedReport sourceId none contractCompatibilityMaxScore)
  | some (latestId, latest) =>
      match getActiveContractBaseline db sourceId with
      | none => .ok (uncomparedReport sourceId (some latestId) latest.compatibilityScore)
      | some (_, baseline) =>
          match db.snapshots.get baseline.baselineSnapshotId with
          | none =>
              .error s!"Accepted baseline snapshot {baseline.baselineSnapshotId} is missing."
          | some baselineSnapshot =>
              .ok (comparedReport sourceId latestId baseline.baselineSnapshotId
                (diffContract (flattenSchema baselineSnapshot.payloadSchema "")
                  (flattenSchema latest.payloadSchema "")))

end ApiObservatory
