import ApiObservatory.Repositories.ContractSchema

/-
Contract snapshots, baselines and drift events
(`services/ingestor/models/contracts.py`).

The primary key is not a field: a row is stored under its id. `updated_at` and
the `created_at` of baselines and drift events are left out, since no modelled
function reads them.
-/

namespace ApiObservatory

/-- Schema snapshot for a source payload contract at a point in time. -/
structure ContractSnapshot where
  sourceId : Nat
  schemaVersion : Option String
  payloadSchema : Payload
  schemaFingerprint : String
  compatibilityScore : Int
  snapshotNote : Option String
  createdAt : Int

inductive BaselineStatus where
  | active | superseded
deriving DecidableEq, Repr

/-- Versioned accepted contract baseline and its current candidate state. -/
structure ContractBaseline where
  sourceId : Nat
  tenantId : Option Nat
  baselineSnapshotId : Nat
  promotedFromBaselineId : Option Nat := none
  version : Nat
  status : BaselineStatus
  activeKey : Option String
  acceptedBy : String
  acceptedAt : Int
  acceptanceNote : Option String
  supersededAt : Option Int := none
  candidateSnapshotId : Option Nat := none
  candidateSchemaFingerprint : Option String := none
  candidateObservationCount : Nat := 0
  candidateDriftEventId : Option Nat := none
  candidateFirstSeenAt : Option Int := none
  candidateLastSeenAt : Option Int := none
  deletedAt : Option Int := none
deriving DecidableEq

/-- Confirmed schema drift from an accepted baseline to a candidate snapshot. -/
structure DriftEvent where
  sourceId : Nat
  previousSnapshotId : Nat
  currentSnapshotId : Nat
  eventType : DriftEventType
  severity : DriftSeverity
  addedFields : List String
  removedFields : List String
  typeChangedFields : List (String × DriftTypeChange)
  compatibilityScore : Int
  summary : String
deriving DecidableEq

end ApiObservatory
