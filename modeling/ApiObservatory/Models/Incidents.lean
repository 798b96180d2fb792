import ApiObservatory.Models.Sources

/-
Dependency incidents (`services/ingestor/models/incidents.py`).

The primary key is not a field: a row is stored under its id. `created_at` and
`updated_at` are left out, since no modelled function reads them. The details of
a trigger are JSON that no modelled function looks into, so their type is a
parameter.
-/

namespace ApiObservatory

/-- The statuses of `ck_dependency_incidents_status`; `open` is a keyword. -/
inductive IncidentStatus where
  | opened | acknowledged | resolved
deriving DecidableEq, Repr

/-- Membership in `ACTIVE_INCIDENT_STATUSES`. -/
def IncidentStatus.active : IncidentStatus → Bool
  | .opened => true
  | .acknowledged => true
  | .resolved => false

/-- The trigger types of `ck_dependency_incidents_trigger_type`. -/
inductive TriggerType where
  | availability | latency | drift
deriving DecidableEq, Repr

/-- The stored spelling of a trigger type. -/
def TriggerType.text : TriggerType → String
  | .availability => "availability"
  | .latency => "latency"
  | .drift => "drift"

/-- Tenant-scoped lifecycle for an actionable dependency failure. -/
structure DependencyIncident (Details : Type) where
  sourceId : Nat
  tenantId : Option Nat
  triggerType : TriggerType
  fingerprint : String
  activeKey : Option String
  status : IncidentStatus
  severity : String
  summary : String
  guidance : String
  triggerDetails : Details
  occurrenceCount : Nat
  firstSeenAt : Int
  lastSeenAt : Int
  acknowledgedAt : Option Int := none
  acknowledgedBy : Option String := none
  resolvedAt : Option Int := none
  resolvedBy : Option String := none
  lastNotificationAt : Option Int := none
deriving DecidableEq

end ApiObservatory
