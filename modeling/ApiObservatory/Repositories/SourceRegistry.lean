import ApiObservatory.Foundation.Rows
import ApiObservatory.Models.Sources
import ApiObservatory.Platform.Routes

/-
The source registry (`services/ingestor/repositories/source_registry.py`) with
its request schemas (`services/ingestor/api_schemas/source_registry.py`).

The authentication fields of a profile are left out: no modelled function reads
them.
-/

namespace ApiObservatory

open Foundation

/-- A parsed URL; `text` is its `str`. -/
structure AnyHttpUrl where
  text : String
deriving DecidableEq

def sourceProfileNameMax : Nat := 255

def sourceProfileUrlMax : Nat := 2048

/-! ### Request schemas -/

/-- Request schema for registering a source profile. -/
structure SourceProfileCreate where
  name : String
  baseUrl : AnyHttpUrl
  healthCheckPath : String := "/health"
  probeIntervalSeconds : Int := 60
  isActive : Bool := true
  latencyThresholdMs : Option Rat := none
  incidentFailureThreshold : Nat := 2
  incidentCooldownSeconds : Int := 900
deriving DecidableEq

/-- Partial update schema: an unset field is `none`, a field sent as null is
`some none`. -/
structure SourceProfileUpdate where
  baseUrl : Option (Option AnyHttpUrl) := none
  healthCheckPath : Option (Option String) := none
  probeIntervalSeconds : Option (Option Int) := none
  isActive : Option (Option Bool) := none
  latencyThresholdMs : Option (Option Rat) := none
  incidentFailureThreshold : Option (Option Nat) := none
  incidentCooldownSeconds : Option (Option Int) := none
deriving DecidableEq

def validBaseUrl (url : AnyHttpUrl) : Bool := decide (url.text.length ≤ sourceProfileUrlMax)

/-- The length bounds and `validate_health_check_path`. -/
def validHealthCheckPath (path : String) : Bool :=
  decide (1 ≤ path.length ∧ path.length ≤ 255) && path.startsWith "/"

def validProbeInterval (interval : Int) : Bool := decide (1 ≤ interval)

def validLatencyThreshold (threshold : Rat) : Bool := decide (0 < threshold)

def validFailureThreshold (threshold : Nat) : Bool := decide (1 ≤ threshold ∧ threshold ≤ 20)

def validCooldown (cooldown : Int) : Bool := decide (0 ≤ cooldown ∧ cooldown ≤ 86400)

/-- The field constraints of `SourceProfileCreate`. -/
def SourceProfileCreate.valid (payload : SourceProfileCreate) : Bool :=
  decide (1 ≤ payload.name.length ∧ payload.name.length ≤ sourceProfileNameMax) &&
  validBaseUrl payload.baseUrl && validHealthCheckPath payload.healthCheckPath &&
  validProbeInterval payload.probeIntervalSeconds &&
  payload.latencyThresholdMs.all validLatencyThreshold &&
  validFailureThreshold payload.incidentFailureThreshold &&
  validCooldown payload.incidentCooldownSeconds

/-- The field constraints of `SourceProfileUpdate`; null passes each of them. -/
def SourceProfileUpdate.valid (patch : SourceProfileUpdate) : Bool :=
  patch.baseUrl.join.all validBaseUrl && patch.healthCheckPath.join.all validHealthCheckPath &&
  patch.probeIntervalSeconds.join.all validProbeInterval &&
  patch.latencyThresholdMs.join.all validLatencyThreshold &&
  patch.incidentFailureThreshold.join.all validFailureThreshold &&
  patch.incidentCooldownSeconds.join.all validCooldown

/-! ### Queries -/

/-- `get_source_profile`. -/
def getSourceProfile (sources : Rows SourceProfile) (sourceId : Nat)
    (includeDeleted : Bool := false) : Option SourceProfile :=
  (sources.get sourceId).filter fun profile => includeDeleted || profile.deletedAt.isNone

/-- `resolve_source_name`. -/
def resolveSourceName (sources : Rows SourceProfile) (sourceId : Nat) : String :=
  match getSourceProfile sources sourceId with
  | some profile => profile.name
  | none => s!"source_{sourceId}"

/-- `create_source_profile`. The name index covers deleted profiles too. -/
def createSourceProfile (sources : Rows SourceProfile) (payload : SourceProfileCreate)
    (tenantId : Option Nat) : Except DbError (Rows SourceProfile) :=
  if sources.toList.any (·.2.name == payload.name) then .error .integrityError
  else
    .ok (sources.insert
      { id := sources.nextId
        name := payload.name
        baseUrl := payload.baseUrl.text
        healthCheckPath := payload.healthCheckPath
        probeIntervalSeconds := payload.probeIntervalSeconds
        isActive := payload.isActive
        tenantId
        latencyThresholdMs := payload.latencyThresholdMs
        incidentFailureThreshold := payload.incidentFailureThreshold
        incidentCooldownSeconds := payload.incidentCooldownSeconds })

/-- The value of a column that is not nullable after `setattr`, if the field is set. -/
def column {α : Type} (current : α) : Option (Option α) → Except DbError α
  | none => .ok current
  | some (some value) => .ok value
  | some none => .error .integrityError

/-- The `setattr` loop over the set fields and the flush. A base URL is set as the
URL itself, and a string column takes strings only. -/
def SourceProfileUpdate.apply (patch : SourceProfileUpdate) (profile : SourceProfile) :
    Except DbError SourceProfile := do
  if patch.baseUrl.join.isSome then throw .statementError
  let baseUrl ← column profile.baseUrl (patch.baseUrl.map fun url => url.map (·.text))
  let healthCheckPath ← column profile.healthCheckPath patch.healthCheckPath
  let probeIntervalSeconds ← column profile.probeIntervalSeconds patch.probeIntervalSeconds
  let isActive ← column profile.isActive patch.isActive
  let incidentFailureThreshold ←
    column profile.incidentFailureThreshold patch.incidentFailureThreshold
  let incidentCooldownSeconds ←
    column profile.incidentCooldownSeconds patch.incidentCooldownSeconds
  return { profile with
    baseUrl, healthCheckPath, probeIntervalSeconds, isActive, incidentFailureThreshold,
    incidentCooldownSeconds
    latencyThresholdMs := patch.latencyThresholdMs.getD profile.latencyThresholdMs }

/-- `update_source_profile` on the profile read before. -/
def updateSourceProfile (sources : Rows SourceProfile) (sourceId : Nat) (profile : SourceProfile)
    (patch : SourceProfileUpdate) : Except DbError (Rows SourceProfile) := do
  let updated ← patch.apply profile
  return sources.modify sourceId fun _ => updated

/-- `deactivate_source_profile`. -/
def deactivateSourceProfile (sources : Rows SourceProfile) (sourceId : Nat)
    (profile : SourceProfile) (now : Int) : Rows SourceProfile :=
  if profile.deletedAt.isNone then
    sources.modify sourceId fun _ => { profile with deletedAt := some now, isActive := false }
  else sources

/-- A patch cannot bring a deleted profile back. -/
theorem SourceProfileUpdate.apply_deletedAt {patch : SourceProfileUpdate}
    {profile updated : SourceProfile} (applied : patch.apply profile = .ok updated) :
    updated.deletedAt = profile.deletedAt := by
  unfold SourceProfileUpdate.apply at applied
  split at applied
  · cases applied
  · -- one bind for each column that is not nullable
    iterate 6 obtain ⟨_, -, applied⟩ := ok_of_bind applied
    cases applied
    rfl

theorem getSourceProfile_eq_some {sources : Rows SourceProfile} {sourceId : Nat}
    {profile : SourceProfile} :
    getSourceProfile sources sourceId = some profile ↔
      sources.get sourceId = some profile ∧ profile.deletedAt = none := by
  simp [getSourceProfile, Option.filter_eq_some_iff]

end ApiObservatory
