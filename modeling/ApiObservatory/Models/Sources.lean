/-
Source profiles and provider health samples (`services/ingestor/models/sources.py`),
as far as the modelled functions read them.

A profile keeps its primary key, which other rows and job names use. A stored
latency is a finite float, kept as its exact value.
-/

namespace ApiObservatory

structure SourceProfile where
  id : Nat
  name : String
  baseUrl : String
  healthCheckPath : String := "/health"
  probeIntervalSeconds : Int := 60
  isActive : Bool := true
  tenantId : Option Nat
  latencyThresholdMs : Option Rat := none
  incidentFailureThreshold : Nat := 2
  incidentCooldownSeconds : Int := 900
  deletedAt : Option Int := none
deriving DecidableEq

/-- Single health probe result for a source. -/
structure ProviderHealthSample where
  sourceId : Nat
  sampledAt : Int
  latencyMs : Rat
  isSuccess : Bool
  httpStatus : Option Nat
  responseBodyHash : Option String
  errorMessage : Option String
  region : Option String
  tenantId : Option Nat
deriving DecidableEq

end ApiObservatory
