import ApiObservatory.Foundation.Json

/-
Observations (`services/ingestor/models/observations.py`).

A stored timestamp is a naive UTC value in microseconds, the payload a JSON value.
-/

namespace ApiObservatory

open Foundation

structure Observation where
  sourceId : Nat
  timestamp : Int
  rawData : Json
  tags : List String := []
  processed : Bool := false
  processedAt : Option Int := none
  tenantId : Option Int
  createdAt : Int := 0
  updatedAt : Option Int := none
  deletedAt : Option Int := none
deriving DecidableEq

/-- `ObservationRequest`. -/
structure ObservationRequest where
  source : String
  timestamp : Int
  data : Json
  tags : List String := []
deriving DecidableEq

/-- `UpdateObservationRequest`; null keeps the current value. -/
structure UpdateObservationRequest where
  source : Option String := none
  timestamp : Option Int := none
  data : Option Json := none
  tags : Option (List String) := none
deriving DecidableEq

end ApiObservatory
