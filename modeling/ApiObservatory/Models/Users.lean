/-
Tenants, users and their membership (`services/ingestor/models/tenants.py`).
-/

namespace ApiObservatory

structure Tenant where
  name : String
deriving DecidableEq

structure User where
  username : String
  email : String
  passwordHash : String
  isActive : Bool := true
  tenantId : Option Nat
  deletedAt : Option Int := none
deriving DecidableEq

/-- A row of the junction table `user_tenants`. -/
structure UserTenant where
  userId : Nat
  tenantId : Nat
deriving DecidableEq

end ApiObservatory
