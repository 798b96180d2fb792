import ApiObservatory.Foundation.Run
import ApiObservatory.Repositories.Users
import ApiObservatory.Security.RoleGuard

/-
The routes that administer users (`services/ingestor/api/routes/auth.py`).

A route gives the state after the request, also when it fails: an assignment is
committed before its user is looked up.
-/

namespace ApiObservatory.Users

open Foundation Security

/-! ### Request and response schemas -/

/-- The schema of a new user. The address is checked by its type, and the fields
`role` and `tenant_id` are optional. -/
structure UserCreate where
  username : String
  email : String
  password : String
  role : Role := .user
  tenantId : Option Nat := none
deriving DecidableEq

/-- The length bounds of `UserCreate`. -/
def UserCreate.valid (body : UserCreate) : Bool :=
  decide (3 ≤ body.username.length ∧ body.username.length ≤ 64) &&
  decide (8 ≤ body.password.length ∧ body.password.length ≤ 128)

/-- The schema of an update: an unset field is `none`, a field sent as null is
`some none`. -/
structure UserUpdate where
  email : Option (Option String) := none
  isActive : Option (Option Bool) := none
deriving DecidableEq

structure UserResponse where
  id : Nat
  username : String
  email : String
  role : String
  tenantId : Option Nat
  isActive : Bool
deriving DecidableEq

def userResponse (userId : Nat) (user : User) (role : String) : UserResponse where
  id := userId
  username := user.username
  email := user.email
  role := role
  tenantId := user.tenantId
  isActive := user.isActive

/-- The response with the effective role of the user in its own tenant. -/
def effectiveResponse (db : UserDb) (userId : Nat) (user : User) : UserResponse :=
  userResponse userId user
    (resolveEffectiveRole (getUserRolesInDomain db user.username user.tenantId))

def userNotFound : RouteError := .httpException 404 "User not found."

/-- The answer of a route and the state after it. -/
abbrev Answer (α : Type) := UserDb × Except RouteError α

/-! ### The routes behind the guard -/

/-- `assign_role`. -/
def assignRole (db : UserDb) (username : String) (role : Role) : Answer UserResponse :=
  let db := assignUserRole db username role.text
  match getUserByUsername db username with
  | none => (db, .error userNotFound)
  | some (userId, user) => (db, .ok (effectiveResponse db userId user))

/-- `delete_user_route`. -/
def deleteUserRoute (db : UserDb) (userId : Nat) (claims : Claims) (now : Int) : Answer Unit :=
  match getUserById db userId with
  | none => (db, .error userNotFound)
  | some user =>
      if user.username = claims.subject then
        (db, .error (.httpException 403 "Users cannot delete themselves."))
      else if hasRoleInDomain db user.username "admin" user.tenantId ∧
          countActiveAdmins db (some user.username) = 0 then
        (db, .error (.httpException 409 "Cannot delete the last active admin."))
      else (deleteUser db userId now, .ok ())

def invalidTokenClaims : RouteError := .httpException 401 "Invalid token claims."

/-- `create_admin`; `passwordHash` is the hash of the password of the body. -/
def createAdmin (db : UserDb) (body : UserCreate) (passwordHash : String) (claims : Claims) :
    Answer UserResponse :=
  if claims.subject = "" then (db, .error invalidTokenClaims)
  else
    match createUser db body.username body.email passwordHash "admin" body.tenantId with
    | .error _ => (db, .error (.httpException 409 "Username or email already registered."))
    | .ok (db, userId, user) => (db, .ok (effectiveResponse db userId user))

/-- `update_user_route`. -/
def updateUserRoute (db : UserDb) (userId : Nat) (body : UserUpdate) (claims : Claims) :
    Answer UserResponse :=
  if claims.subject = "" then (db, .error invalidTokenClaims)
  else
    match getUserById db userId with
    | none => (db, .error userNotFound)
    | some user =>
        if body.email.isNone ∧ body.isActive.isNone then (db, .ok (userResponse userId user "user"))
        else
          match updateUser db userId body.email.join body.isActive.join with
          | .error _ => (db, .error (.httpException 409 "Email already registered."))
          | .ok (db, none) => (db, .error userNotFound)
          | .ok (db, some user) => (db, .ok (effectiveResponse db userId user))

/-! ### The requests of one caller -/

inductive Request where
  | assignRole (username : String) (role : Role)
  | deleteUser (userId : Nat) (now : Int)
  | updateUser (userId : Nat) (body : UserUpdate)
  | createAdmin (body : UserCreate) (passwordHash : String)

/-- The state after a request that passed the guard. -/
def serve (db : UserDb) (claims : Claims) : Request → UserDb
  | .assignRole username role => (assignRole db username role).1
  | .deleteUser userId now => (deleteUserRoute db userId claims now).1
  | .updateUser userId body => (updateUserRoute db userId body claims).1
  | .createAdmin body passwordHash =>
      if body.valid then (createAdmin db body passwordHash claims).1 else db

/-- The state after a request: every route depends on `casbin_guard("admin")`. -/
def handle (superadminSubject : String) (claims : Claims) (db : UserDb) (request : Request) :
    UserDb :=
  match casbinGuard superadminSubject db.enforcer ["admin"] claims with
  | .error _ => db
  | .ok claims => serve db claims request

end ApiObservatory.Users
