import ApiObservatory.Foundation.Rows
import ApiObservatory.Models.Users
import ApiObservatory.Security.Casbin
import Mathlib.Algebra.GroupWithZero.Nat

/-
Users and their roles (`services/ingestor/repositories/users.py`, and the role
helpers of `services/ingestor/core/auth.py`).

The enforcer keeps the policy in memory; its adapter writes each rule it adds to
`casbin_rule` in a transaction of its own.
-/

namespace ApiObservatory

open Foundation Security

structure UserDb where
  users : Rows User
  tenants : Rows Tenant
  userTenants : Rows UserTenant
  casbinRules : List CasbinRule
  enforcer : Policy

/-! ### Roles -/

/-- `str(tenant_id) if tenant_id is not None else "*"`. -/
def roleDomain (tenantId : Option Nat) : String := (tenantId.map Nat.repr).getD "*"

/-- `add_role_for_user_in_domain` of the enforcer: a rule it has is not added again. -/
def addRoleForUserInDomain (db : UserDb) (user role domain : String) : UserDb :=
  if ({ user, role, domain } : GRule) ∈ db.enforcer.g then db
  else
    { db with
      enforcer := { db.enforcer with g := db.enforcer.g ++ [{ user, role, domain }] }
      casbinRules := db.casbinRules ++ [{ ptype := "g", v0 := user, v1 := role, v2 := domain }] }

section AddRole

variable {db : UserDb}

theorem mem_addRole {username role domain : String} {rule : GRule} :
    rule ∈ (addRoleForUserInDomain db username role domain).enforcer.g ↔
      rule = { user := username, role, domain } ∨ rule ∈ db.enforcer.g := by
  unfold addRoleForUserInDomain
  split
  · rename_i present
    constructor
    · exact Or.inr
    · rintro (rfl | mem)
      · exact present
      · exact mem
  · rw [List.mem_append, List.mem_singleton, or_comm]

@[simp] theorem addRole_users (username role domain : String) :
    (addRoleForUserInDomain db username role domain).users = db.users := by
  unfold addRoleForUserInDomain
  split <;> rfl

@[simp] theorem addRole_p (username role domain : String) :
    (addRoleForUserInDomain db username role domain).enforcer.p = db.enforcer.p := by
  unfold addRoleForUserInDomain
  split <;> rfl

end AddRole

/-- `assign_user_role`. The table has no unique index, so its own `INSERT` never conflicts. -/
def assignUserRole (db : UserDb) (username role : String) (tenantId : Option Nat := none) :
    UserDb :=
  let domain := roleDomain tenantId
  let db := addRoleForUserInDomain db username role domain
  { db with
    casbinRules := db.casbinRules ++ [{ ptype := "g", v0 := username, v1 := role, v2 := domain }] }

/-- `get_user_roles_in_domain`: the roles linked to the user directly. -/
def getUserRolesInDomain (db : UserDb) (username : String) (tenantId : Option Nat) :
    List String :=
  ((db.enforcer.links (roleDomain tenantId)).filter (·.1 == username)).map Prod.snd

/-- `has_role_in_domain`. -/
def hasRoleInDomain (db : UserDb) (username role : String) (tenantId : Option Nat) : Bool :=
  lower role ∈ getUserRolesInDomain db username tenantId

def defaultRole : String := "user"

/-- `_ROLE_PRIORITY`. -/
def rolePriority (role : String) : Nat :=
  if lower role = "admin" then 3 else if lower role = "manager" then 2
  else if lower role = "user" then 1 else 0

/-- `resolve_effective_role`. -/
def resolveEffectiveRole : List String → String
  | [] => defaultRole
  | role :: roles =>
      roles.foldl
        (fun best role => if rolePriority best < rolePriority role then role else best) role

/-! ### Users -/

/-- `get_user_by_username`. -/
def getUserByUsername (db : UserDb) (username : String) : Option (Nat × User) :=
  db.users.toList.find? fun (_, user) => user.username == username && user.isActive

/-- `get_user_by_id`. -/
def getUserById (db : UserDb) (userId : Nat) : Option User :=
  (db.users.get userId).filter (·.isActive)

def usernameTaken (db : UserDb) (username : String) : Bool :=
  db.users.toList.any (·.2.username == username)

section UsernameTaken

variable {db : UserDb}

theorem usernameTaken_iff {username : String} :
    usernameTaken db username = true ↔
      ∃ id user, db.users.get id = some user ∧ user.username = username := by
  simp [usernameTaken, Rows.mem_toList]

/-- A row more, under its own name. -/
theorem usernameTaken_insert {db' : UserDb} {user : User} (users : db'.users = db.users.insert user)
    (username : String) :
    usernameTaken db' username = true ↔
      user.username = username ∨ usernameTaken db username = true := by
  simp only [usernameTaken_iff, users]
  constructor
  · rintro ⟨id, row, stored, named⟩
    rcases Rows.get_insert_cases stored with ⟨-, rfl⟩ | ⟨-, before⟩
    · exact Or.inl named
    · exact Or.inr ⟨id, row, before, named⟩
  · rintro (named | ⟨id, row, stored, named⟩)
    · exact ⟨db.users.nextId, user, Rows.get_insert_self _ _, named⟩
    · exact ⟨id, row, Rows.get_insert_of_some stored, named⟩

end UsernameTaken

/-- Another user has the address. -/
def emailTaken (db : UserDb) (userId : Nat) (email : String) : Bool :=
  db.users.toList.any fun (id, user) => id != userId && user.email == email

/-- The name of the tenant a user without one gets. -/
def personalTenant (username : String) : Tenant := { name := username ++ "-personal" }

/-- The tenant of a new user cannot be used: a given one does not exist, or the
name of its personal one is taken. -/
def tenantRefused (db : UserDb) (username : String) : Option Nat → Bool
  | some tenantId => (db.tenants.get tenantId).isNone
  | none => db.tenants.toList.any (·.2 == personalTenant username)

/-- The tenant of a new user: the given one, or a new personal one. -/
def tenantOfNewUser (db : UserDb) (username : String) : Option Nat → UserDb × Nat
  | some tenantId => (db, tenantId)
  | none =>
      ({ db with tenants := db.tenants.insert (personalTenant username) }, db.tenants.nextId)

/-- `create_user`: the new state and the new user under its id. -/
def createUser (db : UserDb) (username email passwordHash role : String)
    (tenantId : Option Nat) : Except DbError (UserDb × Nat × User) :=
  if tenantRefused db username tenantId || usernameTaken db username ||
      emailTaken db db.users.nextId email then .error .integrityError
  else
    let (db, tenantId) := tenantOfNewUser db username tenantId
    let userId := db.users.nextId
    let user : User := { username, email, passwordHash, tenantId := some tenantId }
    let db :=
      { db with
        users := db.users.insert user
        userTenants := db.userTenants.insert { userId, tenantId } }
    .ok (addRoleForUserInDomain db username role (roleDomain (some tenantId)), userId, user)

/-- Why a user cannot be created. -/
def createRefused (db : UserDb) (username email : String) (tenantId : Option Nat) : Prop :=
  tenantRefused db username tenantId = true ∨ usernameTaken db username = true ∨
    emailTaken db db.users.nextId email = true

theorem createUser_refused {db : UserDb} {username email : String} {tenantId : Option Nat}
    (refused : createRefused db username email tenantId) (passwordHash role : String) :
    createUser db username email passwordHash role tenantId = .error .integrityError := by
  rw [createUser, if_pos (by simpa [createRefused, or_assoc] using refused)]

/-- A created user: its row, its tenant, and one rule. -/
theorem createUser_created {db : UserDb} {username email : String} {tenantId : Option Nat}
    (free : ¬ createRefused db username email tenantId) (passwordHash role : String) :
    ∃ (db' : UserDb) (user : User) (home : Nat),
      createUser db username email passwordHash role tenantId =
        .ok (addRoleForUserInDomain db' user.username role (roleDomain (some home)),
          db.users.nextId, user) ∧
      db'.users = db.users.insert user ∧ db'.enforcer = db.enforcer ∧
      (∀ id tenant, db.tenants.get id = some tenant → db'.tenants.get id = some tenant) ∧
      user = { username, email, passwordHash, tenantId := some home } ∧
      home = tenantId.getD db.tenants.nextId ∧ db'.casbinRules = db.casbinRules := by
  rw [createUser, if_neg (by simpa [createRefused, or_assoc] using free)]
  cases tenantId with
  | some tenantId =>
    let user : User := { username, email, passwordHash, tenantId := some tenantId }
    exact ⟨_, user, tenantId, rfl, rfl, rfl, fun _ _ known => known, rfl, rfl, rfl⟩
  | none =>
    let user : User := { username, email, passwordHash, tenantId := some db.tenants.nextId }
    exact ⟨_, user, _, rfl, rfl, rfl, fun _ _ known => Rows.get_insert_of_some known, rfl, rfl, rfl⟩

/-- `delete_user`. -/
def deleteUser (db : UserDb) (userId : Nat) (now : Int) : UserDb :=
  match getUserById db userId with
  | none => db
  | some user =>
      { db with
        users := db.users.modify userId fun _ =>
          { user with isActive := false, deletedAt := some now } }

/-- `update_user`. -/
def updateUser (db : UserDb) (userId : Nat) (email : Option String) (isActive : Option Bool) :
    Except DbError (UserDb × Option User) :=
  match getUserById db userId with
  | none => .ok (db, none)
  | some user =>
      let updated :=
        { user with email := email.getD user.email, isActive := isActive.getD user.isActive }
      if updated.email ≠ user.email ∧ emailTaken db userId updated.email then
        .error .integrityError
      else .ok ({ db with users := db.users.modify userId fun _ => updated }, some updated)

/-- `count_active_admins`: the rows of the join of the active users with their
admin rules. -/
def countActiveAdmins (db : UserDb) (excludeUsername : Option String := none) : Nat :=
  (db.users.toList.map fun (_, user) =>
    if user.isActive &&
        (excludeUsername.all fun username => username == "" || user.username != username) then
      db.casbinRules.countP fun rule =>
        rule.v0 == user.username && rule.ptype == "g" && rule.v1 == "admin"
    else 0).sum

end ApiObservatory
