import ApiObservatory.Users.Assignment

/-
What failed requests leave behind (`services/ingestor/api/routes/auth.py`).

The rows of a request are in one transaction, and a rule of the enforcer is committed on its own.
Four of the five routes check everything before they write. `assign_role` writes its rule before it
looks its user up.
-/

namespace ApiObservatory.Users

open Foundation Security

/-- The routes with their callers. `caller` is what the check of the token gives. -/
inductive UserRequest where
  | register (body : UserCreate) (passwordHash : String)
  | guarded (caller : Except RouteError Claims) (request : Request)

/-- The answer of a route behind the guard. -/
def answer (db : UserDb) (claims : Claims) : Request → Answer Unit
  | .assignRole username role =>
      let (db, answer) := assignRole db username role
      (db, answer.map fun _ => ())
  | .deleteUser userId now => deleteUserRoute db userId claims now
  | .updateUser userId body =>
      let (db, answer) := updateUserRoute db userId body claims
      (db, answer.map fun _ => ())
  | .createAdmin body passwordHash =>
      if body.valid then
        let (db, answer) := createAdmin db body passwordHash claims
        (db, answer.map fun _ => ())
      else (db, .error .requestValidation)

/-- The answer of a request. -/
def respond (superadminSubject : String) (db : UserDb) : UserRequest → Answer Unit
  | .register body passwordHash =>
      let (db, answer) := Auth.register db body passwordHash
      (db, answer.map fun _ => ())
  | .guarded (.error error) _ => (db, .error error)
  | .guarded (.ok claims) request =>
      match casbinGuard superadminSubject db.enforcer ["admin"] claims with
      | .error error => (db, .error error)
      | .ok claims => answer db claims request

/-- The same rows, and the same rules as sets. -/
structure Unchanged (db db' : UserDb) : Prop where
  users : ∀ id, db'.users.get id = db.users.get id
  tenants : ∀ id, db'.tenants.get id = db.tenants.get id
  userTenants : ∀ id, db'.userTenants.get id = db.userTenants.get id
  policies : db'.enforcer.p = db.enforcer.p
  rules : ∀ rule, rule ∈ db'.enforcer.g ↔ rule ∈ db.enforcer.g
  stored : ∀ rule, rule ∈ db'.casbinRules ↔ rule ∈ db.casbinRules

theorem Unchanged.rfl {db : UserDb} : Unchanged db db :=
  ⟨fun _ => .refl _, fun _ => .refl _, fun _ => .refl _, .refl _, fun _ => .rfl, fun _ => .rfl⟩

/-! ### The routes -/

section Routes

variable {db : UserDb} {claims : Claims}

/-- The answer goes with the state of `serve`. -/
theorem answer_fst (request : Request) : (answer db claims request).1 = serve db claims request := by
  cases request with
  | assignRole username role => rfl
  | deleteUser userId now => rfl
  | updateUser userId body => rfl
  | createAdmin body passwordHash =>
    rw [answer, serve]
    split <;> rfl

theorem deleteUserRoute_failed {userId : Nat} {now : Int} {error : RouteError}
    (failed : (deleteUserRoute db userId claims now).2 = .error error) :
    (deleteUserRoute db userId claims now).1 = db := by
  unfold deleteUserRoute at failed ⊢
  split
  · rfl
  · rename_i user found
    rw [found] at failed
    dsimp only at failed
    split_ifs at failed ⊢ <;> rfl

theorem createAdmin_failed {body : UserCreate} {passwordHash : String} {error : RouteError}
    (failed : (createAdmin db body passwordHash claims).2 = .error error) :
    (createAdmin db body passwordHash claims).1 = db := by
  unfold createAdmin at failed ⊢
  split at failed
  · rename_i missing
    rw [if_pos missing]
  · rename_i known
    rw [if_neg known]
    split at failed
    · rfl
    · cases failed

/-- The lookup in `update_user` finds the user that the route found. -/
theorem updateUser_found {userId : Nat} {user : User} (found : getUserById db userId = some user)
    {email : Option String} {isActive : Option Bool} {db' : UserDb} {updated : Option User}
    (done : updateUser db userId email isActive = .ok (db', updated)) : updated.isSome = true := by
  simp only [updateUser, found] at done
  split at done
  · cases done
  · cases done
    rfl

theorem updateUserRoute_failed {userId : Nat} {body : UserUpdate} {error : RouteError}
    (failed : (updateUserRoute db userId body claims).2 = .error error) :
    (updateUserRoute db userId body claims).1 = db := by
  unfold updateUserRoute at failed ⊢
  split at failed
  · rename_i missing
    rw [if_pos missing]
  rename_i known
  rw [if_neg known]
  split at failed
  · rfl
  rename_i user found
  split at failed
  · cases failed
  rename_i sent
  rw [if_neg sent]
  split at failed
  · rfl
  · rename_i done
    cases updateUser_found found done
  · cases failed

theorem register_failed {body : UserCreate} {passwordHash : String} {error : RouteError}
    (failed : (Auth.register db body passwordHash).2 = .error error) :
    (Auth.register db body passwordHash).1 = db := by
  unfold Auth.register at failed ⊢
  split at failed
  · rename_i valid
    rw [if_pos valid]
    split at failed
    · rfl
    · cases failed
  · rename_i invalid
    rw [if_neg invalid]

/-- The rule of an assignment, as the enforcer and as the table have it. -/
def assignmentRule (username : String) (role : Role) : GRule :=
  { user := username, role := role.text, domain := "*" }

def assignmentRow (username : String) (role : Role) : CasbinRule :=
  { ptype := "g", v0 := username, v1 := role.text, v2 := "*" }

theorem mem_assignRole_rules {username : String} {role : Role} {rule : GRule} :
    rule ∈ (assignRole db username role).1.enforcer.g ↔
      rule = assignmentRule username role ∨ rule ∈ db.enforcer.g := by
  rw [assignRole_state]
  exact mem_addRole

theorem mem_assignRole_stored {username : String} {role : Role} {row : CasbinRule} :
    row ∈ (assignRole db username role).1.casbinRules ↔
      row = assignmentRow username role ∨ row ∈ db.casbinRules := by
  rw [assignRole_state]
  simp only [assignUserRole, addRoleForUserInDomain, List.mem_append, List.mem_singleton]
  split
  · exact or_comm
  · rw [List.mem_append, List.mem_singleton]
    exact ⟨fun mem => mem.elim Or.symm Or.inl, fun mem => mem.elim Or.inr (Or.inl ∘ Or.inl)⟩

theorem assignUserRole_rows (db : UserDb) (username role : String) (tenantId : Option Nat) :
    (assignUserRole db username role tenantId).users = db.users ∧
      (assignUserRole db username role tenantId).tenants = db.tenants ∧
      (assignUserRole db username role tenantId).userTenants = db.userTenants := by
  unfold assignUserRole addRoleForUserInDomain
  dsimp only
  split <;> exact ⟨rfl, rfl, rfl⟩

/-- An assignment changes nothing exactly when its rule is there in both places. -/
theorem assignRole_unchanged_iff {username : String} {role : Role} :
    Unchanged db (assignRole db username role).1 ↔
      assignmentRule username role ∈ db.enforcer.g ∧ assignmentRow username role ∈ db.casbinRules := by
  constructor
  · intro unchanged
    exact ⟨(unchanged.rules _).mp (mem_assignRole_rules.mpr (.inl rfl)),
      (unchanged.stored _).mp (mem_assignRole_stored.mpr (.inl rfl))⟩
  · rintro ⟨rule, row⟩
    obtain ⟨users, tenants, userTenants⟩ := assignUserRole_rows db username role.text none
    refine ⟨?_, ?_, ?_, ?_, ?_, ?_⟩
    · intro id
      rw [assignRole_state, users]
    · intro id
      rw [assignRole_state, tenants]
    · intro id
      rw [assignRole_state, userTenants]
    · rw [assignRole_state]
      exact addRole_p _ _ _
    · intro other
      rw [mem_assignRole_rules]
      exact or_iff_right_of_imp fun same => same ▸ rule
    · intro other
      rw [mem_assignRole_stored]
      exact or_iff_right_of_imp fun same => same ▸ row

/-- A failed assignment changes nothing unless its user is unknown and its rule is new. -/
theorem assignRole_failed_iff {username : String} {role : Role} :
    (∀ error, (assignRole db username role).2 = .error error → error.IsClientError →
        Unchanged db (assignRole db username role).1) ↔
      ¬ (getUserByUsername db username = none ∧
        ¬ (assignmentRule username role ∈ db.enforcer.g ∧
          assignmentRow username role ∈ db.casbinRules)) := by
  rw [← assignRole_unchanged_iff]
  cases found : getUserByUsername db username with
  | none =>
    have failed : (assignRole db username role).2 = .error userNotFound := by
      simp only [assignRole, getUserByUsername_assignUserRole, found]
    rw [failed]
    constructor
    · exact fun unchanged fresh => fresh.2 (unchanged _ rfl ⟨by decide, by decide⟩)
    · intro old error _ _
      by_contra changed
      exact old ⟨rfl, changed⟩
  | some user =>
    refine iff_of_true (fun error failed => ?_) (fun fresh => absurd fresh.1 (Option.some_ne_none user))
    simp only [assignRole, getUserByUsername_assignUserRole, found] at failed
    cases failed

end Routes

/-! ### All requests -/

section Requests

variable {superadminSubject : String} {db : UserDb}

/-- An assignment that passes the guard, of a user there is not, of a rule that is new. -/
def AssignsToNobody (superadminSubject : String) (db : UserDb) (request : UserRequest) : Prop :=
  ∃ claims username role, request = .guarded (.ok claims) (.assignRole username role) ∧
    casbinGuard superadminSubject db.enforcer ["admin"] claims = .ok claims ∧
    getUserByUsername db username = none ∧
    ¬ (assignmentRule username role ∈ db.enforcer.g ∧ assignmentRow username role ∈ db.casbinRules)

theorem casbinGuard_ok {requiredRoles : List String} {claims claims' : Claims} {policy : Policy}
    (admitted : casbinGuard superadminSubject policy requiredRoles claims = .ok claims') :
    claims' = claims := by
  unfold casbinGuard at admitted
  dsimp only at admitted
  split_ifs at admitted
  · exact (Except.ok.inj admitted).symm
  · exact (Except.ok.inj admitted).symm

/-- A failed request behind the guard changes nothing, unless it is an assignment. -/
theorem answer_failed {claims : Claims} {request : Request} {error : RouteError}
    (failed : (answer db claims request).2 = .error error)
    (other : ∀ username role, request ≠ .assignRole username role) :
    (answer db claims request).1 = db := by
  cases request with
  | assignRole username role => exact absurd rfl (other username role)
  | deleteUser userId now => exact deleteUserRoute_failed failed
  | updateUser userId body => exact updateUserRoute_failed (error_of_map failed)
  | createAdmin body passwordHash =>
    rw [answer] at failed ⊢
    split
    · rename_i valid
      rw [if_pos valid] at failed
      exact createAdmin_failed (error_of_map failed)
    · rfl

/-- A request that leaves the state as it is, and is no assignment behind the guard, is no assignment
to nobody. -/
theorem unchanged_iff_of_kept {request : UserRequest}
    (other : ∀ claims username role, request = .guarded (.ok claims) (.assignRole username role) →
      casbinGuard superadminSubject db.enforcer ["admin"] claims ≠ .ok claims)
    (kept : ∀ error, (respond superadminSubject db request).2 = .error error →
      (respond superadminSubject db request).1 = db) :
    (∀ error, (respond superadminSubject db request).2 = .error error → error.IsClientError →
        Unchanged db (respond superadminSubject db request).1) ↔
      ¬ AssignsToNobody superadminSubject db request := by
  refine iff_of_true (fun error failed _ => ?_) ?_
  · rw [kept error failed]
    exact .rfl
  · rintro ⟨claims, username, role, is, admitted, -⟩
    exact other claims username role is admitted

/-- Behind the guard, an assignment fails as its route does. -/
theorem answer_assignRole_iff {claims : Claims} {username : String} {role : Role} :
    (∀ error, (answer db claims (.assignRole username role)).2 = .error error → error.IsClientError →
        Unchanged db (answer db claims (.assignRole username role)).1) ↔
      ∀ error, (assignRole db username role).2 = .error error → error.IsClientError →
        Unchanged db (assignRole db username role).1 :=
  ⟨fun kept error failed => kept error (congrArg (Except.map fun _ => ()) failed),
    fun kept error failed => kept error (error_of_map failed)⟩

/-- **Failed requests change nothing**, except exactly the assignments to nobody. -/
theorem failed_request_unchanged_iff (superadminSubject : String) (db : UserDb)
    (request : UserRequest) :
    (∀ error, (respond superadminSubject db request).2 = .error error → error.IsClientError →
        Unchanged db (respond superadminSubject db request).1) ↔
      ¬ AssignsToNobody superadminSubject db request := by
  cases request with
  | register body passwordHash =>
    exact unchanged_iff_of_kept nofun fun error failed => register_failed (error_of_map failed)
  | guarded caller request =>
    cases caller with
    | error error => exact unchanged_iff_of_kept nofun fun _ _ => rfl
    | ok claims =>
      cases guard : casbinGuard superadminSubject db.enforcer ["admin"] claims with
      | error error =>
        refine unchanged_iff_of_kept ?_ ?_
        · rintro _ username role ⟨⟩ admitted
          rw [guard] at admitted
          cases admitted
        · intro _ _
          rw [respond, guard]
      | ok claims' =>
        obtain rfl := casbinGuard_ok guard
        have response : respond superadminSubject db (.guarded (.ok claims') request) =
            answer db claims' request := by
          rw [respond, guard]
        cases request with
        | assignRole username role =>
          rw [response, answer_assignRole_iff, assignRole_failed_iff, not_iff_not]
          constructor
          · exact fun fresh => ⟨claims', username, role, rfl, guard, fresh⟩
          · rintro ⟨_, _, _, ⟨⟩, -, fresh⟩
            exact fresh
        | deleteUser userId now =>
          exact unchanged_iff_of_kept nofun fun error failed =>
            response ▸ answer_failed (response ▸ failed) nofun
        | updateUser userId body =>
          exact unchanged_iff_of_kept nofun fun error failed =>
            response ▸ answer_failed (response ▸ failed) nofun
        | createAdmin body passwordHash =>
          exact unchanged_iff_of_kept nofun fun error failed =>
            response ▸ answer_failed (response ▸ failed) nofun

end Requests

/-- An empty state with the policy of the file. -/
def noUsers : UserDb where
  users := .empty
  tenants := .empty
  userTenants := .empty
  casbinRules := []
  enforcer := casbinPolicy

/-- The administrator assigns a role to a name that nobody has: 404, and the rule stays. -/
theorem assignment_to_nobody :
    ¬ ∀ error, (respond "root" noUsers
        (.guarded (.ok { sub := some "root", tenantId := none }) (.assignRole "ghost" .admin))).2 = .error error →
      error.IsClientError → Unchanged noUsers (respond "root" noUsers
        (.guarded (.ok { sub := some "root", tenantId := none }) (.assignRole "ghost" .admin))).1 := by
  intro unchanged
  have kept := unchanged userNotFound (by decide) ⟨by decide, by decide⟩
  have rule := (kept.rules (assignmentRule "ghost" .admin)).mp (by decide)
  exact absurd rule (by decide)

end ApiObservatory.Users
