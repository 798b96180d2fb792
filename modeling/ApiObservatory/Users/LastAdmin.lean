import ApiObservatory.Users.Assignment

/-
The last active administrator.

`delete_user_route` counts the other active administrators before it deactivates
one; `update_user_route` deactivates without a count. Both read before they commit,
and what is read may be out of date when the transaction commits. The requests are
interleaved at these two points.
-/

namespace ApiObservatory.Users

open Foundation Security Auth

/-! ### The rules of the administrators -/

/-- An active user that holds `admin` in the domain of its tenant. -/
def ActiveAdmin (db : UserDb) (userId : Nat) : Prop :=
  ∃ user, getUserById db userId = some user ∧
    hasRoleInDomain db user.username "admin" user.tenantId = true

/-- The table of the rules agrees with the enforcer about the administrators: their
rules are in the enforcer, and in the domain of their tenant or in `*`. -/
structure RulesMatch (db : UserDb) : Prop where
  named : ∀ id user, db.users.get id = some user → user.username ≠ ""
  enforced : ∀ rule ∈ db.casbinRules, rule.ptype = "g" → rule.v1 = "admin" →
    { user := rule.v0, role := rule.v1, domain := rule.v2 } ∈ db.enforcer.g
  home : ∀ rule ∈ db.casbinRules, rule.ptype = "g" → rule.v1 = "admin" →
    ∀ id user, db.users.get id = some user → user.username = rule.v0 →
      keyMatch (roleDomain user.tenantId) rule.v2 = true
  owner : ∀ rule ∈ db.casbinRules, rule.ptype = "g" → rule.v1 = "admin" →
    rule.v2 = "*" ∨ usernameTaken db rule.v0 = true

section Admins

variable {db db' : UserDb} {superadminSubject : String}

theorem hasRoleInDomain_admin {username : String} {tenantId : Option Nat} :
    hasRoleInDomain db username "admin" tenantId = true ↔
      ∃ rule ∈ db.enforcer.g, keyMatch (roleDomain tenantId) rule.domain = true ∧
        rule.user = username ∧ rule.role = "admin" := by
  have same : lower "admin" = "admin" := by decide
  rw [hasRoleInDomain, decide_eq_true_eq, same, mem_getUserRolesInDomain]

/-- An administrator that is counted holds the role. -/
theorem activeAdmin_of_count (rulesMatch : RulesMatch db) {username : String}
    (named : username ≠ "") (counted : 0 < countActiveAdmins db (some username)) :
    ∃ id user, ActiveAdmin db id ∧ db.users.get id = some user ∧ user.username ≠ username := by
  rw [countActiveAdmins, List.sum_pos_iff_exists_pos_nat] at counted
  obtain ⟨count, mem, some_rule⟩ := counted
  obtain ⟨⟨id, user⟩, stored, rfl⟩ := List.mem_map.mp mem
  rw [Rows.mem_toList] at stored
  dsimp only at some_rule
  split at some_rule
  · rename_i other
    simp only [Option.all_some, Bool.and_eq_true, Bool.or_eq_true, beq_iff_eq, bne_iff_ne,
      ne_eq, named, false_or] at other
    obtain ⟨rule, inTable, row⟩ := List.countP_pos_iff.mp some_rule
    simp only [Bool.and_eq_true, beq_iff_eq] at row
    obtain ⟨⟨owner, ptype⟩, admin⟩ := row
    refine ⟨id, user, ⟨user, getUserById_eq_some.mpr ⟨stored, other.1⟩, ?_⟩, stored, other.2⟩
    exact hasRoleInDomain_admin.mpr ⟨_, rulesMatch.enforced rule inTable ptype admin,
      rulesMatch.home rule inTable ptype admin id user stored owner.symm, owner, admin⟩
  · exact absurd some_rule (lt_irrefl 0)

/-- Users and rules that stay keep an administrator. -/
theorem ActiveAdmin.mono {userId : Nat} (active : ActiveAdmin db userId)
    (users : ∀ id user, db.users.get id = some user → db'.users.get id = some user)
    (rules : ∀ rule ∈ db.enforcer.g, rule ∈ db'.enforcer.g) : ActiveAdmin db' userId := by
  obtain ⟨user, found, admin⟩ := active
  obtain ⟨stored, isActive⟩ := getUserById_eq_some.mp found
  obtain ⟨rule, mem, matched⟩ := hasRoleInDomain_admin.mp admin
  exact ⟨user, getUserById_eq_some.mpr ⟨users _ _ stored, isActive⟩,
    hasRoleInDomain_admin.mpr ⟨rule, rules rule mem, matched⟩⟩

end Admins

/-! ### Requests in two points -/

/-- A request of which the reads are done and the commit is not. -/
inductive Pending where
  | delete (userId : Nat) (now : Int)
  | update (userId : Nat) (body : UserUpdate)
deriving DecidableEq

/-- The database, and the requests between their reads and their commit, by call. -/
structure AdminState where
  db : UserDb
  pending : Nat → Option Pending

inductive AdminLabel where
  | assignRole (claims : Claims) (username : String) (role : Role)
  | createAdmin (claims : Claims) (body : UserCreate) (passwordHash : String)
  | check (call : Nat) (claims : Claims) (request : Pending)
  | commit (call : Nat)

/-- What the route reads lets the request go on to its update. -/
def checks (db : UserDb) (claims : Claims) : Pending → Bool
  | .delete userId now =>
      match (deleteUserRoute db userId claims now).2 with
      | .ok _ => true
      | .error _ => false
  | .update userId body =>
      claims.subject ≠ "" && (getUserById db userId).isSome &&
        !(body.email.isNone && body.isActive.isNone)

/-- The update itself, `delete_user` or `update_user`. -/
def commitPending (db : UserDb) : Pending → UserDb
  | .delete userId now => deleteUser db userId now
  | .update userId body =>
      match updateUser db userId body.email.join body.isActive.join with
      | .ok (db, _) => db
      | .error _ => db

section Requests

variable (superadminSubject : String)

/-- One step: a whole request, or one point of a request that deactivates. -/
def nextAdmin (state : AdminState) : AdminLabel → Option AdminState
  | .assignRole claims username role =>
      some { state with
        db := handle superadminSubject claims state.db (.assignRole username role) }
  | .createAdmin claims body passwordHash =>
      some { state with
        db := handle superadminSubject claims state.db (.createAdmin body passwordHash) }
  | .check call claims request =>
      match state.pending call with
      | some _ => none
      | none =>
          match casbinGuard superadminSubject state.db.enforcer ["admin"] claims with
          | .error _ => some state
          | .ok claims =>
              some
                (if checks state.db claims request then
                  { state with pending := Function.update state.pending call (some request) }
                else state)
  | .commit call =>
      match state.pending call with
      | none => none
      | some request =>
          some
            { db := commitPending state.db request
              pending := Function.update state.pending call none }

/-- What a step does. -/
inductive AdminStep (state : AdminState) : AdminLabel → AdminState → Prop where
  | assignRole (claims : Claims) (username : String) (role : Role) :
      AdminStep state (.assignRole claims username role)
        { state with db := handle superadminSubject claims state.db (.assignRole username role) }
  | createAdmin (claims : Claims) (body : UserCreate) (passwordHash : String) :
      AdminStep state (.createAdmin claims body passwordHash)
        { state with
          db := handle superadminSubject claims state.db (.createAdmin body passwordHash) }
  | refused {call : Nat} (claims : Claims) (request : Pending)
      (free : state.pending call = none) : AdminStep state (.check call claims request) state
  | checked {call : Nat} (claims : Claims) {admitted : Claims} {request : Pending}
      (free : state.pending call = none) (checked : checks state.db admitted request = true) :
      AdminStep state (.check call claims request)
        { state with pending := Function.update state.pending call (some request) }
  | commit {call : Nat} {request : Pending} (found : state.pending call = some request) :
      AdminStep state (.commit call)
        { db := commitPending state.db request
          pending := Function.update state.pending call none }

theorem nextAdmin_step {superadminSubject : String} {state state' : AdminState}
    {label : AdminLabel} (step : nextAdmin superadminSubject state label = some state') :
    AdminStep superadminSubject state label state' := by
  cases label with
  | assignRole claims username role =>
    obtain rfl := Option.some.inj step
    exact .assignRole claims username role
  | createAdmin claims body passwordHash =>
    obtain rfl := Option.some.inj step
    exact .createAdmin claims body passwordHash
  | check call claims request =>
    simp only [nextAdmin] at step
    split at step
    · cases step
    · rename_i free
      split at step
      · obtain rfl := Option.some.inj step
        exact .refused claims request free
      · obtain rfl := Option.some.inj step
        split_ifs with passed
        · exact .checked claims free passed
        · exact .refused claims request free
  | commit call =>
    simp only [nextAdmin] at step
    split at step
    · cases step
    · rename_i request found
      obtain rfl := Option.some.inj step
      exact .commit found

end Requests

/-- The request of the routes. -/
def Pending.request : Pending → Request
  | .delete userId now => .deleteUser userId now
  | .update userId body => .updateUser userId body

section Routes

variable {db : UserDb}

/-- What lets a deletion go on: the target is active and not the caller, and when
it is an administrator another one is counted. -/
theorem checks_delete_iff {claims : Claims} {userId : Nat} {now : Int} :
    checks db claims (.delete userId now) = true ↔
      ∃ user, getUserById db userId = some user ∧ user.username ≠ claims.subject ∧
        ¬ (hasRoleInDomain db user.username "admin" user.tenantId = true ∧
          countActiveAdmins db (some user.username) = 0) := by
  unfold checks deleteUserRoute
  dsimp only
  rcases Option.eq_none_or_eq_some (getUserById db userId) with absent | ⟨user, found⟩
  · simp [absent]
  · rw [found]
    by_cases self : user.username = claims.subject
    · simp [self]
    · by_cases last : hasRoleInDomain db user.username "admin" user.tenantId = true ∧
          countActiveAdmins db (some user.username) = 0
      · simp [self, last]
      · simp only [self, last, if_false, Option.some.injEq, exists_eq_left', ne_eq,
          not_false_eq_true, and_self]

/-- A request that commits what it has just read is the request of the route. -/
theorem serve_eq_commitPending (claims : Claims) (request : Pending) :
    serve db claims request.request =
      if checks db claims request then commitPending db request else db := by
  cases request with
  | delete userId now =>
    split
    · rename_i checked
      obtain ⟨user, found, other, notLast⟩ := checks_delete_iff.mp checked
      simp only [Pending.request, serve, deleteUserRoute, found, if_neg other, if_neg notLast,
        commitPending]
    · rename_i refused
      rw [Bool.not_eq_true] at refused
      simp only [Pending.request, serve, deleteUserRoute]
      split
      · rfl
      · rename_i user found
        split
        · rfl
        · rename_i other
          split
          · rfl
          · rename_i notLast
            rw [checks_delete_iff.mpr ⟨user, found, other, notLast⟩] at refused
            cases refused
  | update userId body =>
    simp only [Pending.request, serve, checks, commitPending, updateUserRoute]
    by_cases anonymous : claims.subject = ""
    · simp [anonymous]
    · rw [if_neg anonymous]
      rcases Option.eq_none_or_eq_some (getUserById db userId) with absent | ⟨user, found⟩
      · simp [absent]
      · by_cases unset : body.email.isNone = true ∧ body.isActive.isNone = true
        · simp [found, unset]
        · have changes : (!(body.email.isNone && body.isActive.isNone)) = true := by
            rw [Bool.not_eq_true', ← Bool.not_eq_true, Bool.and_eq_true]
            exact unset
          simp only [found, if_neg unset, changes, ne_eq, anonymous, not_false_eq_true,
            decide_true, Option.isSome_some, Bool.and_self, if_true]
          split
          · rename_i failed
            rw [failed]
          · rename_i updated
            rw [updated]
          · rename_i updated
            rw [updated]

end Routes

/-! ### What a commit takes away -/

/-- The commit of the request deactivates the user. -/
def Deactivates (db : UserDb) (request : Pending) (userId : Nat) : Prop :=
  match request with
  | .delete target _ => userId = target
  | .update target body =>
      userId = target ∧ body.isActive.join = some false ∧
        (updateUser db target body.email.join body.isActive.join).toOption.isSome = true

section Commit

variable {db : UserDb} {request : Pending} {userId : Nat}

theorem Deactivates.unique {other : Nat} (here : Deactivates db request userId)
    (there : Deactivates db request other) : other = userId := by
  cases request with
  | delete target now => exact there.trans here.symm
  | update target body => exact there.1.trans here.1.symm

@[simp] theorem commitPending_enforcer : (commitPending db request).enforcer = db.enforcer := by
  cases request with
  | delete target now =>
    simp only [commitPending, deleteUser]
    split <;> rfl
  | update target body =>
    simp only [commitPending]
    split
    · rename_i updated
      exact (updateUser_ok updated).1
    · rfl

/-- The row `after` of a user is `user`, active unless `off`. -/
structure Kept (user after : User) (off : Prop) : Prop where
  username : after.username = user.username
  tenantId : after.tenantId = user.tenantId
  isActive : after.isActive = true ↔ user.isActive = true ∧ ¬ off

theorem Kept.refl {user : User} {off : Prop} (on : user.isActive = true → ¬ off) :
    Kept user user off :=
  ⟨rfl, rfl, fun active => ⟨active, on active⟩, fun kept => kept.1⟩

theorem row_modify {target id : Nat} {user stored updated : User} {off : Prop}
    (active : getUserById db target = some stored) (row : db.users.get id = some user)
    (here : id = target → Kept stored updated off) (there : id ≠ target → ¬ off) :
    ∃ after, (db.users.modify target fun _ => updated).get id = some after ∧
      Kept user after off := by
  by_cases same : id = target
  · subst same
    obtain rfl := Option.some.inj (row.symm.trans (getUserById_eq_some.mp active).1)
    exact ⟨updated, by rw [Rows.get_modify_self, row, Option.map_some], here rfl⟩
  · exact ⟨user, by rw [Rows.get_modify_of_ne _ same, row], Kept.refl fun _ => there same⟩

/-- A commit keeps the name and the tenant of every row, and the activity of those it
does not deactivate. -/
theorem commitPending_row (request : Pending) {id : Nat} {user : User} (row : db.users.get id = some user) :
    ∃ after, (commitPending db request).users.get id = some after ∧
      Kept user after (Deactivates db request id) := by
  cases request with
  | delete target now =>
    simp only [commitPending, deleteUser]
    split
    · rename_i absent
      refine ⟨user, row, Kept.refl fun active same => ?_⟩
      rw [← show id = target from same, getUserById_eq_some.mpr ⟨row, active⟩] at absent
      cases absent
    · rename_i stored found
      refine row_modify found row (fun same => ⟨rfl, rfl, ?_⟩) fun other same => other same
      exact iff_of_false Bool.false_ne_true fun kept => kept.2 same
  | update target body =>
    simp only [commitPending]
    cases result : updateUser db target body.email.join body.isActive.join with
    | error failure =>
      refine ⟨user, row, Kept.refl fun _ off => ?_⟩
      have failed := off.2.2
      rw [result] at failed
      cases failed
    | ok result' =>
      unfold updateUser at result
      split at result
      · rename_i absent
        cases result
        refine ⟨user, row, Kept.refl fun active off => ?_⟩
        rw [← off.1, getUserById_eq_some.mpr ⟨row, active⟩] at absent
        cases absent
      · rename_i stored found
        dsimp only at result
        split at result
        · cases result
        · rename_i free
          cases result
          have succeeds : (updateUser db target body.email.join
              body.isActive.join).toOption.isSome = true := by
            simp only [updateUser, found, if_neg free]
            rfl
          refine row_modify found row (fun same => ⟨rfl, rfl, ?_⟩) fun other off => other off.1
          have active : stored.isActive = true := (getUserById_eq_some.mp found).2
          simp only [Deactivates, same, succeeds, active]
          cases body.isActive.join with
          | none => simp
          | some value => cases value <;> simp

theorem modify_none {target id : Nat} {updated : User} (absent : db.users.get id = none) :
    (db.users.modify target fun _ => updated).get id = none := by
  by_cases same : id = target
  · rw [same, Rows.get_modify_self, ← same, absent, Option.map_none]
  · rw [Rows.get_modify_of_ne _ same, absent]

/-- A commit makes no row. -/
theorem commitPending_none (request : Pending) {id : Nat} (absent : db.users.get id = none) :
    (commitPending db request).users.get id = none := by
  cases request with
  | delete target now =>
    simp only [commitPending, deleteUser]
    split
    · exact absent
    · exact modify_none absent
  | update target body =>
    simp only [commitPending, updateUser]
    split
    · rename_i result
      split at result
      · cases result
        exact absent
      · split at result
        · cases result
        · cases result
          exact modify_none absent
    · exact absent

theorem getUserById_of_kept {id : Nat} {user after : User} {off : Prop} {db' : UserDb}
    (row : db'.users.get id = some after) (kept : Kept user after off)
    (active : user.isActive = true) (on : ¬ off) : getUserById db' id = some after :=
  getUserById_eq_some.mpr ⟨row, kept.isActive.mpr ⟨active, on⟩⟩

/-- **The administrators after a commit** are those before it, without the one it
deactivates. -/
theorem activeAdmin_commit :
    ActiveAdmin (commitPending db request) userId ↔
      ActiveAdmin db userId ∧ ¬ Deactivates db request userId := by
  have rules : ∀ {user after : User} {off : Prop}, Kept user after off →
      (hasRoleInDomain (commitPending db request) after.username "admin" after.tenantId = true ↔
        hasRoleInDomain db user.username "admin" user.tenantId = true) := by
    intro user after off kept
    rw [hasRoleInDomain_admin, hasRoleInDomain_admin, commitPending_enforcer, kept.username,
      kept.tenantId]
  constructor
  · rintro ⟨after, found, admin⟩
    obtain ⟨stored, active⟩ := getUserById_eq_some.mp found
    cases before : db.users.get userId with
    | none =>
      rw [commitPending_none request before] at stored
      cases stored
    | some user =>
      obtain ⟨row, stored', kept⟩ := commitPending_row request before
      obtain rfl := Option.some.inj (stored'.symm.trans stored)
      obtain ⟨active', on⟩ := kept.isActive.mp active
      exact ⟨⟨user, getUserById_eq_some.mpr ⟨before, active'⟩, (rules kept).mp admin⟩, on⟩
  · rintro ⟨⟨user, found, admin⟩, on⟩
    obtain ⟨stored, active⟩ := getUserById_eq_some.mp found
    obtain ⟨after, row, kept⟩ := commitPending_row request stored
    exact ⟨after, getUserById_of_kept row kept active on, (rules kept).mpr admin⟩

end Commit

/-! ### What the other requests add -/

section Grow

variable {db : UserDb} {superadminSubject : String} {claims : Claims}

/-- A request that adds a rule, or a user with a rule. -/
theorem handle_grows {request : Request}
    (adds : (∃ username role, request = .assignRole username role) ∨
      ∃ body passwordHash, request = .createAdmin body passwordHash)
    {id : Nat} {user : User} (stored : db.users.get id = some user) :
    (handle superadminSubject claims db request).users.get id = some user := by
  unfold handle
  split
  · exact stored
  · rcases adds with ⟨username, role, rfl⟩ | ⟨body, passwordHash, rfl⟩
    · rw [serve, assignRole_state]
      exact (congrArg (fun users => users.get id) (addRole_users _ _ _)).trans stored
    · simp only [serve, createAdmin]
      split
      · split
        · exact stored
        · by_cases refused : createRefused db body.username body.email body.tenantId
          · rw [createUser_refused refused]
            exact stored
          · obtain ⟨db', new, home, created, users, -⟩ :=
              createUser_created refused passwordHash "admin"
            rw [created]
            simp only [addRole_users, users]
            exact Rows.get_insert_of_some stored
      · exact stored

/-- They keep every administrator. -/
theorem ActiveAdmin.handle {request : Request}
    (adds : (∃ username role, request = .assignRole username role) ∨
      ∃ body passwordHash, request = .createAdmin body passwordHash)
    {userId : Nat} (active : ActiveAdmin db userId) :
    ActiveAdmin (handle superadminSubject claims db request) userId :=
  active.mono (fun _ _ => handle_grows adds)
    fun _ => (assignsRole_handle claims request).mem

/-- What a change of the database may do to users and rules. -/
theorem RulesMatch.grow {db' : UserDb} (rulesMatch : RulesMatch db)
    (named : ∀ id user, db'.users.get id = some user → user.username ≠ "")
    (rules : ∀ rule ∈ db.enforcer.g, rule ∈ db'.enforcer.g)
    (taken : ∀ name, usernameTaken db name = true → usernameTaken db' name = true)
    (old : ∀ id user, db'.users.get id = some user → usernameTaken db user.username = true →
      ∃ id' before, db.users.get id' = some before ∧ before.username = user.username ∧
        before.tenantId = user.tenantId)
    (new : ∀ rule ∈ db'.casbinRules, rule ∈ db.casbinRules ∨
      ({ user := rule.v0, role := rule.v1, domain := rule.v2 } ∈ db'.enforcer.g ∧
        (∀ id user, db'.users.get id = some user → user.username = rule.v0 →
          keyMatch (roleDomain user.tenantId) rule.v2 = true) ∧
        (rule.v2 = "*" ∨ usernameTaken db' rule.v0 = true))) : RulesMatch db' where
  named := named
  enforced rule mem ptype admin := by
    rcases new rule mem with before | here
    · exact rules _ (rulesMatch.enforced rule before ptype admin)
    · exact here.1
  home rule mem ptype admin id user stored owner := by
    rcases new rule mem with before | here
    · rcases rulesMatch.owner rule before ptype admin with everywhere | known
      · rw [everywhere, keyMatch_star]
      · obtain ⟨id', row, stored', sameName, sameTenant⟩ := old id user stored (owner ▸ known)
        exact sameTenant ▸ rulesMatch.home rule before ptype admin id' row stored'
          (sameName.trans owner)
    · exact here.2.1 id user stored owner
  owner rule mem ptype admin := by
    rcases new rule mem with before | here
    · exact (rulesMatch.owner rule before ptype admin).imp id (taken _)
    · exact here.2.2

theorem RulesMatch.commit (rulesMatch : RulesMatch db) (request : Pending) :
    RulesMatch (commitPending db request) := by
  have row : ∀ id after, (commitPending db request).users.get id = some after →
      ∃ user, db.users.get id = some user ∧ Kept user after (Deactivates db request id) := by
    intro id after stored
    cases before : db.users.get id with
    | none =>
      rw [commitPending_none request before] at stored
      cases stored
    | some user =>
      obtain ⟨after', stored', kept⟩ := commitPending_row request before
      obtain rfl := Option.some.inj (stored'.symm.trans stored)
      exact ⟨user, rfl, kept⟩
  have rules : (commitPending db request).casbinRules = db.casbinRules := by
    cases request with
    | delete target now =>
      simp only [commitPending, deleteUser]
      split <;> rfl
    | update target body =>
      simp only [commitPending, updateUser]
      split
      · rename_i result
        split at result
        · cases result
          rfl
        · split at result
          · cases result
          · cases result
            rfl
      · rfl
  refine rulesMatch.grow ?_ ?_ ?_ ?_ ?_
  · intro id after stored
    obtain ⟨user, before, kept⟩ := row id after stored
    exact kept.username ▸ rulesMatch.named id user before
  · intro rule mem
    rwa [commitPending_enforcer]
  · intro name taken
    obtain ⟨id, user, stored, same⟩ := usernameTaken_iff.mp taken
    obtain ⟨after, stored', kept⟩ := commitPending_row request stored
    exact usernameTaken_iff.mpr ⟨id, after, stored', kept.username.trans same⟩
  · intro id after stored _
    obtain ⟨user, before, kept⟩ := row id after stored
    exact ⟨id, user, before, kept.username.symm, kept.tenantId.symm⟩
  · intro rule mem
    exact Or.inl (rules ▸ mem)

theorem mem_casbinRules_addRole {username role domain : String} {rule : CasbinRule}
    (mem : rule ∈ (addRoleForUserInDomain db username role domain).casbinRules) :
    rule ∈ db.casbinRules ∨ rule = { ptype := "g", v0 := username, v1 := role, v2 := domain } := by
  unfold addRoleForUserInDomain at mem
  split at mem
  · exact Or.inl mem
  · rcases List.mem_append.mp mem with before | here
    · exact Or.inl before
    · exact Or.inr (List.mem_singleton.mp here)

theorem RulesMatch.assignUserRole (rulesMatch : RulesMatch db) (username role : String) :
    RulesMatch (assignUserRole db username role) := by
  have users : (ApiObservatory.assignUserRole db username role).users = db.users :=
    addRole_users _ _ _
  refine rulesMatch.grow ?_ ?_ ?_ ?_ ?_
  · rw [users]
    exact rulesMatch.named
  · exact fun rule mem => mem_addRole.mpr (Or.inr mem)
  · intro name taken
    simpa only [usernameTaken, users] using taken
  · intro id user stored _
    rw [users] at stored
    exact ⟨id, user, stored, rfl, rfl⟩
  · intro rule mem
    have new : rule ∈ db.casbinRules ∨
        rule = { ptype := "g", v0 := username, v1 := role, v2 := "*" } := by
      rcases List.mem_append.mp mem with before | here
      · exact mem_casbinRules_addRole before
      · exact Or.inr (List.mem_singleton.mp here)
    refine new.imp id ?_
    rintro rfl
    exact ⟨mem_addRole.mpr (Or.inl rfl), fun _ _ _ _ => keyMatch_star _, Or.inl rfl⟩

theorem RulesMatch.createUser (rulesMatch : RulesMatch db)
    {username email passwordHash role : String} {tenantId : Option Nat}
    {result : UserDb × Nat × User} (named : username ≠ "")
    (created : createUser db username email passwordHash role tenantId = .ok result) :
    RulesMatch result.1 := by
  by_cases refused : createRefused db username email tenantId
  · rw [createUser_refused refused] at created
    cases created
  obtain ⟨db', user, home, created', users, enforcer, -, rfl, -, sameRules⟩ :=
    createUser_created refused passwordHash role
  obtain rfl := Except.ok.inj (created'.symm.trans created)
  dsimp only
  have fresh : usernameTaken db username = false := by
    rw [← Bool.not_eq_true]
    exact fun taken => refused (Or.inr (Or.inl taken))
  have after : (addRoleForUserInDomain db' username role (roleDomain (some home))).users =
      db.users.insert _ := (addRole_users _ _ _).trans users
  refine rulesMatch.grow ?_ ?_ ?_ ?_ ?_
  · intro id row stored
    rw [after] at stored
    rcases Rows.get_insert_cases stored with ⟨-, rfl⟩ | ⟨-, before⟩
    · exact named
    · exact rulesMatch.named id row before
  · exact fun rule mem => mem_addRole.mpr (Or.inr (enforcer ▸ mem))
  · exact fun name taken => (usernameTaken_insert after name).mpr (Or.inr taken)
  · intro id row stored taken
    rw [after] at stored
    rcases Rows.get_insert_cases stored with ⟨-, rfl⟩ | ⟨-, before⟩
    · rw [fresh] at taken
      cases taken
    · exact ⟨id, row, before, rfl, rfl⟩
  · intro rule mem
    refine (mem_casbinRules_addRole mem).imp (fun before => sameRules ▸ before) ?_
    rintro rfl
    refine ⟨mem_addRole.mpr (Or.inl rfl), fun id row stored owner => ?_, Or.inr ?_⟩
    · rw [after] at stored
      rcases Rows.get_insert_cases stored with ⟨-, rfl⟩ | ⟨-, before⟩
      · exact (keyMatch_domainOf _ _).trans (beq_self_eq_true (domainOf home))
      · have taken := usernameTaken_iff.mpr ⟨id, row, before, owner⟩
        rw [fresh] at taken
        cases taken
    · exact (usernameTaken_insert after _).mpr (Or.inl rfl)

theorem RulesMatch.handle (rulesMatch : RulesMatch db) {request : Request}
    (adds : (∃ username role, request = .assignRole username role) ∨
      ∃ body passwordHash, request = .createAdmin body passwordHash) :
    RulesMatch (handle superadminSubject claims db request) := by
  unfold Users.handle
  split
  · exact rulesMatch
  · rcases adds with ⟨username, role, rfl⟩ | ⟨body, passwordHash, rfl⟩
    · rw [serve, assignRole_state]
      exact rulesMatch.assignUserRole username role.text
    · simp only [serve, createAdmin]
      split
      · rename_i valid
        split
        · exact rulesMatch
        · cases created : ApiObservatory.createUser db body.username body.email passwordHash
            "admin" body.tenantId with
          | error => exact rulesMatch
          | ok result =>
            refine rulesMatch.createUser (fun empty => ?_) created
            simp [UserCreate.valid, empty] at valid
      · exact rulesMatch

/-- The rows the migration inserts name no administrator. -/
theorem RulesMatch.seeded (empty : ∀ id, db.users.get id = none)
    (seeded : db.casbinRules = seededRules) : RulesMatch db := by
  have none_admin : ∀ rule ∈ seededRules, rule.ptype = "g" → rule.v1 ≠ "admin" := by decide
  refine ⟨fun id user stored => ?_, fun rule mem ptype admin => ?_,
    fun rule mem ptype admin => ?_, fun rule mem ptype admin => ?_⟩
  · rw [empty] at stored
    cases stored
  all_goals exact absurd admin (none_admin rule (seeded ▸ mem) ptype)

theorem RulesMatch.register (rulesMatch : RulesMatch db) (body : UserCreate)
    (passwordHash : String) : RulesMatch (register db body passwordHash).1 := by
  unfold Auth.register
  split
  · rename_i valid
    cases created : ApiObservatory.createUser db body.username body.email passwordHash "user"
      none with
    | error => exact rulesMatch
    | ok result =>
      refine rulesMatch.createUser (fun empty => ?_) created
      simp [UserCreate.valid, empty] at valid
  · exact rulesMatch

end Grow

/-! ### Runs -/

section Runs

variable {superadminSubject : String} {start state state' : AdminState} {label : AdminLabel}
  {history : List (AdminState × AdminLabel)}

/-- The step commits a request that deactivates an administrator. -/
def RemovesAdmin (state : AdminState) (label : AdminLabel) : Prop :=
  ∃ call request userId, label = .commit call ∧ state.pending call = some request ∧
    Deactivates state.db request userId ∧ ActiveAdmin state.db userId

/-- Since the reads of the call no administrator was deactivated. -/
def Undisturbed (call : Nat) : List (AdminState × AdminLabel) → Prop
  | [] => True
  | (state, label) :: earlier =>
      (∃ claims request, label = .check call claims request) ∨
        (¬ RemovesAdmin state label ∧ Undisturbed call earlier)

/-- A step that deactivates an administrator is the commit of an undisturbed
deletion, or leaves another administrator. -/
def KeepsAdmin (earlier : List (AdminState × AdminLabel)) (state : AdminState)
    (label : AdminLabel) : Prop :=
  ∀ call request userId, label = .commit call → state.pending call = some request →
    Deactivates state.db request userId → ActiveAdmin state.db userId →
      ((∃ now, request = .delete userId now) ∧ Undisturbed call earlier) ∨
        ∃ other, other ≠ userId ∧ ActiveAdmin state.db other

theorem rulesMatch_step (rulesMatch : RulesMatch state.db)
    (step : nextAdmin superadminSubject state label = some state') : RulesMatch state'.db := by
  cases nextAdmin_step step with
  | assignRole => exact rulesMatch.handle (Or.inl ⟨_, _, rfl⟩)
  | createAdmin => exact rulesMatch.handle (Or.inr ⟨_, _, rfl⟩)
  | refused => exact rulesMatch
  | checked => exact rulesMatch
  | commit => exact rulesMatch.commit _

theorem rulesMatch_of_run (rulesMatch : RulesMatch start.db)
    (run : Run (nextAdmin superadminSubject) start history state) : RulesMatch state.db :=
  Run.stateInvariant (I := fun state => RulesMatch state.db) rulesMatch rulesMatch_step run

/-- Some active user holds the role. -/
def AdminRemains (state : AdminState) : Prop := ∃ userId, ActiveAdmin state.db userId

/-- A deletion that passes its checks leaves another administrator. -/
theorem other_of_checked (rulesMatch : RulesMatch state.db) (remains : AdminRemains state)
    {claims : Claims} {userId : Nat} {now : Int}
    (checked : checks state.db claims (.delete userId now) = true) :
    ∃ other, other ≠ userId ∧ ActiveAdmin state.db other := by
  obtain ⟨user, found, -, notLast⟩ := checks_delete_iff.mp checked
  have stored := (getUserById_eq_some.mp found).1
  by_cases admin : hasRoleInDomain state.db user.username "admin" user.tenantId = true
  · have counted : 0 < countActiveAdmins state.db (some user.username) :=
      Nat.pos_of_ne_zero fun zero => notLast ⟨admin, zero⟩
    obtain ⟨other, row, active, stored', differs⟩ :=
      activeAdmin_of_count rulesMatch (rulesMatch.named _ _ stored) counted
    refine ⟨other, ?_, active⟩
    rintro rfl
    obtain rfl := Option.some.inj (stored.symm.trans stored')
    exact differs rfl
  · obtain ⟨other, active⟩ := remains
    refine ⟨other, ?_, active⟩
    rintro rfl
    obtain ⟨row, found', admin'⟩ := active
    obtain rfl := Option.some.inj (found.symm.trans found')
    exact admin admin'

/-- An administrator whom the step does not deactivate stays one. -/
theorem ActiveAdmin.step {userId : Nat} (active : ActiveAdmin state.db userId)
    (keeps : ¬ RemovesAdmin state label)
    (step : nextAdmin superadminSubject state label = some state') :
    ActiveAdmin state'.db userId := by
  cases nextAdmin_step step with
  | assignRole => exact active.handle (Or.inl ⟨_, _, rfl⟩)
  | createAdmin => exact active.handle (Or.inr ⟨_, _, rfl⟩)
  | refused => exact active
  | checked => exact active
  | @commit call request found =>
    exact activeAdmin_commit.mpr
      ⟨active, fun off => keeps ⟨call, request, userId, rfl, found, off, active⟩⟩

/-- A request between its two points was there before the step, or has just passed its checks. -/
theorem pending_step {call : Nat} {request : Pending}
    (step : nextAdmin superadminSubject state label = some state')
    (pending : state'.pending call = some request) :
    (state.pending call = some request ∧ ∀ claims other, label ≠ .check call claims other) ∨
      state'.db = state.db ∧ ∃ claims, checks state.db claims request = true := by
  cases nextAdmin_step step with
  | assignRole => exact Or.inl ⟨pending, nofun⟩
  | createAdmin => exact Or.inl ⟨pending, nofun⟩
  | refused claims other free =>
    refine Or.inl ⟨pending, fun claims other same => ?_⟩
    cases same
    cases free.symm.trans pending
  | @checked call' claims admitted other free passed =>
    by_cases here : call = call'
    · subst here
      simp only [Function.update_self] at pending
      obtain rfl := Option.some.inj pending
      exact Or.inr ⟨rfl, admitted, passed⟩
    · simp only [Function.update_of_ne here] at pending
      exact Or.inl ⟨pending, fun claims other same => here (by cases same; rfl)⟩
  | @commit call' other found =>
    by_cases here : call = call'
    · subst here
      simp only [Function.update_self] at pending
      cases pending
    · simp only [Function.update_of_ne here] at pending
      exact Or.inl ⟨pending, nofun⟩

/-- While no administrator is deactivated, a deletion that passed its checks leaves
another one. -/
theorem other_of_undisturbed (rulesMatch : RulesMatch start.db)
    (idle : ∀ call, start.pending call = none)
    (run : Run (nextAdmin superadminSubject) start history state)
    (remains : Throughout (fun _ state => AdminRemains state) history state)
    {call userId : Nat} {now : Int} (pending : state.pending call = some (.delete userId now))
    (undisturbed : Undisturbed call history) :
    ∃ other, other ≠ userId ∧ ActiveAdmin state.db other := by
  induction run with
  | init =>
    rw [idle] at pending
    cases pending
  | snoc run step ih =>
    obtain ⟨-, remainsBefore⟩ := remains
    rcases pending_step step pending with ⟨waiting, notCheck⟩ | ⟨same, claims, checked⟩
    · obtain ⟨keeps, undisturbed⟩ := undisturbed.resolve_left fun ⟨_, _, is⟩ => notCheck _ _ is
      obtain ⟨other, differs, active⟩ := ih remainsBefore waiting undisturbed
      exact ⟨other, differs, active.step keeps step⟩
    · rw [same]
      exact other_of_checked (rulesMatch_of_run rulesMatch run) remainsBefore.here checked

/-- **The last administrator** survives a run exactly when every step that deactivates
an administrator is an undisturbed deletion or leaves another one. -/
theorem last_admin_survives_iff (rulesMatch : RulesMatch start.db)
    (idle : ∀ call, start.pending call = none) (remains : AdminRemains start)
    (run : Run (nextAdmin superadminSubject) start history state) :
    Throughout (fun _ state => AdminRemains state) history state ↔ Meets KeepsAdmin history := by
  refine Run.throughout_iff_meets_of_throughout remains ?_ run
  intro earlier before label after run all step
  by_cases removes : RemovesAdmin before label
  · obtain ⟨call, request, userId, rfl, found, off, active⟩ := removes
    cases nextAdmin_step step with
    | commit found' =>
      obtain rfl := Option.some.inj (found.symm.trans found')
      constructor
      · rintro ⟨other, remaining⟩ call' request' userId' same found'' off' -
        cases same
        obtain rfl := Option.some.inj (found.symm.trans found'')
        obtain ⟨active', on⟩ := activeAdmin_commit.mp remaining
        refine Or.inr ⟨other, ?_, active'⟩
        rintro rfl
        exact on off'
      · intro keeps
        have other : ∃ other, other ≠ userId ∧ ActiveAdmin before.db other := by
          rcases keeps call request userId rfl found off active with ⟨⟨now, rfl⟩, undisturbed⟩ |
            other
          · exact other_of_undisturbed rulesMatch idle run all found undisturbed
          · exact other
        obtain ⟨other, differs, active'⟩ := other
        exact ⟨other, activeAdmin_commit.mpr ⟨active', fun off' => differs (off.unique off')⟩⟩
  · obtain ⟨userId, active⟩ := all.here
    refine iff_of_true ⟨userId, active.step removes step⟩ ?_
    intro call request userId' same found off active'
    exact absurd ⟨call, request, userId', same, found, off, active'⟩ removes

end Runs

/-! ### One administrator -/

theorem twoTenants_row {id : Nat} {user : User} (stored : twoTenants.users.get id = some user) :
    (id = 1 ∧ user = alice) ∨ (id = 2 ∧ user = bob) := by
  rcases Rows.get_insert_cases stored with ⟨last, rfl⟩ | ⟨-, first⟩
  · exact Or.inr ⟨last, rfl⟩
  · by_cases one : id = 1
    · subst one
      rw [Rows.get_single] at first
      exact Or.inl ⟨rfl, (Option.some.inj first).symm⟩
    · simp [Rows.single, one] at first

theorem twoTenants_admin {userId : Nat} : ActiveAdmin twoTenants userId ↔ userId = 1 := by
  constructor
  · rintro ⟨user, found, admin⟩
    rcases twoTenants_row (getUserById_eq_some.mp found).1 with ⟨first, -⟩ | ⟨-, rfl⟩
    · exact first
    · have none_held : hasRoleInDomain twoTenants bob.username "admin" bob.tenantId = false := by
        decide
      rw [none_held] at admin
      cases admin
  · rintro rfl
    exact ⟨alice, by decide, by decide⟩

theorem twoTenants_rulesMatch : RulesMatch twoTenants where
  named id user stored := by
    rcases twoTenants_row stored with ⟨-, rfl⟩ | ⟨-, rfl⟩ <;> decide
  enforced := by decide
  home rule mem ptype admin id user stored owner := by
    have rules : ∀ rule ∈ twoTenants.casbinRules, rule.ptype = "g" → rule.v1 = "admin" →
        ∀ user ∈ [alice, bob], user.username = rule.v0 →
          keyMatch (roleDomain user.tenantId) rule.v2 = true := by decide
    refine rules rule mem ptype admin user ?_ owner
    rcases twoTenants_row stored with ⟨-, rfl⟩ | ⟨-, rfl⟩ <;> simp
  owner := by decide

/-- The requests of `alice` start from the two tenants. -/
def twoTenantsIdle : AdminState := { db := twoTenants, pending := fun _ => none }

/-- A request of `alice` between its two points. -/
def alicePending (request : Pending) : AdminState :=
  { db := twoTenants, pending := Function.update (fun _ => none) 0 (some request) }

/-- The reads and the commit of a request of `alice`. -/
def aliceHistory (request : Pending) : List (AdminState × AdminLabel) :=
  [(alicePending request, .commit 0),
    (twoTenantsIdle, .check 0 (tenantClaims "alice" 1) request)]

/-- The state after its commit. -/
def aliceCommitted (request : Pending) : AdminState where
  db := commitPending twoTenants request
  pending := Function.update (alicePending request).pending 0 none

theorem run_aliceHistory (request : Pending)
    (checked : checks twoTenants (tenantClaims "alice" 1) request = true) :
    Run (nextAdmin "root") twoTenantsIdle (aliceHistory request) (aliceCommitted request) := by
  have admitted : casbinGuard "root" twoTenants.enforcer ["admin"] (tenantClaims "alice" 1) =
      .ok (tenantClaims "alice" 1) := by decide
  refine .snoc (.snoc .init ?_) ?_
  · simp only [nextAdmin, twoTenantsIdle, admitted, checked, if_true, alicePending]
  · simp only [nextAdmin, alicePending, Function.update_self, aliceCommitted]

/-- Deleting the user of the other tenant leaves the administrator. -/
theorem last_admin_survives_deletion :
    Throughout (fun _ state => AdminRemains state) (aliceHistory (.delete 2 5))
      (aliceCommitted (.delete 2 5)) := by
  refine (last_admin_survives_iff twoTenants_rulesMatch (fun _ => rfl)
    ⟨1, twoTenants_admin.mpr rfl⟩ (run_aliceHistory (.delete 2 5) (by decide))).mpr
    ⟨?_, ?_, trivial⟩
  · rintro call request userId same found off -
    cases same
    obtain rfl := Option.some.inj found
    obtain rfl : userId = 2 := off
    exact Or.inl ⟨⟨5, rfl⟩, Or.inl ⟨_, _, rfl⟩⟩
  · rintro call request userId same
    cases same

/-- The only administrator deactivates itself with an update. -/
theorem last_admin_deactivated :
    AdminRemains twoTenantsIdle ∧ ∃ history state,
      Run (nextAdmin "root") twoTenantsIdle history state ∧ ¬ AdminRemains state := by
  refine ⟨⟨1, twoTenants_admin.mpr rfl⟩, _, _,
    run_aliceHistory (.update 1 { isActive := some (some false) }) (by decide), ?_⟩
  rintro ⟨userId, active⟩
  obtain ⟨before, on⟩ := activeAdmin_commit.mp active
  exact on ⟨twoTenants_admin.mp before, rfl, by decide⟩

end ApiObservatory.Users
