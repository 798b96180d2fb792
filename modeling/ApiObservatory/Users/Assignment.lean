import ApiObservatory.Auth.Routes
import ApiObservatory.Users.Confinement

/-
What assigning a role does to the roles a user has.

`assign_role` adds a rule in the domain `*` and removes none. The response names
the highest role that is linked to the user, so it names the assigned one exactly
when no higher role was linked before; the guards do not look at the required role
and admit the user as they admit a holder of the assigned role alone.
-/

namespace ApiObservatory.Users

open Foundation Security Auth

/-! ### The effective role -/

section EffectiveRole

/-- The effective role is one of the roles, and none of them is above it. -/
theorem resolveEffectiveRole_max {roles : List String} (some_role : roles ≠ []) :
    resolveEffectiveRole roles ∈ roles ∧
      ∀ role ∈ roles, rolePriority role ≤ rolePriority (resolveEffectiveRole roles) := by
  obtain ⟨first, rest, rfl⟩ := List.exists_cons_of_ne_nil some_role
  clear some_role
  induction rest generalizing first with
  | nil => simp [resolveEffectiveRole]
  | cons next rest ih =>
    have step : resolveEffectiveRole (first :: next :: rest) =
        resolveEffectiveRole
          ((if rolePriority first < rolePriority next then next else first) :: rest) := rfl
    rw [step]
    by_cases higher : rolePriority first < rolePriority next
    · rw [if_pos higher]
      obtain ⟨mem, above⟩ := ih next
      refine ⟨List.mem_cons_of_mem _ mem, ?_⟩
      rintro role (_ | ⟨_, later⟩)
      · exact higher.le.trans (above next List.mem_cons_self)
      · exact above role later
    · rw [if_neg higher]
      obtain ⟨mem, above⟩ := ih first
      refine ⟨?_, ?_⟩
      · rcases List.mem_cons.mp mem with here | later
        · exact List.mem_cons.mpr (Or.inl here)
        · exact List.mem_cons_of_mem _ (List.mem_cons_of_mem _ later)
      · rintro role (_ | ⟨_, _ | ⟨_, later⟩⟩)
        · exact above first List.mem_cons_self
        · exact (not_lt.mp higher).trans (above first List.mem_cons_self)
        · exact above role (List.mem_cons_of_mem _ later)

theorem rolePriority_text_inj {role role' : Role}
    (same : rolePriority role.text = rolePriority role'.text) : role = role' := by
  revert same
  cases role <;> cases role' <;> decide

/-- Among the three roles, the effective one is the one above the others. -/
theorem resolveEffectiveRole_eq_iff {roles : List String} {role : Role}
    (known : ∀ held ∈ roles, ∃ role : Role, held = role.text) (mem : role.text ∈ roles) :
    resolveEffectiveRole roles = role.text ↔
      ∀ held ∈ roles, rolePriority held ≤ rolePriority role.text := by
  obtain ⟨among, above⟩ := resolveEffectiveRole_max (List.ne_nil_of_mem mem)
  constructor
  · intro same
    rwa [same] at above
  · intro highest
    obtain ⟨effective, same⟩ := known _ among
    rw [same] at among above ⊢
    rw [rolePriority_text_inj (le_antisymm (highest _ among) (above _ mem))]

end EffectiveRole

/-! ### The rules -/

section Rules

variable {superadminSubject : String} {db : UserDb}

/-- The rules are the policy of the file and role assignments. -/
def Assigned (policy : Policy) : Prop := ∃ assignments, policy = casbinPolicy.assign assignments

/-- At most one role is assigned between the policies. -/
def AssignsRole (policy policy' : Policy) : Prop :=
  policy' = policy ∨ ∃ assignment : Assignment,
    policy' = { policy with g := policy.g ++ [assignment.rule] }

theorem AssignsRole.assigned {policy policy' : Policy} (assigns : AssignsRole policy policy')
    (assigned : Assigned policy) : Assigned policy' := by
  obtain ⟨assignments, rfl⟩ := assigned
  rcases assigns with rfl | ⟨assignment, rfl⟩
  · exact ⟨assignments, rfl⟩
  · exact ⟨assignments ++ [assignment], by simp [Policy.assign]⟩

theorem AssignsRole.mem {policy policy' : Policy} (assigns : AssignsRole policy policy')
    {rule : GRule} (mem : rule ∈ policy.g) : rule ∈ policy'.g := by
  rcases assigns with rfl | ⟨assignment, rfl⟩
  · exact mem
  · exact List.mem_append_left _ mem

theorem assignsRole_addRole {db' : UserDb} (enforcer : db'.enforcer = db.enforcer)
    (username : String) (role : Role) (domain : String) :
    AssignsRole db.enforcer (addRoleForUserInDomain db' username role.text domain).enforcer := by
  unfold addRoleForUserInDomain
  split
  · exact Or.inl enforcer
  · rw [enforcer]
    exact Or.inr ⟨{ username, role, domain }, rfl⟩

theorem assignsRole_createUser (role : Role) {username email passwordHash : String}
    {tenantId : Option Nat} {result : UserDb × Nat × User}
    (created : createUser db username email passwordHash role.text tenantId = .ok result) :
    AssignsRole db.enforcer result.1.enforcer := by
  by_cases refused : createRefused db username email tenantId
  · rw [createUser_refused refused] at created
    cases created
  · obtain ⟨db', user, home, created', -, enforcer, -⟩ :=
      createUser_created refused passwordHash role.text
    obtain rfl := Except.ok.inj (created'.symm.trans created)
    exact assignsRole_addRole enforcer _ _ _

/-- A registration assigns one role at most. -/
theorem assignsRole_register (body : UserCreate) (passwordHash : String) :
    AssignsRole db.enforcer (register db body passwordHash).1.enforcer := by
  unfold register
  split
  · cases created : createUser db body.username body.email passwordHash "user" none with
    | error => exact Or.inl rfl
    | ok result => exact assignsRole_createUser .user created
  · exact Or.inl rfl

/-- So does a request of an administrator. -/
theorem assignsRole_handle (claims : Claims) (request : Request) :
    AssignsRole db.enforcer (handle superadminSubject claims db request).enforcer := by
  unfold handle
  split
  · exact Or.inl rfl
  · cases request with
    | assignRole username role =>
      rw [serve, assignRole_state]
      exact assignsRole_addRole rfl username role "*"
    | deleteUser userId now =>
      simp only [serve, deleteUserRoute, deleteUser]
      repeat' split
      all_goals exact Or.inl rfl
    | updateUser userId body =>
      simp only [serve, updateUserRoute]
      repeat' split
      all_goals first
        | exact Or.inl rfl
        | exact Or.inl (updateUser_ok ‹_›).1
    | createAdmin body passwordHash =>
      simp only [serve, createAdmin]
      split
      · split
        · exact Or.inl rfl
        · cases created : createUser db body.username body.email passwordHash "admin"
            body.tenantId with
          | error => exact Or.inl rfl
          | ok result => exact assignsRole_createUser .admin created
      · exact Or.inl rfl

end Rules

/-! ### The answer to an assignment -/

section Answer

variable {superadminSubject : String} {db : UserDb} {username : String} {role : Role}

theorem mem_getUserRolesInDomain {held : String} {tenantId : Option Nat} :
    held ∈ getUserRolesInDomain db username tenantId ↔
      ∃ rule ∈ db.enforcer.g, keyMatch (roleDomain tenantId) rule.domain = true ∧
        rule.user = username ∧ rule.role = held := by
  simp only [getUserRolesInDomain, Policy.links, List.mem_map, List.mem_filter, beq_iff_eq]
  constructor
  · rintro ⟨link, ⟨⟨rule, ⟨mem, matched⟩, rfl⟩, named⟩, same⟩
    exact ⟨rule, mem, matched, named, same⟩
  · rintro ⟨rule, mem, matched, named, same⟩
    exact ⟨(rule.user, rule.role), ⟨⟨rule, ⟨mem, matched⟩, rfl⟩, named⟩, same⟩

/-- The assigned role joins the roles of the user. -/
theorem mem_roles_assigned {held : String} {tenantId : Option Nat} :
    held ∈ getUserRolesInDomain (assignUserRole db username role.text) username tenantId ↔
      held = role.text ∨ held ∈ getUserRolesInDomain db username tenantId := by
  simp only [mem_getUserRolesInDomain, assignUserRole, mem_addRole]
  constructor
  · rintro ⟨rule, rfl | mem, matched, named, same⟩
    · exact Or.inl same.symm
    · exact Or.inr ⟨rule, mem, matched, named, same⟩
  · rintro (rfl | ⟨rule, mem, matched, named, same⟩)
    · exact ⟨_, Or.inl rfl, keyMatch_star _, rfl, rfl⟩
    · exact ⟨rule, Or.inr mem, matched, named, same⟩

theorem Assigned.role_text {policy : Policy} (assigned : Assigned policy) {rule : GRule}
    (mem : rule ∈ policy.g) : ∃ role : Role, rule.role = role.text := by
  obtain ⟨assignments, rfl⟩ := assigned
  simp only [Policy.assign, casbinPolicy, List.mem_append, List.mem_cons, List.not_mem_nil,
    or_false, List.mem_map] at mem
  rcases mem with (rfl | rfl) | ⟨assignment, -, rfl⟩
  · exact ⟨.manager, rfl⟩
  · exact ⟨.user, rfl⟩
  · exact ⟨assignment.role, rfl⟩

@[simp] theorem getUserByUsername_assignUserRole (other : String) (role : String) :
    getUserByUsername (assignUserRole db username role) other = getUserByUsername db other := by
  unfold getUserByUsername assignUserRole
  dsimp only
  rw [addRole_users]

/-- The role in the response is the assigned one when no linked role is above it. -/
theorem assignRole_response_iff (assigned : Assigned db.enforcer) {userId : Nat} {user : User}
    (found : getUserByUsername db username = some (userId, user)) :
    (∃ response, (assignRole db username role).2 = .ok response ∧ response.role = role.text) ↔
      ∀ held ∈ getUserRolesInDomain db username user.tenantId,
        rolePriority held ≤ rolePriority role.text := by
  have named : user.username = username := (getUserByUsername_some found).2.1
  have answer : (assignRole db username role).2 =
      .ok (effectiveResponse (assignUserRole db username role.text) userId user) := by
    simp only [assignRole, getUserByUsername_assignUserRole, found]
  have known : ∀ held ∈ getUserRolesInDomain (assignUserRole db username role.text) username
      user.tenantId, ∃ role : Role, held = role.text := by
    intro held mem
    obtain ⟨rule, stored, -, -, rfl⟩ := mem_getUserRolesInDomain.mp mem
    exact ((assignsRole_addRole rfl username role "*").assigned assigned).role_text stored
  have effective := resolveEffectiveRole_eq_iff known (mem_roles_assigned.mpr (Or.inl rfl))
  simp only [answer, Except.ok.injEq, exists_eq_left', effectiveResponse, userResponse, named,
    effective, mem_roles_assigned]
  constructor
  · exact fun highest held mem => highest held (Or.inr mem)
  · rintro highest held (rfl | mem)
    · exact le_rfl
    · exact highest held mem

/-- The claims a login puts into the tokens of a user. -/
def loginClaims (user : User) : Claims where
  sub := some user.username
  tenantId := user.tenantId.map Nat.repr

/-- Whoever has a rule for a role in the domain `*` passes every guard. -/
theorem casbinGuard_of_rule {policy : Policy} (assigned : Assigned policy)
    (mem : { user := username, role := role.text, domain := "*" } ∈ policy.g)
    {requiredRoles : List String} (some_required : requiredRoles ≠ []) {claims : Claims}
    (subject : claims.subject = username) :
    casbinGuard superadminSubject policy requiredRoles claims = .ok claims := by
  cases superuser : isSuperuser superadminSubject claims.subject with
  | true => rw [casbinGuard, superuser, if_pos rfl]
  | false =>
    obtain ⟨assignments, rfl⟩ := assigned
    refine (casbinGuard_ok_iff superuser some_required).mpr (reaches_role_iff.mp ⟨role, ?_⟩)
    refine reaches_of_mem (List.mem_map.mpr ⟨_, List.mem_filter.mpr ⟨mem, keyMatch_star _⟩, ?_⟩)
    rw [subject]

end Answer

/-! ### Runs -/

/-- A registration, or a request to the routes of the administrators. -/
inductive RoleRequest where
  | register (body : UserCreate) (passwordHash : String)
  | administer (claims : Claims) (request : Request)

section Runs

variable (superadminSubject : String)

def nextRoles (db : UserDb) : RoleRequest → Option UserDb
  | .register body passwordHash => some (register db body passwordHash).1
  | .administer claims request => some (handle superadminSubject claims db request)

/-- The assignment an administrator's request makes, and its answer. -/
def assignment (db : UserDb) :
    RoleRequest → Option (String × Role × Except RouteError UserResponse)
  | .administer claims (.assignRole username role) =>
      match casbinGuard superadminSubject db.enforcer ["admin"] claims with
      | .error _ => none
      | .ok _ => some (username, role, (assignRole db username role).2)
  | _ => none

/-- The role of the newest assignment to a user, if it was answered 200. -/
def latestRole (username : String) : List (UserDb × RoleRequest) → Option Role
  | [] => none
  | (db, request) :: earlier =>
      match assignment superadminSubject db request with
      | none => latestRole username earlier
      | some (target, role, answer) =>
          if target = username then answer.toOption.map fun _ => role
          else latestRole username earlier

/-- The role guards of the routes. -/
def guards : List (List String) := [["admin"], ["manager", "admin"], ["user", "admin"]]

/-- The rules of a user that holds one role. -/
def holderOf (username : String) (role : Role) : Policy :=
  casbinPolicy.assign [{ username, role, domain := "*" }]

/-- **An assignment sets the role**: the answers name it, and until the next one the
guards admit the user as they admit a holder of this role alone. -/
structure SetsRole (history : List (UserDb × RoleRequest)) (db : UserDb) : Prop where
  response : ∀ entry ∈ history, ∀ username role response,
    assignment superadminSubject entry.1 entry.2 = some (username, role, .ok response) →
      response.role = role.text
  guarded : ∀ username role, latestRole superadminSubject username history = some role →
    ∀ userId user, getUserByUsername db username = some (userId, user) →
      ∀ requiredRoles ∈ guards,
        casbinGuard superadminSubject db.enforcer requiredRoles (loginClaims user) =
          casbinGuard superadminSubject (holderOf username role) requiredRoles (loginClaims user)

/-- No role that is linked to the target is above the assigned one. -/
def NoDemotion (db : UserDb) (request : RoleRequest) : Prop :=
  ∀ username role answer, assignment superadminSubject db request = some (username, role, answer) →
    ∀ userId user, getUserByUsername db username = some (userId, user) →
      ∀ held ∈ getUserRolesInDomain db username user.tenantId,
        rolePriority held ≤ rolePriority role.text

variable {superadminSubject} {start db db' : UserDb} {request : RoleRequest}
  {history : List (UserDb × RoleRequest)}

theorem assignsRole_step (step : nextRoles superadminSubject db request = some db') :
    AssignsRole db.enforcer db'.enforcer := by
  cases request with
  | register body passwordHash =>
    obtain rfl := Option.some.inj step
    exact assignsRole_register body passwordHash
  | administer claims request =>
    obtain rfl := Option.some.inj step
    exact assignsRole_handle claims request

/-- An assignment leaves its rule. -/
theorem rule_of_assignment {username : String} {role : Role}
    {answer : Except RouteError UserResponse}
    (assigns : assignment superadminSubject db request = some (username, role, answer))
    (step : nextRoles superadminSubject db request = some db') :
    answer = (assignRole db username role).2 ∧
      { user := username, role := role.text, domain := "*" } ∈ db'.enforcer.g := by
  unfold assignment at assigns
  split at assigns
  · rename_i claims target assigned
    split at assigns
    · cases assigns
    · rename_i admitted
      cases assigns
      obtain rfl := Option.some.inj step
      refine ⟨rfl, ?_⟩
      rw [handle, admitted]
      simp only [serve, assignRole_state]
      exact mem_addRole.mpr (Or.inl rfl)
  · cases assigns

/-- In a run the rules are assigned ones, and the newest assignments have theirs. -/
theorem rules_of_run (assigned : Assigned start.enforcer)
    (run : Run (nextRoles superadminSubject) start history db) :
    Assigned db.enforcer ∧ ∀ username role,
      latestRole superadminSubject username history = some role →
        { user := username, role := role.text, domain := "*" } ∈ db.enforcer.g := by
  induction run with
  | init => exact ⟨assigned, fun _ _ latest => by cases latest⟩
  | snoc _ step ih =>
    refine ⟨(assignsRole_step step).assigned ih.1, fun username role latest => ?_⟩
    unfold latestRole at latest
    split at latest
    · exact (assignsRole_step step).mem (ih.2 username role latest)
    · rename_i target given answer assigns
      split at latest
      · rename_i same
        obtain ⟨-, -, rfl⟩ := Option.map_eq_some_iff.mp latest
        exact same ▸ (rule_of_assignment assigns step).2
      · exact (assignsRole_step step).mem (ih.2 username role latest)

/-- **Assigning a role** sets it throughout a run exactly when no assignment gives a
user a role below one that is linked to it. -/
theorem assignment_sets_role_iff (assigned : Assigned start.enforcer)
    (run : Run (nextRoles superadminSubject) start history db) :
    Throughout (SetsRole superadminSubject) history db ↔
      Meets (fun _ db request => NoDemotion superadminSubject db request) history := by
  refine Run.throughout_iff_meets ⟨by simp, fun _ _ latest => by cases latest⟩ ?_ run
  intro earlier before request after run sets step
  obtain ⟨known, -⟩ := rules_of_run assigned run
  obtain ⟨known', latest'⟩ := rules_of_run assigned (run.snoc step)
  constructor
  · intro setsAfter username role answer assigns userId user found
    obtain ⟨rfl, -⟩ := rule_of_assignment assigns step
    refine (assignRole_response_iff known found).mp ?_
    have ok : (assignRole before username role).2 =
        .ok (effectiveResponse (assignUserRole before username role.text) userId user) := by
      simp only [assignRole, getUserByUsername_assignUserRole, found]
    exact ⟨_, ok, setsAfter.response _ List.mem_cons_self username role _ (ok ▸ assigns)⟩
  · intro noDemotion
    refine ⟨fun entry mem username role response assigns => ?_,
      fun username role latest userId user found requiredRoles mem => ?_⟩
    · rcases List.mem_cons.mp mem with rfl | older
      · obtain ⟨answer, -⟩ := rule_of_assignment assigns step
        cases found : getUserByUsername before username with
        | none => simp [assignRole, found] at answer
        | some entry =>
          obtain ⟨response', ok, named⟩ := (assignRole_response_iff known found).mpr
            (noDemotion username role _ assigns entry.1 entry.2 found)
          obtain rfl := Except.ok.inj (answer.trans ok)
          exact named
      · exact sets.response entry older username role response assigns
    · have subject : (loginClaims user).subject = username := (getUserByUsername_some found).2.1
      have some_required : requiredRoles ≠ [] := by
        rintro rfl
        revert mem
        decide
      have alone : Assigned (holderOf username role) := ⟨_, rfl⟩
      have held : { user := username, role := role.text, domain := "*" } ∈
          (holderOf username role).g := List.mem_append_right _ List.mem_cons_self
      rw [casbinGuard_of_rule known' (latest' username role latest) some_required subject,
        casbinGuard_of_rule alone held some_required subject]

end Runs

/-! ### A promotion and a demotion -/

/-- `alice` assigns a role. -/
def aliceAssigns (username : String) (role : Role) : RoleRequest :=
  .administer (tenantClaims "alice" 1) (.assignRole username role)

theorem run_aliceAssigns (username : String) (role : Role) :
    Run (nextRoles "root") twoTenants [(twoTenants, aliceAssigns username role)]
      (handle "root" (tenantClaims "alice" 1) twoTenants (.assignRole username role)) :=
  .snoc .init rfl

/-- A promotion sets the role. -/
theorem assignment_sets_role_promotion :
    Throughout (SetsRole "root") [(twoTenants, aliceAssigns "bob" .manager)]
      (handle "root" (tenantClaims "alice" 1) twoTenants (.assignRole "bob" .manager)) := by
  refine (assignment_sets_role_iff ⟨_, rfl⟩ (run_aliceAssigns "bob" .manager)).mpr ⟨?_, trivial⟩
  rintro username role answer assigns userId user found held mem
  have target : (assignment "root" twoTenants (aliceAssigns "bob" .manager)).map
      (fun made => (made.1, made.2.1)) = some ("bob", .manager) := by decide
  rw [assigns] at target
  cases target
  have bobRow : getUserByUsername twoTenants "bob" = some (2, bob) := by decide
  obtain ⟨rfl, rfl⟩ := Prod.mk.inj (Option.some.inj (found.symm.trans bobRow))
  have roles : getUserRolesInDomain twoTenants "bob" bob.tenantId = ["user"] := by decide
  rw [roles, List.mem_singleton] at mem
  subst mem
  decide

/-- Assigning `user` to an administrator is answered 200 with `admin`. -/
theorem demotion_keeps_admin :
    ∃ history db, Run (nextRoles "root") twoTenants history db ∧ ¬ SetsRole "root" history db := by
  refine ⟨_, _, run_aliceAssigns "alice" .user, fun sets => ?_⟩
  have answer : assignment "root" twoTenants (aliceAssigns "alice" .user) =
      some ("alice", .user, .ok (userResponse 1 alice "admin")) := by decide
  have named := sets.response _ List.mem_cons_self _ _ _ answer
  revert named
  decide

end ApiObservatory.Users
