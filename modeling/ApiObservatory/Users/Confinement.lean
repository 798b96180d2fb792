import ApiObservatory.Users.Routes

/-
Tenant confinement of user administration.

No route compares the tenant of its target with the tenant of its caller, and
`assign_role` writes its rule in the domain `*`. So an administrator of one
tenant changes the users and roles of the others, except with the requests that
`Confined` describes.
-/

namespace ApiObservatory.Users

open Foundation Security

/-- The domain of a tenant. -/
def domainOf (tenant : Nat) : String := Nat.repr tenant

/-- The users of other tenants and the roles in other domains are the same. -/
structure SameOutside (tenant : Nat) (db db' : UserDb) : Prop where
  users : ∀ userId user, user.tenantId ≠ some tenant →
    (db'.users.get userId = some user ↔ db.users.get userId = some user)
  roles : ∀ domain, domain ≠ domainOf tenant → ∀ username role,
    db'.enforcer.hasLink username role domain = db.enforcer.hasLink username role domain

/-- The caller is not the superuser and holds `admin` in the domain of its tenant
only. The p-rules are those of the policy. -/
structure TenantAdmin (superadminSubject : String) (db : UserDb) (caller : String)
    (tenant : Nat) : Prop where
  ordinary : isSuperuser superadminSubject caller = false
  named : caller ≠ ""
  tenantExists : (db.tenants.get tenant).isSome = true
  policy : db.enforcer.p = casbinPolicy.p
  admin : db.enforcer.hasLink caller "admin" (domainOf tenant) = true
  only : ∀ domain, domain ≠ domainOf tenant → db.enforcer.hasLink caller "admin" domain = false

/-- The claims the caller's login puts into its tokens. -/
def tenantClaims (caller : String) (tenant : Nat) : Claims :=
  { sub := some caller, tenantId := some (domainOf tenant) }

/-- A request that stays in the tenant: it assigns a role the user has in every
other domain anyway, targets a user of the tenant, changes nothing, or is refused. -/
def Confined (tenant : Nat) (caller : String) (db : UserDb) : Request → Prop
  | .assignRole username role => ∀ domain, domain ≠ domainOf tenant →
      db.enforcer.hasLink username role.text domain = true
  | .deleteUser userId _ => ∀ user, getUserById db userId = some user →
      user.tenantId = some tenant ∨ user.username = caller ∨
        (hasRoleInDomain db user.username "admin" user.tenantId = true ∧
          countActiveAdmins db (some user.username) = 0)
  | .updateUser userId body => ∀ user, getUserById db userId = some user →
      user.tenantId = some tenant ∨
        (body.email.join.getD user.email = user.email ∧ body.isActive.join ≠ some false) ∨
        (body.email.join.getD user.email ≠ user.email ∧
          emailTaken db userId (body.email.join.getD user.email) = true)
  | .createAdmin body _ =>
      body.tenantId = some tenant ∨ body.valid = false ∨
        createRefused db body.username body.email body.tenantId

/-! ### What stays the same -/

section SameOutside

variable {tenant : Nat} {db db' db'' : UserDb}

theorem SameOutside.refl (tenant : Nat) (db : UserDb) : SameOutside tenant db db :=
  ⟨fun _ _ _ => Iff.rfl, fun _ _ _ _ => rfl⟩

theorem SameOutside.symm (same : SameOutside tenant db db') : SameOutside tenant db' db :=
  ⟨fun userId user outside => (same.users userId user outside).symm,
    fun domain other username role => (same.roles domain other username role).symm⟩

theorem SameOutside.trans (first : SameOutside tenant db db')
    (second : SameOutside tenant db' db'') : SameOutside tenant db db'' :=
  ⟨fun userId user outside =>
      (second.users userId user outside).trans (first.users userId user outside),
    fun domain other username role =>
      (second.roles domain other username role).trans (first.roles domain other username role)⟩

end SameOutside

/-! ### Rules -/

/-- The digits of a tenant id are no pattern. -/
theorem keyMatch_domainOf (domain : String) (tenant : Nat) :
    keyMatch domain (domainOf tenant) = (domain == domainOf tenant) := by
  have digits : '*' ∉ (domainOf tenant).toList := by
    intro mem
    rw [domainOf, Nat.toList_repr] at mem
    have digit := Nat.isDigit_of_mem_toDigits (by decide) (by decide) mem
    revert digit
    decide
  unfold keyMatch
  rw [List.idxOf?_eq_none_iff.mpr digits]

section Rules

variable {db : UserDb}

/-- The links after a rule is added: one more in the domains the rule matches. -/
theorem hasLink_addRole (username role ruleDomain domain x y : String) :
    (addRoleForUserInDomain db username role ruleDomain).enforcer.hasLink x y domain =
      if keyMatch domain ruleDomain then
        reaches ((username, role) :: db.enforcer.links domain) x y
      else db.enforcer.hasLink x y domain := by
  have links : ∀ link,
      link ∈ (addRoleForUserInDomain db username role ruleDomain).enforcer.links domain ↔
        (link = (username, role) ∧ keyMatch domain ruleDomain = true) ∨
          link ∈ db.enforcer.links domain := by
    intro link
    simp only [Policy.links, List.mem_map, List.mem_filter, mem_addRole]
    constructor
    · rintro ⟨rule, ⟨rfl | mem, matched⟩, rfl⟩
      · exact Or.inl ⟨rfl, matched⟩
      · exact Or.inr ⟨rule, ⟨mem, matched⟩, rfl⟩
    · rintro (⟨rfl, matched⟩ | ⟨rule, ⟨mem, matched⟩, rfl⟩)
      · exact ⟨_, ⟨Or.inl rfl, matched⟩, rfl⟩
      · exact ⟨rule, ⟨Or.inr mem, matched⟩, rfl⟩
  unfold Policy.hasLink
  split
  · rename_i matched
    refine reaches_congr (fun link => ?_) x y
    rw [links, List.mem_cons, matched]
    simp
  · rename_i unmatched
    refine reaches_congr (fun link => ?_) x y
    rw [links]
    simp [unmatched]

end Rules

/-! ### One request -/

/-- What the guard needs to admit the caller, and the caller's tenant. -/
structure Administers (db : UserDb) (caller : String) (tenant : Nat) : Prop where
  policy : db.enforcer.p = casbinPolicy.p
  admin : db.enforcer.hasLink caller "admin" (domainOf tenant) = true
  tenantExists : (db.tenants.get tenant).isSome = true

section Step

variable {superadminSubject caller : String} {tenant : Nat} {db : UserDb}

theorem Administers.handle_eq (administers : Administers db caller tenant)
    (ordinary : isSuperuser superadminSubject caller = false) (request : Request) :
    handle superadminSubject (tenantClaims caller tenant) db request =
      serve db (tenantClaims caller tenant) request := by
  have enforced : db.enforcer.enforce superadminSubject caller (domainOf tenant) "admin" "access" =
      true := by
    rw [Policy.enforce, administers.policy, List.any_eq_true]
    refine ⟨{ sub := "admin", dom := "*", obj := "*", act := "access" }, by decide, ?_⟩
    simp [administers.admin]
  have admitted : casbinGuard superadminSubject db.enforcer ["admin"]
      (tenantClaims caller tenant) = .ok (tenantClaims caller tenant) := by
    have same : lower "admin" = "admin" := by decide
    simp [casbinGuard, tenantClaims, Claims.subject, Claims.domain, ordinary, same, enforced]
  rw [handle, admitted]

theorem assignRole_state (username : String) (role : Role) :
    (assignRole db username role).1 = assignUserRole db username role.text := by
  unfold assignRole
  dsimp only
  split <;> rfl

/-- **Assigning a role.** -/
theorem sameOutside_assignRole (username : String) (role : Role) :
    SameOutside tenant db (assignRole db username role).1 ↔
      ∀ domain, domain ≠ domainOf tenant →
        db.enforcer.hasLink username role.text domain = true := by
  rw [assignRole_state]
  have links : ∀ domain x y,
      (assignUserRole db username role.text).enforcer.hasLink x y domain =
        reaches ((username, role.text) :: db.enforcer.links domain) x y := by
    intro domain x y
    refine (hasLink_addRole username role.text "*" domain x y).trans ?_
    rw [if_pos (keyMatch_star domain)]
  constructor
  · intro same domain outside
    rw [Policy.hasLink, ← reaches_cons_eq_iff]
    intro x y
    rw [← links, same.roles domain outside, Policy.hasLink]
  · intro already
    have users : (assignUserRole db username role.text).users = db.users := addRole_users _ _ _
    refine ⟨fun userId user _ => by rw [users], fun domain outside x y => ?_⟩
    rw [links]
    exact (reaches_cons_eq_iff _ _ _).mpr (already domain outside) x y

/-- Replacing the row of a user keeps the other tenants' users when the user is of
the tenant, or the row stays as it is. -/
theorem sameOutside_modify {userId : Nat} {user updated : User}
    (stored : db.users.get userId = some user) (tenantKept : updated.tenantId = user.tenantId) :
    SameOutside tenant db
        { db with users := db.users.modify userId fun _ => updated } ↔
      user.tenantId = some tenant ∨ updated = user := by
  have here : (db.users.modify userId fun _ => updated).get userId = some updated := by
    rw [Rows.get_modify_self, stored, Option.map_some]
  constructor
  · intro same
    by_cases inside : user.tenantId = some tenant
    · exact Or.inl inside
    · have after := (same.users userId user inside).mpr stored
      change (db.users.modify userId fun _ => updated).get userId = some user at after
      rw [here] at after
      exact Or.inr (Option.some.inj after)
  · intro kept
    refine ⟨fun other row outside => ?_, fun _ _ _ _ => rfl⟩
    by_cases same : other = userId
    · subst same
      change (db.users.modify other fun _ => updated).get other = some row ↔ _
      rw [here, stored, Option.some.injEq, Option.some.injEq]
      rcases kept with inside | unchanged
      · constructor
        · rintro rfl
          exact absurd (tenantKept.trans inside) outside
        · rintro rfl
          exact absurd inside outside
      · rw [unchanged]
    · change (db.users.modify userId fun _ => updated).get other = some row ↔ _
      rw [Rows.get_modify_of_ne _ same]

theorem getUserById_eq_some {userId : Nat} {user : User} :
    getUserById db userId = some user ↔
      db.users.get userId = some user ∧ user.isActive = true :=
  Option.filter_eq_some_iff

/-- **Deleting a user.** -/
theorem sameOutside_deleteUser (userId : Nat) (now : Int) :
    SameOutside tenant db (deleteUserRoute db userId (tenantClaims caller tenant) now).1 ↔
      Confined tenant caller db (.deleteUser userId now) := by
  cases found : getUserById db userId with
  | none => simp [deleteUserRoute, Confined, found, SameOutside.refl]
  | some user =>
    obtain ⟨stored, active⟩ := getUserById_eq_some.mp found
    simp only [deleteUserRoute, Confined, found, Option.some.injEq, forall_eq']
    by_cases self : user.username = caller
    · simp [self, tenantClaims, Claims.subject, SameOutside.refl]
    · by_cases last : hasRoleInDomain db user.username "admin" user.tenantId = true ∧
          countActiveAdmins db (some user.username) = 0
      · simp [self, last, tenantClaims, Claims.subject, SameOutside.refl]
      · have changed : { user with isActive := false, deletedAt := some now } ≠ user := by
          intro same
          have inactive := congrArg User.isActive same
          rw [active] at inactive
          cases inactive
        have kept : { user with isActive := false, deletedAt := some now }.tenantId =
            user.tenantId := rfl
        have subject : (tenantClaims caller tenant).subject = caller := rfl
        rw [subject, if_neg self, if_neg last, or_iff_left last, or_iff_left self]
        simp only [deleteUser, found]
        exact (sameOutside_modify stored kept).trans (or_iff_left changed)

/-- **Updating a user.** -/
theorem sameOutside_updateUser (named : caller ≠ "") (userId : Nat) (body : UserUpdate) :
    SameOutside tenant db (updateUserRoute db userId body (tenantClaims caller tenant)).1 ↔
      Confined tenant caller db (.updateUser userId body) := by
  have subject : (tenantClaims caller tenant).subject = caller := rfl
  simp only [updateUserRoute, subject, if_neg named, Confined]
  cases found : getUserById db userId with
  | none => simp [SameOutside.refl]
  | some user =>
    obtain ⟨stored, active⟩ := getUserById_eq_some.mp found
    simp only [Option.some.injEq, forall_eq']
    by_cases unset : body.email.isNone = true ∧ body.isActive.isNone = true
    · rw [if_pos unset]
      obtain ⟨noEmail, noActive⟩ := unset
      rw [Option.isNone_iff_eq_none] at noEmail noActive
      refine iff_of_true (SameOutside.refl tenant db) (Or.inr (Or.inl ?_))
      simp [noEmail, noActive]
    · rw [if_neg unset]
      simp only [updateUser, found]
      by_cases conflict : body.email.join.getD user.email ≠ user.email ∧
          emailTaken db userId (body.email.join.getD user.email) = true
      · rw [if_pos conflict]
        exact iff_of_true (SameOutside.refl tenant db) (Or.inr (Or.inr conflict))
      · rw [if_neg conflict, or_iff_left conflict]
        have kept : { user with
            email := body.email.join.getD user.email
            isActive := body.isActive.join.getD user.isActive }.tenantId = user.tenantId := rfl
        refine (sameOutside_modify stored kept).trans (or_congr_right ?_)
        rw [active]
        obtain ⟨username, email, passwordHash, isActive, tenantId, deletedAt⟩ := user
        cases active
        rcases body.isActive.join with _ | (_ | _) <;> simp

/-- A new user with a role in its tenant is seen outside of the other tenants only. -/
theorem sameOutside_newUser {db' : UserDb} (user : User) {home : Nat}
    (users : db'.users = db.users.insert user) (enforcer : db'.enforcer = db.enforcer)
    (member : user.tenantId = some home) (role : String) :
    SameOutside tenant db (addRoleForUserInDomain db' user.username role (domainOf home)) ↔
      home = tenant := by
  constructor
  · intro same
    by_contra outside
    have foreign : user.tenantId ≠ some tenant := by
      rw [member]
      exact fun here => outside (Option.some.inj here)
    have before := (same.users db.users.nextId user foreign).mp (by
      rw [addRole_users, users, Rows.get_insert_self])
    rw [db.users.unused _ le_rfl] at before
    cases before
  · rintro rfl
    refine ⟨fun other row outside => ?_, fun domain outside x y => ?_⟩
    · rw [addRole_users, users]
      constructor
      · intro after
        rcases Rows.get_insert_cases after with ⟨-, rfl⟩ | ⟨-, before⟩
        · exact absurd member outside
        · exact before
      · exact Rows.get_insert_of_some
    · rw [hasLink_addRole, keyMatch_domainOf, beq_false_of_ne outside, enforcer]
      rfl

/-- **Creating an administrator.** -/
theorem sameOutside_createAdmin (named : caller ≠ "") (administers : Administers db caller tenant)
    (body : UserCreate) (passwordHash : String) :
    SameOutside tenant db (createAdmin db body passwordHash (tenantClaims caller tenant)).1 ↔
      body.tenantId = some tenant ∨ createRefused db body.username body.email body.tenantId := by
  have subject : (tenantClaims caller tenant).subject = caller := rfl
  simp only [createAdmin, subject, if_neg named]
  by_cases refused : createRefused db body.username body.email body.tenantId
  · rw [createUser_refused refused]
    exact iff_of_true (SameOutside.refl tenant db) (Or.inr refused)
  · obtain ⟨db', user, home, created, users, enforcer, -, member, homeEq, -⟩ :=
      createUser_created refused passwordHash "admin"
    rw [created, or_iff_left refused]
    refine (sameOutside_newUser user users enforcer (congrArg User.tenantId member) "admin").trans ?_
    rw [homeEq]
    cases body.tenantId with
    | some tenantId => simp
    | none =>
      refine iff_of_false ?_ (by simp)
      rintro rfl
      have known := administers.tenantExists
      rw [Option.getD_none, db.tenants.unused _ le_rfl] at known
      cases known

/-- **Exactly the confined requests** leave the other tenants alone. -/
theorem Administers.sameOutside_iff (administers : Administers db caller tenant)
    (ordinary : isSuperuser superadminSubject caller = false) (named : caller ≠ "")
    (request : Request) :
    SameOutside tenant db (handle superadminSubject (tenantClaims caller tenant) db request) ↔
      Confined tenant caller db request := by
  rw [administers.handle_eq ordinary]
  cases request with
  | assignRole username role => exact sameOutside_assignRole username role
  | deleteUser userId now => exact sameOutside_deleteUser userId now
  | updateUser userId body => exact sameOutside_updateUser named userId body
  | createAdmin body passwordHash =>
    cases valid : body.valid with
    | false => simp [serve, Confined, valid, SameOutside.refl]
    | true =>
      simpa [serve, Confined, valid] using
        sameOutside_createAdmin named administers body passwordHash

theorem Administers.addRole (administers : Administers db caller tenant)
    (username role domain : String) :
    Administers (addRoleForUserInDomain db username role domain) caller tenant where
  policy := (addRole_p username role domain).trans administers.policy
  admin := by
    rw [hasLink_addRole]
    split
    · exact reaches_cons.mpr (Or.inl administers.admin)
    · exact administers.admin
  tenantExists := by
    unfold addRoleForUserInDomain
    split <;> exact administers.tenantExists

theorem Administers.of_same {db' : UserDb} (administers : Administers db caller tenant)
    (enforcer : db'.enforcer = db.enforcer) (tenants : db'.tenants = db.tenants) :
    Administers db' caller tenant :=
  ⟨enforcer ▸ administers.policy, enforcer ▸ administers.admin, tenants ▸ administers.tenantExists⟩

theorem updateUser_ok {db' : UserDb} {userId : Nat} {email : Option String}
    {isActive : Option Bool} {user : Option User}
    (updated : updateUser db userId email isActive = .ok (db', user)) :
    db'.enforcer = db.enforcer ∧ db'.tenants = db.tenants := by
  unfold updateUser at updated
  split at updated
  · cases updated
    exact ⟨rfl, rfl⟩
  · dsimp only at updated
    split at updated
    · cases updated
    · cases updated
      exact ⟨rfl, rfl⟩

/-- The caller stays the administrator of its tenant. -/
theorem Administers.handle (administers : Administers db caller tenant)
    (ordinary : isSuperuser superadminSubject caller = false) (request : Request) :
    Administers (Users.handle superadminSubject (tenantClaims caller tenant) db request) caller
      tenant := by
  rw [administers.handle_eq ordinary]
  cases request with
  | assignRole username role =>
    have after := administers.addRole username role.text "*"
    rw [serve, assignRole_state]
    exact ⟨after.policy, after.admin, after.tenantExists⟩
  | deleteUser userId now =>
    refine administers.of_same ?_ ?_ <;>
    · simp only [serve, deleteUserRoute, deleteUser]
      cases getUserById db userId with
      | none => rfl
      | some user =>
        dsimp only
        split
        · rfl
        · split <;> rfl
  | updateUser userId body =>
    simp only [serve, updateUserRoute]
    split
    · exact administers
    · split
      · exact administers
      · split
        · exact administers
        · split
          · exact administers
          · rename_i updated
            obtain ⟨enforcer, tenants⟩ := updateUser_ok updated
            exact administers.of_same enforcer tenants
          · rename_i updated
            obtain ⟨enforcer, tenants⟩ := updateUser_ok updated
            exact administers.of_same enforcer tenants
  | createAdmin body passwordHash =>
    simp only [serve, createAdmin]
    split
    · split
      · exact administers
      · by_cases refused : createRefused db body.username body.email body.tenantId
        · rw [createUser_refused refused]
          exact administers
        · obtain ⟨db', user, home, created, -, enforcer, tenants, -, -⟩ :=
            createUser_created refused passwordHash "admin"
          rw [created]
          refine Administers.addRole ⟨?_, ?_, ?_⟩ _ _ _
          · exact enforcer ▸ administers.policy
          · exact enforcer ▸ administers.admin
          · obtain ⟨row, known⟩ := Option.isSome_iff_exists.mp administers.tenantExists
            exact Option.isSome_iff_exists.mpr ⟨row, tenants _ _ known⟩
    · exact administers

end Step

/-! ### Sequences of requests -/

/-- The steps of the caller's requests, one after another. -/
def next (superadminSubject caller : String) (tenant : Nat) (db : UserDb) (request : Request) :
    Option UserDb :=
  some (handle superadminSubject (tenantClaims caller tenant) db request)

variable {superadminSubject caller : String} {tenant : Nat} {start db : UserDb}
  {history : List (UserDb × Request)}

theorem administers_of_run (admin : TenantAdmin superadminSubject start caller tenant)
    (run : Run (next superadminSubject caller tenant) start history db) :
    Administers db caller tenant := by
  induction run with
  | init => exact ⟨admin.policy, admin.admin, admin.tenantExists⟩
  | snoc _ step ih =>
    obtain rfl := Option.some.inj step
    exact ih.handle admin.ordinary _

def alice : User :=
  { username := "alice", email := "alice@example.com", passwordHash := "$argon2", tenantId := some 1 }

def bob : User :=
  { username := "bob", email := "bob@example.com", passwordHash := "$argon2", tenantId := some 2 }

/-- `alice` administers tenant 1, `bob` is a user of tenant 2. -/
def twoTenants : UserDb where
  users := (Rows.single 1 alice).insert bob
  tenants := (Rows.single 1 { name := "north" }).insert { name := "south" }
  userTenants := (Rows.single 1 { userId := 1, tenantId := 1 }).insert { userId := 2, tenantId := 2 }
  casbinRules := seededRules ++
    [{ ptype := "g", v0 := "alice", v1 := "admin", v2 := "1" },
     { ptype := "g", v0 := "bob", v1 := "user", v2 := "2" }]
  enforcer := casbinPolicy.assign
    [{ username := "alice", role := .admin, domain := "1" },
     { username := "bob", role := .user, domain := "2" }]

theorem alice_administers : TenantAdmin "root" twoTenants "alice" 1 where
  ordinary := by decide
  named := by decide
  tenantExists := rfl
  policy := rfl
  admin := by decide
  only := by
    intro domain other
    rw [← Bool.not_eq_true]
    intro linked
    rcases reaches_cases linked with same | ⟨target, first, -⟩
    · revert same
      decide
    · rcases mem_links_assign.mp first with here | here | ⟨_, ⟨rule, mem, name, matched, -⟩, -⟩
      · have spelled : "alice" = "admin" := congrArg Prod.fst here
        exact absurd spelled (by decide)
      · have spelled : "alice" = "manager" := congrArg Prod.fst here
        exact absurd spelled (by decide)
      · simp only [List.mem_cons, List.not_mem_nil, or_false] at mem
        rcases mem with rfl | rfl
        · have same : keyMatch domain (domainOf 1) = true := matched
          rw [keyMatch_domainOf] at same
          exact other (eq_of_beq same)
        · have spelled : "bob" = "alice" := name
          exact absurd spelled (by decide)

end ApiObservatory.Users
