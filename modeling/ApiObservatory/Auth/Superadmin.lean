import ApiObservatory.Auth.Routes

/-
The reserved subject.

`register` compares the name of a new account with nothing, so it also takes the
name `is_superuser` asks for; a login then issues tokens with that subject. The
subject stays reserved in exactly the runs in which no such registration succeeds.
-/

namespace ApiObservatory.Auth

open Foundation Security Users

section Reserved

variable {Token : Type} {jwt : PyJwt Token} {verify : PasswordVerifier} {db : UserDb}

theorem usernameTaken_of_found {username : String} {entry : Nat × User}
    (found : getUserByUsername db username = some entry) : usernameTaken db username = true := by
  obtain ⟨stored, named, -⟩ := getUserByUsername_some found
  exact usernameTaken_iff.mpr ⟨_, _, stored, named⟩

/-- A registration is valid and the database takes it. -/
def Registers (db : UserDb) (body : UserCreate) : Prop :=
  body.valid = true ∧ ¬ createRefused db body.username body.email none

/-- The names after a registration. -/
theorem usernameTaken_register (body : UserCreate) (passwordHash username : String) :
    usernameTaken (register db body passwordHash).1 username = true ↔
      (Registers db body ∧ body.username = username) ∨ usernameTaken db username = true := by
  unfold register
  cases valid : body.valid with
  | false => simp [Registers, valid]
  | true =>
    rw [if_pos rfl]
    by_cases refused : createRefused db body.username body.email none
    · rw [createUser_refused refused]
      simp [Registers, refused]
    · obtain ⟨db', user, home, created, users, -, -, rfl, -⟩ :=
        createUser_created refused passwordHash "user"
      rw [created]
      refine (usernameTaken_insert ((addRole_users _ _ _).trans users) username).trans ?_
      simp [Registers, valid, refused]

end Reserved

/-! ### The bootstrap -/

section Bootstrap

variable {db : UserDb} {settings : SuperadminSettings}

/-- The bootstrap creates the account when a password is set, unless its name or its
address is taken. -/
theorem usernameTaken_ensureSuperadmin (passwordHash : String) :
    usernameTaken (ensureSuperadmin db settings passwordHash).1 settings.superadminSubject = true ↔
      usernameTaken db settings.superadminSubject = true ∨
        (settings.superadminPassword.getD "" ≠ "" ∧
          emailTaken db db.users.nextId (superadminAddress settings) = false) := by
  unfold ensureSuperadmin
  split
  · rename_i unset
    simp [unset]
  · rename_i password
    split
    · rename_i existing found
      exact iff_of_true (usernameTaken_of_found found) (Or.inl (usernameTaken_of_found found))
    · dsimp only
      split
      · rename_i conflict
        rw [Bool.or_eq_true] at conflict
        rcases conflict with taken | address
        · exact iff_of_true taken (Or.inl taken)
        · have same : emailTaken db db.users.nextId (superadminAddress settings) = true := address
          simp [same]
      · rename_i free
        rw [Bool.not_eq_true, Bool.or_eq_false_iff] at free
        have address : emailTaken db db.users.nextId (superadminAddress settings) = false := free.2
        refine (usernameTaken_insert rfl _).trans ?_
        simp [password, address]

/-- Whoever has the name when the bootstrap runs keeps it, with its own password. -/
theorem ensureSuperadmin_of_found {entry : Nat × User} (passwordHash : String)
    (found : getUserByUsername db settings.superadminSubject = some entry) :
    (ensureSuperadmin db settings passwordHash).1 = db := by
  unfold ensureSuperadmin
  split
  · rfl
  · rw [found]

end Bootstrap

/-! ### Runs -/

/-- The subject of a payload is the superuser. -/
def SuperuserPayload (superadminSubject : String) (payload : TokenPayload) : Prop :=
  ∃ subject, payload.lookup "sub" = some (.string subject) ∧
    isSuperuser superadminSubject subject = true

section Runs

variable {Token : Type} {jwt : PyJwt Token} {verify : PasswordVerifier}
  {superadminSubject : String} {start state : State} {history : List (State × Event Token)}

/-- No account has the reserved name, and no token was issued for it. -/
structure SubjectReserved (jwt : PyJwt Token) (verify : PasswordVerifier)
    (superadminSubject : String) (history : List (State × Event Token)) (state : State) : Prop where
  noAccount : usernameTaken state.db superadminSubject = false
  noToken : ∀ entry ∈ history, ∀ grant, issued jwt verify entry.1 entry.2 = some grant →
    ¬ SuperuserPayload superadminSubject (grant.accessPayload entry.1.settings) ∧
      ¬ SuperuserPayload superadminSubject (grant.refreshPayload entry.1.settings)

/-- A request that does not register the reserved name. -/
def LeavesReserved (superadminSubject : String) (db : UserDb) : Request Token → Prop
  | .register body _ => ¬ (Registers db body ∧ body.username = superadminSubject)
  | _ => True

theorem SuperuserPayload.eq_of_sub {payload : TokenPayload} {sub : String}
    (superuser : SuperuserPayload superadminSubject payload)
    (found : payload.lookup "sub" = some (.string sub)) : sub = superadminSubject := by
  obtain ⟨subject, claimed, same⟩ := superuser
  obtain rfl : sub = subject := by simpa using found.symm.trans claimed
  simp only [isSuperuser, Bool.and_eq_true, beq_iff_eq] at same
  exact same.2

/-- Tokens with the reserved subject need an account of that name. -/
theorem issued_ordinary {event : Event Token} {grant : Grant}
    (free : usernameTaken state.db superadminSubject = false)
    (issues : issued jwt verify state event = some grant) :
    ¬ SuperuserPayload superadminSubject (grant.accessPayload state.settings) ∧
      ¬ SuperuserPayload superadminSubject (grant.refreshPayload state.settings) := by
  obtain ⟨entry, found⟩ := issued_sub issues
  have other : grant.sub ≠ superadminSubject := by
    rintro rfl
    rw [usernameTaken_of_found found] at free
    cases free
  exact ⟨fun superuser => other (superuser.eq_of_sub (lookup_sub_access _ _)),
    fun superuser => other (superuser.eq_of_sub (lookup_sub_refresh _ _))⟩

/-- **One request.** The reserved name stays free unless the request registers it. -/
theorem usernameTaken_serve (jwt : PyJwt Token)
    (free : usernameTaken state.db superadminSubject = false) (now : Int) (request : Request Token) :
    usernameTaken (serve jwt state now request).db superadminSubject = false ↔
      LeavesReserved superadminSubject state.db request := by
  cases request with
  | register body passwordHash =>
    rw [serve, LeavesReserved, ← Bool.not_eq_true, usernameTaken_register, free]
    simp
  | login username password jti => simpa [serve, LeavesReserved] using free
  | refresh refreshToken jti => simpa [serve, LeavesReserved] using free
  | logout refreshToken => simpa [serve, LeavesReserved] using free
  | rotate jwtSecret jwtPreviousSecrets => simpa [serve, LeavesReserved] using free

/-- **The superadmin subject** stays reserved throughout a run of public requests
exactly when none of them registers it. -/
theorem superadmin_reserved_iff
    (free : usernameTaken start.db superadminSubject = false)
    (run : Run (next jwt) start history state) :
    Throughout (SubjectReserved jwt verify superadminSubject) history state ↔
      Meets (fun _ state event => LeavesReserved superadminSubject state.db event.request)
        history := by
  refine Run.throughout_iff_meets ⟨free, by simp⟩ ?_ run
  intro earlier before event after _ reserved step
  unfold next at step
  split at step
  · obtain rfl := Option.some.inj step
    rw [← usernameTaken_serve jwt reserved.noAccount event.now event.request]
    constructor
    · exact fun kept => kept.noAccount
    · intro stillFree
      refine ⟨stillFree, fun entry mem grant issues => ?_⟩
      rcases List.mem_cons.mp mem with rfl | older
      · exact issued_ordinary reserved.noAccount issues
      · exact reserved.noToken entry older grant issues
  · cases step

end Runs

/-! ### A registration of the reserved name -/

def noUsers : UserDb where
  users := Rows.empty
  tenants := Rows.empty
  userTenants := Rows.empty
  casbinRules := seededRules
  enforcer := casbinPolicy

def freshStart : State := { db := noUsers, settings := { jwtSecret := "secret" }, clock := 0 }

/-- The registration of an account. -/
def registration (username : String) : Event (TokenPayload × String × String) where
  now := 0
  request := .register
    { username, email := username ++ "@example.com", password := "long enough" } "$long enough"

/-- The run of a single registration. -/
theorem run_registration (username : String) :
    Run (next symbolicJwt) freshStart [(freshStart, registration username)]
      (serve symbolicJwt freshStart 0 (registration username).request) :=
  .snoc .init rfl

/-- Without a registration of the name the theorem applies. -/
theorem superadmin_reserved_alice :
    Throughout (SubjectReserved symbolicJwt markedHash "root")
      [(freshStart, registration "alice")]
      (serve symbolicJwt freshStart 0 (registration "alice").request) :=
  (superadmin_reserved_iff (by decide) (run_registration "alice")).mpr
    ⟨fun registers => absurd registers.2 (by decide), trivial⟩

/-- Anyone becomes the superuser of a fresh database: register its name, log in. -/
theorem registered_superadmin :
    usernameTaken freshStart.db "root" = false ∧
      ∃ history state, Run (next symbolicJwt) freshStart history state ∧
        ∃ entry ∈ history, ∃ grant, issued symbolicJwt markedHash entry.1 entry.2 = some grant ∧
          SuperuserPayload "root" (grant.accessPayload entry.1.settings) := by
  refine ⟨by decide, [(serve symbolicJwt freshStart 0 (registration "root").request,
      { now := 1000000, request := .login "root" "long enough" "jti-1" }),
    (freshStart, registration "root")], _, (run_registration "root").snoc rfl, _,
    List.mem_cons_self, { sub := "root", tenantId := some 1, jti := "jti-1", issuedAt := 1000000 },
    by decide, "root", lookup_sub_access _ _, by decide⟩

end ApiObservatory.Auth
