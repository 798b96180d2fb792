import ApiObservatory.Foundation.Run
import ApiObservatory.Security.TokenKinds
import ApiObservatory.Users.Routes

/-
The public routes of accounts and tokens (`services/ingestor/api/routes/auth.py`),
and the bootstrap of the superadmin (`services/ingestor/core/bootstrap.py`).

The hasher of the passwords is a parameter, and so is the library of the tokens.
A response of tokens is given by its `Grant`, from which both tokens are made.
-/

namespace ApiObservatory.Auth

open Foundation Security Users

/-- `PasswordHash.verify`, by password and hash; `none` is `UnknownHashError`. -/
abbrev PasswordVerifier := String → String → Option Bool

/-- A hasher that marks its passwords. -/
def markedHash : PasswordVerifier := fun password hash => some (hash == "$" ++ password)

/-! ### Accounts -/

/-- `register`; `passwordHash` is the hash of the password of the body. -/
def register (db : UserDb) (body : UserCreate) (passwordHash : String) : Answer UserResponse :=
  if body.valid then
    match createUser db body.username body.email passwordHash "user" none with
    | .error _ => (db, .error (.httpException 409 "Username or email already registered."))
    | .ok (db, userId, user) => (db, .ok (userResponse userId user "user"))
  else (db, .error .requestValidation)

structure SuperadminSettings where
  superadminSubject : String := "root"
  superadminPassword : Option String := none
  superadminEmail : Option String := none

/-- `settings.superadmin_email or f"{subject}@example.com"`. -/
def superadminAddress (settings : SuperadminSettings) : String :=
  let given := settings.superadminEmail.getD ""
  if given = "" then settings.superadminSubject ++ "@example.com" else given

/-- `ensure_superadmin`: the row of the superadmin, without tenant and role. -/
def ensureSuperadmin (db : UserDb) (settings : SuperadminSettings) (passwordHash : String) :
    UserDb × Option (Nat × User) :=
  if settings.superadminPassword.getD "" = "" then (db, none)
  else
    match getUserByUsername db settings.superadminSubject with
    | some existing => (db, some existing)
    | none =>
        let email := superadminAddress settings
        if usernameTaken db settings.superadminSubject || emailTaken db db.users.nextId email then
          (db, none)
        else
          let user : User :=
            { username := settings.superadminSubject, email, passwordHash, tenantId := none }
          ({ db with users := db.users.insert user }, some (db.users.nextId, user))

/-! ### Tokens -/

/-- What the two tokens of a response are made from. -/
structure Grant where
  sub : String
  tenantId : Option Nat
  jti : String
  issuedAt : Int
deriving DecidableEq

def Grant.accessPayload (settings : JwtSettings) (grant : Grant) : TokenPayload :=
  Security.accessPayload settings grant.sub (tenantClaim grant.tenantId) grant.issuedAt

def Grant.refreshPayload (settings : JwtSettings) (grant : Grant) : TokenPayload :=
  Security.refreshPayload settings grant.sub (tenantClaim grant.tenantId) grant.jti grant.issuedAt

theorem lookup_sub_access (settings : JwtSettings) (grant : Grant) :
    (grant.accessPayload settings).lookup "sub" = some (.string grant.sub) :=
  lookup_accessPayload (by decide)

theorem lookup_sub_refresh (settings : JwtSettings) (grant : Grant) :
    (grant.refreshPayload settings).lookup "sub" = some (.string grant.sub) :=
  lookup_refreshPayload (by decide)

section Tokens

variable {Token : Type} (jwt : PyJwt Token)

structure TokenResponse (Token : Type) where
  accessToken : Token
  refreshToken : Token

def Grant.response (settings : JwtSettings) (grant : Grant) : TokenResponse Token where
  accessToken :=
    createJwtToken jwt settings grant.sub (tenantClaim grant.tenantId) grant.issuedAt
  refreshToken :=
    createRefreshToken jwt settings grant.sub (tenantClaim grant.tenantId) grant.jti grant.issuedAt

def invalidCredentials : AuthError := unauthorized "Invalid credentials."

def userInactive : AuthError := unauthorized "User not found or inactive."

/-- `login`, without the session and its cookie. -/
def login (verify : PasswordVerifier) (db : UserDb) (username password jti : String) (now : Int) :
    Except AuthError Grant :=
  match getUserByUsername db username with
  | none => .error invalidCredentials
  | some (_, user) =>
      if (verify password user.passwordHash).getD false then
        .ok { sub := user.username, tenantId := user.tenantId, jti, issuedAt := now }
      else .error invalidCredentials

/-- `revoke_refresh_token`, which only logs. -/
def revokeRefreshToken (db : UserDb) (_jti : Json) : UserDb := db

/-- `if jti: await revoke_refresh_token(jti)`. -/
def revokeClaimed (db : UserDb) (claims : TokenPayload) : UserDb :=
  match claims.lookup "jti" with
  | some jti => if truthy jti then revokeRefreshToken db jti else db
  | none => db

/-- `logout`, without the session; a text that is no token is discarded. -/
def logout (db : UserDb) (refreshToken : Option Token) : UserDb :=
  match refreshToken.bind jwt.unverified with
  | none => db
  | some unverified => revokeClaimed db unverified

/-- `refresh`. The database refuses a subject that is not a string. -/
def refresh (settings : JwtSettings) (db : UserDb) (refreshToken : Token) (jti : String)
    (now : Int) : UserDb × Except AuthError Grant :=
  match verifyRefreshToken jwt settings refreshToken now with
  | .error error => (db, .error error)
  | .ok claims =>
      match (claims.lookup "sub").getD (.string "") with
      | .string username =>
          match getUserByUsername db username with
          | none => (db, .error userInactive)
          | some (_, user) =>
              (revokeClaimed db claims,
                .ok { sub := username, tenantId := user.tenantId, jti, issuedAt := now })
      | _ => (db, .error .uncaught)

/-! ### Sequences of requests -/

structure State where
  db : UserDb
  settings : JwtSettings
  clock : Int

/-- The requests of any clients, and the rotation of the secrets. `jti` is the
fresh id of the refresh token that is made. -/
inductive Request (Token : Type) where
  | register (body : UserCreate) (passwordHash : String)
  | login (username password jti : String)
  | refresh (refreshToken : Token) (jti : String)
  | logout (refreshToken : Option Token)
  | rotate (jwtSecret jwtPreviousSecrets : String)

/-- A request and its time. -/
structure Event (Token : Type) where
  now : Int
  request : Request Token

variable (verify : PasswordVerifier)

/-- The state after a request. -/
def serve (state : State) (now : Int) : Request Token → State
  | .register body passwordHash =>
      { state with db := (register state.db body passwordHash).1, clock := now }
  | .login _ _ _ => { state with clock := now }
  | .refresh refreshToken jti =>
      { state with
        db := (refresh jwt state.settings state.db refreshToken jti now).1
        clock := now }
  | .logout refreshToken => { state with db := logout jwt state.db refreshToken, clock := now }
  | .rotate jwtSecret jwtPreviousSecrets =>
      { state with
        settings := { state.settings with jwtSecret, jwtPreviousSecrets }
        clock := now }

/-- One step; the clock does not run backwards. -/
def next (state : State) (event : Event Token) : Option State :=
  if state.clock ≤ event.now then some (serve jwt state event.now event.request) else none

/-- What a step issues. -/
def issued (state : State) (event : Event Token) : Option Grant :=
  match event.request with
  | .login username password jti =>
      (login verify state.db username password jti event.now).toOption
  | .refresh refreshToken jti =>
      (refresh jwt state.settings state.db refreshToken jti event.now).2.toOption
  | _ => none

end Tokens

/-! ### What the routes change -/

section Effects

variable {Token : Type} {jwt : PyJwt Token} {verify : PasswordVerifier} {db : UserDb}

@[simp] theorem revokeClaimed_eq (claims : TokenPayload) : revokeClaimed db claims = db := by
  unfold revokeClaimed
  split
  · split <;> rfl
  · rfl

/-- A logout leaves no trace. -/
@[simp] theorem logout_eq (refreshToken : Option Token) : logout jwt db refreshToken = db := by
  unfold logout
  split
  · rfl
  · exact revokeClaimed_eq _

@[simp] theorem refresh_db (settings : JwtSettings) (refreshToken : Token) (jti : String)
    (now : Int) : (refresh jwt settings db refreshToken jti now).1 = db := by
  unfold refresh
  split
  · rfl
  · split
    · split
      · rfl
      · exact revokeClaimed_eq _
    · rfl

theorem getUserByUsername_some {username : String} {entry : Nat × User}
    (found : getUserByUsername db username = some entry) :
    db.users.get entry.1 = some entry.2 ∧ entry.2.username = username ∧
      entry.2.isActive = true := by
  have mem := Rows.mem_toList.mp (List.mem_of_find?_eq_some found)
  have matched := List.find?_some found
  simp only [Bool.and_eq_true, beq_iff_eq] at matched
  exact ⟨mem, matched⟩

theorem login_ok {username password jti : String} {now : Int} {grant : Grant}
    (success : login verify db username password jti now = .ok grant) :
    ∃ entry, getUserByUsername db username = some entry ∧
      grant = { sub := username, tenantId := entry.2.tenantId, jti, issuedAt := now } := by
  unfold login at success
  split at success
  · cases success
  · rename_i userId user found
    split at success
    · refine ⟨(userId, user), found, ?_⟩
      rw [← Except.ok.inj success, (getUserByUsername_some found).2.1]
    · cases success

theorem refresh_ok {settings : JwtSettings} {refreshToken : Token} {jti : String} {now : Int}
    {grant : Grant} (success : (refresh jwt settings db refreshToken jti now).2 = .ok grant) :
    ∃ claims entry,
      verifyRefreshToken jwt settings refreshToken now = .ok claims ∧
      (claims.lookup "sub").getD (.string "") = .string grant.sub ∧
      getUserByUsername db grant.sub = some entry ∧
      grant = { sub := grant.sub, tenantId := entry.2.tenantId, jti, issuedAt := now } := by
  unfold refresh at success
  split at success
  · cases success
  · rename_i claims verified
    split at success
    · rename_i username named
      split at success
      · cases success
      · rename_i userId user found
        obtain rfl := Except.ok.inj success
        exact ⟨claims, (userId, user), verified, named, found, rfl⟩
    · cases success

/-- Tokens are only issued to an active user under its name. -/
theorem issued_sub {state : State} {event : Event Token} {grant : Grant}
    (issues : issued jwt verify state event = some grant) :
    ∃ entry, getUserByUsername state.db grant.sub = some entry := by
  unfold issued at issues
  split at issues
  · obtain ⟨entry, found, rfl⟩ := login_ok (ok_of_toOption issues)
    exact ⟨entry, found⟩
  · obtain ⟨-, entry, -, -, found, -⟩ := refresh_ok (ok_of_toOption issues)
    exact ⟨entry, found⟩
  · cases issues

end Effects

end ApiObservatory.Auth
