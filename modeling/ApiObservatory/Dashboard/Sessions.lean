import ApiObservatory.Foundation.Json
import ApiObservatory.Foundation.Run
import ApiObservatory.Time
import Mathlib.Algebra.Order.Field.Rat
import Mathlib.Tactic.Linarith

/-
The session of a dashboard user (`services/dashboard/core/auth.py`).

Six operations update five fields. Some of them set the tokens only, so the expiry and the
logged-in flag that `is_valid` reads may belong to a token that is gone. `session_sound_iff` says
which calls keep them together.
-/

namespace ApiObservatory.Dashboard

open Foundation

/-- A token is a text, or what a response holds in its place. -/
structure AuthState where
  accessToken : Json := .string ""
  refreshToken : Json := .string ""
  username : String := ""
  loggedIn : Bool := false
  tokenExpiresAt : Option Rat := none
deriving DecidableEq

/-- `is_valid`, with the clock at `now`. -/
def AuthState.isValid (state : AuthState) (now : Rat) : Bool :=
  if !state.loggedIn || !truthy state.accessToken then false
  else
    match state.tokenExpiresAt with
    | some expiresAt => decide (now < expiresAt - 30)
    | none => true

/-- What a request comes to: an exception with its text, or a response, whose `json()` may raise. -/
inductive Exchange where
  | raised (error : String)
  | response (statusCode : Int) (text : String) (json : Except String Json)

/-! ### The operations -/

namespace AuthState

/-- The expiry after a call with `expires_in`. -/
def expiry (state : AuthState) (now : Rat) (expiresIn : Option Int) : Option Rat :=
  match expiresIn with
  | some expiresIn => some (now + expiresIn)
  | none => state.tokenExpiresAt

def login (state : AuthState) (now : Rat) (accessToken refreshToken : Json) (username : String)
    (expiresIn : Option Int) : AuthState where
  accessToken := accessToken
  refreshToken := refreshToken
  username := username
  loggedIn := truthy accessToken
  tokenExpiresAt := state.expiry now expiresIn

def setTokens (state : AuthState) (accessToken refreshToken : Json) : AuthState :=
  { state with accessToken, refreshToken }

/-- `logout`. -/
def cleared : AuthState := {}

def refresh (state : AuthState) (now : Rat) (newAccessToken newRefreshToken : Json)
    (expiresIn : Option Int) : AuthState :=
  { state with
    accessToken := newAccessToken
    refreshToken := newRefreshToken
    tokenExpiresAt := state.expiry now expiresIn
    loggedIn := truthy newAccessToken }

/-- `rotate_from_dict`, with its answer. -/
def rotateFromDict (state : AuthState) (body : List (String × Json)) : Bool × AuthState :=
  let access := (body.lookup "access_token").getD (.string "")
  if !truthy access then (false, cleared)
  else
    let refresh := (body.lookup "refresh_token").getD state.refreshToken
    (true, state.setTokens access refresh)

end AuthState

section Requests

/- The text of the `TypeError` of `body["access_token"]` for a body that is no object. -/
variable (subscriptError : Json → String)

/-- `body["access_token"]` and `body.get("refresh_token", "")`. -/
def tokensOf : Json → Except String (Json × Json)
  | .object fields =>
      match fields.lookup "access_token" with
      | some access => .ok (access, (fields.lookup "refresh_token").getD (.string ""))
      | none => .error "'access_token'"
  | body => .error (subscriptError body)

/-- `do_login`, with its error message. -/
def AuthState.doLogin (state : AuthState) (now : Rat) (username : String) (exchange : Exchange) :
    Option String × AuthState :=
  match exchange with
  | .response statusCode text json =>
      if statusCode = 200 then
        match json.bind (tokensOf subscriptError) with
        | .ok (access, refresh) => (none, state.login now access refresh username none)
        | .error exc => (some s!"Connection error: {exc}", state)
      else (some s!"Login failed ({statusCode}): {truncate 120 text}", state)
  | .raised exc => (some s!"Connection error: {exc}", state)

/-- The tokens of a successful response. -/
def Exchange.granted : Exchange → Option (Json × Json)
  | .response statusCode _ json =>
      if statusCode = 200 then (json.bind (tokensOf subscriptError)).toOption else none
  | .raised _ => none

/-- The tokens that `do_refresh` gets, if there is a refresh token to send. -/
def AuthState.refreshed (state : AuthState) (exchange : Exchange) : Option (Json × Json) :=
  if truthy state.refreshToken then exchange.granted subscriptError else none

/-- `do_refresh`, with its answer. -/
def AuthState.doRefresh (state : AuthState) (exchange : Exchange) : Bool × AuthState :=
  if !truthy state.refreshToken then (false, state)
  else
    match exchange.granted subscriptError with
    | some (access, refresh) => (true, state.setTokens access refresh)
    | none => (false, AuthState.cleared)

end Requests

/-! ### Sequences of calls -/

inductive Operation where
  | login (accessToken refreshToken : Json) (username : String) (expiresIn : Option Int)
  | doLogin (username : String) (exchange : Exchange)
  | refresh (newAccessToken newRefreshToken : Json) (expiresIn : Option Int)
  | doRefresh (exchange : Exchange)
  | rotateFromDict (body : List (String × Json))
  | logout

/-- A call, with the clock when it is made. -/
structure Call where
  operation : Operation
  now : Rat

/-- The session, and the clock of the last call. -/
structure Session where
  state : AuthState
  clock : Rat

section Calls

variable (subscriptError : Json → String)

def Operation.run (now : Rat) (state : AuthState) : Operation → AuthState
  | .login access renewal username expiresIn => state.login now access renewal username expiresIn
  | .doLogin username exchange => (state.doLogin subscriptError now username exchange).2
  | .refresh access renewal expiresIn => state.refresh now access renewal expiresIn
  | .doRefresh exchange => (state.doRefresh subscriptError exchange).2
  | .rotateFromDict body => (state.rotateFromDict body).2
  | .logout => AuthState.cleared

/-- The clock does not go back. -/
def next (session : Session) (call : Call) : Option Session :=
  if session.clock ≤ call.now then
    some ⟨call.operation.run subscriptError call.now session.state, call.now⟩
  else none

/-! ### What is asked of a session -/

/-- The tokens that a call puts into the session, with the expiry that was given with them. -/
def Operation.gives (now : Rat) (state : AuthState) : Operation → Option (Json × Json × Option Rat)
  | .login access renewal _ expiresIn => some (access, renewal, expiresIn.map fun n : Int => now + n)
  | .doLogin _ exchange =>
      (exchange.granted subscriptError).map fun tokens => (tokens.1, tokens.2, none)
  | .refresh access renewal expiresIn => some (access, renewal, expiresIn.map fun n : Int => now + n)
  | .doRefresh exchange =>
      (state.refreshed subscriptError exchange).map fun tokens => (tokens.1, tokens.2, none)
  | .rotateFromDict body =>
      let access := (body.lookup "access_token").getD (.string "")
      if truthy access then
        some (access, (body.lookup "refresh_token").getD state.refreshToken, none)
      else none
  | .logout => none

/-- The call says that it logged in or refreshed: `login` and `refresh` when they are given a token,
the others by their answer. -/
def Operation.succeeds (now : Rat) (state : AuthState) : Operation → Bool
  | .login access _ _ _ => truthy access
  | .doLogin username exchange => (state.doLogin subscriptError now username exchange).1.isNone
  | .refresh access _ _ => truthy access
  | .doRefresh exchange => (state.doRefresh subscriptError exchange).1
  | .rotateFromDict body => (state.rotateFromDict body).1
  | .logout => false

/-- The expiry that was given with the token that came last. -/
def expiryGiven : List (Session × Call) → Option Rat
  | [] => none
  | (session, call) :: earlier =>
      match call.operation.gives subscriptError call.now session.state with
      | some (_, _, expiresAt) => expiresAt
      | none => expiryGiven earlier

/-- What holds after every call. -/
structure Sound (history : List (Session × Call)) (session : Session) : Prop where
  /-- `do_refresh` returns `True` iff the session now holds the tokens of a successful response, and
  `False` only with the session cleared. -/
  refreshed : ∀ before exchange now earlier,
    history = (before, ⟨.doRefresh exchange, now⟩) :: earlier →
      ((before.state.doRefresh subscriptError exchange).1 = true ↔
        before.state.refreshed subscriptError exchange =
          some (session.state.accessToken, session.state.refreshToken)) ∧
      ((before.state.doRefresh subscriptError exchange).1 = false → session.state = AuthState.cleared)
  /-- A successful call without an expiry, or with one more than half a minute away, leaves a valid
  session. -/
  succeeded : ∀ before operation now earlier, history = (before, ⟨operation, now⟩) :: earlier →
    operation.succeeds subscriptError now before.state = true →
    (∀ expiresAt ∈ expiryGiven subscriptError history, now + 30 < expiresAt) →
    session.state.isValid now = true
  /-- From now on the session is valid as long as it holds a token, until half a minute before the
  expiry given with that token. -/
  valid : ∀ time, session.clock ≤ time → (session.state.isValid time = true ↔
    truthy session.state.accessToken = true ∧
      ∀ expiresAt ∈ expiryGiven subscriptError history, time < expiresAt - 30)

/-- The call does not leave the expiry or the flag of another token behind: a token given without
an expiry finds none, and where the flag is not set it is set already; what is reported as a success
gives a token; and `do_refresh` without a refresh token finds the session cleared. -/
def Keeps (_ : List (Session × Call)) (session : Session) (call : Call) : Prop :=
  match call.operation with
  | .login access _ _ expiresIn | .refresh access _ expiresIn =>
      truthy access = true → expiresIn.isSome = true ∨ session.state.tokenExpiresAt = none
  | .doLogin _ _ =>
      ∀ tokens ∈ call.operation.gives subscriptError call.now session.state,
        truthy tokens.1 = true ∧ session.state.tokenExpiresAt = none
  | .doRefresh _ =>
      (truthy session.state.refreshToken = false → session.state = AuthState.cleared) ∧
      ∀ tokens ∈ call.operation.gives subscriptError call.now session.state,
        truthy tokens.1 = true ∧ session.state.tokenExpiresAt = none ∧ session.state.loggedIn = true
  | .rotateFromDict _ =>
      ∀ tokens ∈ call.operation.gives subscriptError call.now session.state,
        session.state.tokenExpiresAt = none ∧ session.state.loggedIn = true
  | .logout => True

/-! ### When `is_valid` is true -/

theorem AuthState.isValid_iff (state : AuthState) (time : Rat) :
    state.isValid time = true ↔ state.loggedIn = true ∧ truthy state.accessToken = true ∧
      ∀ expiresAt ∈ state.tokenExpiresAt, time < expiresAt - 30 := by
  cases loggedIn : state.loggedIn <;> cases held : truthy state.accessToken <;>
    cases expiry : state.tokenExpiresAt <;> simp [AuthState.isValid, loggedIn, held, expiry]

/-- From `clock` on, the session is valid as long as it holds a token that was given with this
expiry. -/
def AuthState.ValidFrom (state : AuthState) (clock : Rat) (given : Option Rat) : Prop :=
  ∀ time, clock ≤ time → (state.isValid time = true ↔
    truthy state.accessToken = true ∧ ∀ expiresAt ∈ given, time < expiresAt - 30)

namespace AuthState

variable {state : AuthState} {clock : Rat}

theorem validFrom_of_not_held (none : truthy state.accessToken = false) (given : Option Rat) :
    state.ValidFrom clock given := by
  intro time _
  rw [state.isValid_iff]
  simp [none]

theorem validFrom_own (flag : truthy state.accessToken = true → state.loggedIn = true) :
    state.ValidFrom clock state.tokenExpiresAt := by
  intro time _
  rw [state.isValid_iff]
  exact ⟨fun valid => valid.2, fun valid => ⟨flag valid.1, valid⟩⟩

/-- A session that is left with an expiry becomes invalid, so a token given without one is valid
iff none is left and the flag is set. -/
theorem validFrom_none_iff (held : truthy state.accessToken = true) :
    state.ValidFrom clock none ↔ state.tokenExpiresAt = none ∧ state.loggedIn = true := by
  constructor
  · intro valid
    have always : ∀ time, clock ≤ time → state.isValid time = true := fun time late =>
      (valid time late).mpr ⟨held, by simp⟩
    constructor
    · cases expiry : state.tokenExpiresAt with
      | none => rfl
      | some expiresAt =>
        have late := (state.isValid_iff _).mp (always (max clock expiresAt) (le_max_left _ _))
        have passed : expiresAt ≤ max clock expiresAt := le_max_right _ _
        have := late.2.2 expiresAt expiry
        linarith
    · exact ((state.isValid_iff _).mp (always clock le_rfl)).1
  · rintro ⟨expiry, flag⟩
    rw [← expiry]
    exact validFrom_own fun _ => flag

theorem ValidFrom.later {given : Option Rat} {now : Rat} (valid : state.ValidFrom clock given)
    (later : clock ≤ now) : state.ValidFrom now given :=
  fun time late => valid time (later.trans late)

/-- Half a minute is enough. -/
theorem ValidFrom.isValid {given : Option Rat} (valid : state.ValidFrom clock given)
    (held : truthy state.accessToken = true)
    (ample : ∀ expiresAt ∈ given, clock + 30 < expiresAt) : state.isValid clock = true := by
  refine (valid clock le_rfl).mpr ⟨held, fun expiresAt found => ?_⟩
  have := ample expiresAt found
  linarith

theorem cleared_validFrom (clock : Rat) (given : Option Rat) : cleared.ValidFrom clock given :=
  validFrom_of_not_held rfl given

end AuthState

/-! ### One call -/

/-- The two clauses about the call, and the one about the session it leaves. -/
theorem sound_cons_iff {before session : Session} {operation : Operation} {now : Rat}
    {earlier : List (Session × Call)} :
    Sound subscriptError ((before, ⟨operation, now⟩) :: earlier) session ↔
      (∀ exchange, operation = .doRefresh exchange →
        ((before.state.doRefresh subscriptError exchange).1 = true ↔
          before.state.refreshed subscriptError exchange =
            some (session.state.accessToken, session.state.refreshToken)) ∧
        ((before.state.doRefresh subscriptError exchange).1 = false →
          session.state = AuthState.cleared)) ∧
      (operation.succeeds subscriptError now before.state = true →
        (∀ expiresAt ∈ expiryGiven subscriptError ((before, ⟨operation, now⟩) :: earlier),
          now + 30 < expiresAt) → session.state.isValid now = true) ∧
      session.state.ValidFrom session.clock
        (expiryGiven subscriptError ((before, ⟨operation, now⟩) :: earlier)) := by
  constructor
  · intro sound
    exact ⟨fun exchange same => sound.refreshed before exchange now earlier (by rw [same]),
      sound.succeeded before operation now earlier rfl, sound.valid⟩
  · rintro ⟨refreshed, succeeded, valid⟩
    refine ⟨?_, ?_, valid⟩
    · rintro _ exchange _ _ ⟨rfl, rfl⟩
      exact refreshed exchange rfl
    · rintro _ _ _ _ ⟨rfl, rfl⟩
      exact succeeded

section Step

attribute [local simp] expiryGiven

variable {before : Session} {now : Rat} {earlier : List (Session × Call)} {after : AuthState}

/-- Of a call that succeeds with a token only, and is not `do_refresh`, the last clause is what is
left. -/
theorem sound_iff_validFrom {operation : Operation}
    (other : ∀ exchange, operation ≠ .doRefresh exchange)
    (holds : operation.succeeds subscriptError now before.state = true →
      truthy after.accessToken = true) :
    Sound subscriptError ((before, ⟨operation, now⟩) :: earlier) ⟨after, now⟩ ↔
      after.ValidFrom now (expiryGiven subscriptError ((before, ⟨operation, now⟩) :: earlier)) := by
  rw [sound_cons_iff]
  constructor
  · exact fun clauses => clauses.2.2
  · intro valid
    exact ⟨fun exchange same => absurd same (other exchange),
      fun succeeds ample => valid.isValid (holds succeeds) ample, valid⟩

variable (before) in
/-- The expiry is the one given with the token, unless an earlier one is left behind. -/
theorem validFrom_expiry_iff {expiresIn : Option Int}
    (flag : after.loggedIn = truthy after.accessToken)
    (expiry : after.tokenExpiresAt = before.state.expiry now expiresIn) :
    after.ValidFrom now (expiresIn.map fun n : Int => now + n) ↔
      (truthy after.accessToken = true →
        expiresIn.isSome = true ∨ before.state.tokenExpiresAt = none) := by
  cases expiresIn with
  | some n =>
    have own : after.ValidFrom now after.tokenExpiresAt := AuthState.validFrom_own fun held => by
      rw [flag, held]
    rw [expiry] at own
    exact iff_of_true own fun _ => .inl rfl
  | none =>
    by_cases held : truthy after.accessToken = true
    · rw [Option.map_none, AuthState.validFrom_none_iff held, expiry, flag]
      simp [AuthState.expiry, held]
    · exact iff_of_true (AuthState.validFrom_of_not_held (by simpa using held) _)
        fun truth => absurd truth held

variable (now after) in
/-- A call that gives a token without an expiry and reports a success. -/
theorem gives_validFrom_iff :
    ((∀ expiresAt ∈ (none : Option Rat), now + 30 < expiresAt) → after.isValid now = true) ∧
        after.ValidFrom now none ↔
      truthy after.accessToken = true ∧ after.tokenExpiresAt = none ∧ after.loggedIn = true := by
  constructor
  · rintro ⟨succeeded, valid⟩
    have held := ((after.isValid_iff now).mp (succeeded (by simp))).2.1
    exact ⟨held, (AuthState.validFrom_none_iff held).mp valid⟩
  · rintro ⟨held, own⟩
    have valid : after.ValidFrom now none := (AuthState.validFrom_none_iff held).mpr own
    exact ⟨valid.isValid held, valid⟩

theorem login_sound_iff (access renewal : Json) (username : String) (expiresIn : Option Int) :
    Sound subscriptError ((before, ⟨.login access renewal username expiresIn, now⟩) :: earlier)
        ⟨before.state.login now access renewal username expiresIn, now⟩ ↔
      (truthy access = true → expiresIn.isSome = true ∨ before.state.tokenExpiresAt = none) := by
  rw [sound_iff_validFrom subscriptError (by simp) (by simp [Operation.succeeds, AuthState.login])]
  exact validFrom_expiry_iff before rfl rfl

theorem refresh_sound_iff (access renewal : Json) (expiresIn : Option Int) :
    Sound subscriptError ((before, ⟨.refresh access renewal expiresIn, now⟩) :: earlier)
        ⟨before.state.refresh now access renewal expiresIn, now⟩ ↔
      (truthy access = true → expiresIn.isSome = true ∨ before.state.tokenExpiresAt = none) := by
  rw [sound_iff_validFrom subscriptError (by simp) (by simp [Operation.succeeds, AuthState.refresh])]
  exact validFrom_expiry_iff before rfl rfl

theorem logout_sound :
    Sound subscriptError ((before, ⟨.logout, now⟩) :: earlier) ⟨AuthState.cleared, now⟩ := by
  rw [sound_iff_validFrom subscriptError (by simp) (by simp [Operation.succeeds])]
  exact AuthState.cleared_validFrom _ _

/-- A call that gives no token and reports no success, and leaves the session as it is. -/
theorem sound_unchanged {operation : Operation} (sound : Sound subscriptError earlier before)
    (later : before.clock ≤ now) (other : ∀ exchange, operation ≠ .doRefresh exchange)
    (nothing : operation.gives subscriptError now before.state = none)
    (fails : operation.succeeds subscriptError now before.state = false) :
    Sound subscriptError ((before, ⟨operation, now⟩) :: earlier) ⟨before.state, now⟩ := by
  rw [sound_iff_validFrom subscriptError other (by simp [fails])]
  have valid : before.state.ValidFrom before.clock (expiryGiven subscriptError earlier) := sound.valid
  simpa only [expiryGiven, nothing] using valid.later later

/-- A call that gives a token without an expiry, and reports a success with it. -/
theorem sound_of_gives {operation : Operation} {access renewal : Json}
    (other : ∀ exchange, operation ≠ .doRefresh exchange)
    (gives : operation.gives subscriptError now before.state = some (access, renewal, none))
    (succeeds : operation.succeeds subscriptError now before.state = true) :
    Sound subscriptError ((before, ⟨operation, now⟩) :: earlier) ⟨after, now⟩ ↔
      truthy after.accessToken = true ∧ after.tokenExpiresAt = none ∧ after.loggedIn = true := by
  have given : expiryGiven subscriptError ((before, ⟨operation, now⟩) :: earlier) = none := by
    simp [gives]
  rw [sound_cons_iff, given, ← gives_validFrom_iff now after]
  constructor
  · rintro ⟨-, succeeded, valid⟩
    exact ⟨succeeded succeeds, valid⟩
  · rintro ⟨succeeded, valid⟩
    exact ⟨fun exchange same => absurd same (other exchange), fun _ => succeeded, valid⟩

variable (now) in
/-- A 200 response whose tokens can be read is the only one that `do_login` succeeds with. -/
theorem AuthState.doLogin_of_granted (state : AuthState) (username : String) {exchange : Exchange}
    {access renewal : Json} (granted : exchange.granted subscriptError = some (access, renewal)) :
    state.doLogin subscriptError now username exchange =
      (none, state.login now access renewal username none) := by
  cases exchange with
  | raised => simp [Exchange.granted] at granted
  | response statusCode text json =>
    simp only [Exchange.granted] at granted
    split at granted
    · rename_i ok
      cases read : json.bind (tokensOf subscriptError) with
      | error => simp [read, Except.toOption] at granted
      | ok tokens =>
        obtain rfl : tokens = (access, renewal) := by simpa [read, Except.toOption] using granted
        simp [AuthState.doLogin, ok, read]
    · cases granted

variable (now) in
theorem AuthState.doLogin_of_not_granted (state : AuthState) (username : String)
    {exchange : Exchange} (refused : exchange.granted subscriptError = none) :
    (state.doLogin subscriptError now username exchange).1.isNone = false ∧
      (state.doLogin subscriptError now username exchange).2 = state := by
  cases exchange with
  | raised => exact ⟨rfl, rfl⟩
  | response statusCode text json =>
    simp only [Exchange.granted] at refused
    split at refused
    · rename_i ok
      cases read : json.bind (tokensOf subscriptError) with
      | error => simp [AuthState.doLogin, ok, read]
      | ok => simp [read, Except.toOption] at refused
    · rename_i failed
      simp [AuthState.doLogin, failed]

theorem doLogin_sound_iff (sound : Sound subscriptError earlier before)
    (later : before.clock ≤ now) (username : String) (exchange : Exchange) :
    Sound subscriptError ((before, ⟨.doLogin username exchange, now⟩) :: earlier)
        ⟨(before.state.doLogin subscriptError now username exchange).2, now⟩ ↔
      ∀ tokens ∈ (Operation.doLogin username exchange).gives subscriptError now before.state,
        truthy tokens.1 = true ∧ before.state.tokenExpiresAt = none := by
  cases granted : exchange.granted subscriptError with
  | none =>
    obtain ⟨fails, same⟩ := before.state.doLogin_of_not_granted subscriptError now username
      granted
    rw [same]
    have nothing : (Operation.doLogin username exchange).gives subscriptError now before.state =
        none := by simp [Operation.gives, granted]
    refine iff_of_true (sound_unchanged subscriptError sound later (by simp) nothing fails) ?_
    simp [nothing]
  | some tokens =>
    obtain ⟨access, renewal⟩ := tokens
    have done := before.state.doLogin_of_granted subscriptError now username granted
    have gives : (Operation.doLogin username exchange).gives subscriptError now before.state =
        some (access, renewal, none) := by simp [Operation.gives, granted]
    rw [done, sound_of_gives subscriptError (by simp) gives (by simp [Operation.succeeds, done]),
      gives]
    simp only [AuthState.login, AuthState.expiry, Option.mem_def, Option.some.injEq, forall_eq']
    tauto

theorem rotateFromDict_sound_iff (body : List (String × Json)) :
    Sound subscriptError ((before, ⟨.rotateFromDict body, now⟩) :: earlier)
        ⟨(before.state.rotateFromDict body).2, now⟩ ↔
      ∀ tokens ∈ (Operation.rotateFromDict body).gives subscriptError now before.state,
        before.state.tokenExpiresAt = none ∧ before.state.loggedIn = true := by
  by_cases held : truthy ((body.lookup "access_token").getD (.string "")) = true
  · have gives : (Operation.rotateFromDict body).gives subscriptError now before.state =
        some ((body.lookup "access_token").getD (.string ""),
          (body.lookup "refresh_token").getD before.state.refreshToken, none) := by
      simp [Operation.gives, held]
    have succeeds : (Operation.rotateFromDict body).succeeds subscriptError now before.state =
        true := by simp [Operation.succeeds, AuthState.rotateFromDict, held]
    rw [sound_of_gives subscriptError (by simp) gives succeeds, gives]
    simp [AuthState.rotateFromDict, AuthState.setTokens, held]
  · have nothing : (Operation.rotateFromDict body).gives subscriptError now before.state = none := by
      simp [Operation.gives, held]
    have fails : before.state.rotateFromDict body = (false, AuthState.cleared) := by
      simp [AuthState.rotateFromDict, held]
    rw [nothing, fails]
    refine iff_of_true ?_ (by simp)
    rw [sound_iff_validFrom subscriptError (by simp) (by simp [Operation.succeeds, fails])]
    exact AuthState.cleared_validFrom _ _

section Renewals

variable {exchange : Exchange}

/-- Without a refresh token `do_refresh` answers `False` and leaves the session as it is. -/
theorem doRefresh_unsent_sound_iff (sound : Sound subscriptError earlier before)
    (later : before.clock ≤ now) (unsent : truthy before.state.refreshToken = false) :
    Sound subscriptError ((before, ⟨.doRefresh exchange, now⟩) :: earlier) ⟨before.state, now⟩ ↔
      before.state = AuthState.cleared := by
  have refused : before.state.refreshed subscriptError exchange = none := by
    simp [AuthState.refreshed, unsent]
  have nothing : (Operation.doRefresh exchange).gives subscriptError now before.state = none := by
    simp [Operation.gives, refused]
  have fails : before.state.doRefresh subscriptError exchange = (false, before.state) := by
    simp [AuthState.doRefresh, unsent]
  have valid : before.state.ValidFrom before.clock (expiryGiven subscriptError earlier) := sound.valid
  rw [sound_cons_iff]
  constructor
  · rintro ⟨answer, -⟩
    exact (answer exchange rfl).2 (by simp [fails])
  · intro cleared
    refine ⟨?_, by simp [Operation.succeeds, fails], ?_⟩
    · rintro _ ⟨rfl⟩
      exact ⟨by simp [fails, refused], fun _ => cleared⟩
    · simpa only [expiryGiven, nothing] using valid.later later

theorem doRefresh_refused_sound (sends : truthy before.state.refreshToken = true)
    (granted : exchange.granted subscriptError = none) :
    Sound subscriptError ((before, ⟨.doRefresh exchange, now⟩) :: earlier)
      ⟨AuthState.cleared, now⟩ := by
  have fails : before.state.doRefresh subscriptError exchange = (false, AuthState.cleared) := by
    simp [AuthState.doRefresh, sends, granted]
  refine (sound_cons_iff subscriptError).mpr ⟨?_, ?_, ?_⟩
  · rintro _ ⟨rfl⟩
    simp [fails, AuthState.refreshed, granted]
  · simp [Operation.succeeds, fails]
  · exact AuthState.cleared_validFrom _ _

/-- New tokens leave the expiry and the flag as they are. -/
theorem doRefresh_granted_sound_iff {access renewal : Json}
    (sends : truthy before.state.refreshToken = true)
    (granted : exchange.granted subscriptError = some (access, renewal)) :
    Sound subscriptError ((before, ⟨.doRefresh exchange, now⟩) :: earlier)
        ⟨before.state.setTokens access renewal, now⟩ ↔
      truthy access = true ∧ before.state.tokenExpiresAt = none ∧ before.state.loggedIn = true := by
  have gives : (Operation.doRefresh exchange).gives subscriptError now before.state =
      some (access, renewal, none) := by
    simp [Operation.gives, AuthState.refreshed, sends, granted]
  have done : before.state.doRefresh subscriptError exchange =
      (true, before.state.setTokens access renewal) := by
    simp [AuthState.doRefresh, sends, granted]
  have given : expiryGiven subscriptError ((before, ⟨.doRefresh exchange, now⟩) :: earlier) =
      none := by simp [gives]
  have own := gives_validFrom_iff now (before.state.setTokens access renewal)
  rw [sound_cons_iff, given]
  constructor
  · rintro ⟨-, succeeded, valid⟩
    exact own.mp ⟨succeeded (by simp [Operation.succeeds, done]), valid⟩
  · intro held
    have valid := own.mpr held
    refine ⟨?_, fun _ => valid.1, valid.2⟩
    rintro _ ⟨rfl⟩
    simp [done, AuthState.refreshed, sends, granted, AuthState.setTokens]

theorem doRefresh_sound_iff (sound : Sound subscriptError earlier before)
    (later : before.clock ≤ now) (exchange : Exchange) :
    Sound subscriptError ((before, ⟨.doRefresh exchange, now⟩) :: earlier)
        ⟨(before.state.doRefresh subscriptError exchange).2, now⟩ ↔
      (truthy before.state.refreshToken = false → before.state = AuthState.cleared) ∧
        ∀ tokens ∈ (Operation.doRefresh exchange).gives subscriptError now before.state,
          truthy tokens.1 = true ∧ before.state.tokenExpiresAt = none ∧
            before.state.loggedIn = true := by
  cases sends : truthy before.state.refreshToken with
  | false =>
    rw [AuthState.doRefresh, sends]
    refine (doRefresh_unsent_sound_iff subscriptError sound later sends).trans ?_
    simp [Operation.gives, AuthState.refreshed, sends]
  | true =>
    cases granted : exchange.granted subscriptError with
    | none =>
      have fails : before.state.doRefresh subscriptError exchange = (false, AuthState.cleared) := by
        simp [AuthState.doRefresh, sends, granted]
      rw [fails]
      refine iff_of_true (doRefresh_refused_sound subscriptError sends granted) ?_
      simp [Operation.gives, AuthState.refreshed, granted]
    | some tokens =>
      have done : before.state.doRefresh subscriptError exchange =
          (true, before.state.setTokens tokens.1 tokens.2) := by
        simp [AuthState.doRefresh, sends, granted]
      rw [done]
      refine (doRefresh_granted_sound_iff subscriptError sends granted).trans ?_
      simp [Operation.gives, AuthState.refreshed, sends, granted]

end Renewals

end Step

/-! ### Every run -/

/-- A manager that has just been made. -/
def Session.new (clock : Rat) : Session := ⟨{}, clock⟩

theorem sound_new (clock : Rat) : Sound subscriptError [] (Session.new clock) where
  refreshed := by simp
  succeeded := by simp
  valid := AuthState.cleared_validFrom _ _

theorem sound_next_iff {history : List (Session × Call)} {session after : Session} {call : Call}
    (sound : Sound subscriptError history session)
    (step : next subscriptError session call = some after) :
    Sound subscriptError ((session, call) :: history) after ↔
      Keeps subscriptError history session call := by
  obtain ⟨operation, now⟩ := call
  simp only [next, Option.ite_none_right_eq_some, Option.some.injEq] at step
  obtain ⟨later, rfl⟩ := step
  cases operation with
  | login access renewal username expiresIn =>
    exact login_sound_iff subscriptError access renewal username expiresIn
  | doLogin username exchange =>
    exact doLogin_sound_iff subscriptError sound later username exchange
  | refresh access renewal expiresIn =>
    exact refresh_sound_iff subscriptError access renewal expiresIn
  | doRefresh exchange => exact doRefresh_sound_iff subscriptError sound later exchange
  | rotateFromDict body => exact rotateFromDict_sound_iff subscriptError body
  | logout => exact iff_of_true (logout_sound subscriptError) trivial

/-- **The session is sound after every call iff no call leaves the expiry or the flag of another
token behind.** -/
theorem session_sound_iff {clock : Rat} {history : List (Session × Call)} {session : Session}
    (run : Run (next subscriptError) (Session.new clock) history session) :
    Throughout (Sound subscriptError) history session ↔ Meets (Keeps subscriptError) history :=
  run.throughout_iff_meets (sound_new subscriptError clock) fun _ sound step =>
    sound_next_iff subscriptError sound step

end Calls

/-! ### A session that goes on, and one that stops -/

/-- The tokens of a response of the ingestor. -/
def renewed (access renewal : String) : Exchange :=
  .response 200 "" (.ok (.object [("access_token", .string access),
    ("refresh_token", .string renewal), ("token_type", .string "bearer")]))

/-- A login and a refresh whose responses give no expiry. -/
def renewals : List Call :=
  [⟨.doLogin "u" (renewed "a" "r"), 0⟩, ⟨.doRefresh (renewed "b" "s"), 100⟩]

/-- A login for a minute, and a refresh after it. -/
def lateRenewal : List Call :=
  [⟨.login (.string "a") (.string "r") "u" (some 60), 0⟩, ⟨.doRefresh (renewed "b" "s"), 100⟩]

theorem session_sound_iff_renewals : ∃ history session,
    Run (next fun _ => "") (Session.new 0) history session ∧
      history.map Prod.snd = renewals.reverse ∧
      (Throughout (Sound fun _ => "") history session ↔ Meets (Keeps fun _ => "") history) := by
  have run : Run (next fun _ => "") (Session.new 0) _ _ := execute_run .init
    (rfl : execute (next fun _ => "") [] (Session.new 0) renewals = some (_, _))
  exact ⟨_, _, run, rfl, session_sound_iff _ run⟩

/-- The refresh succeeds, but the session keeps the expiry of the token that is gone. -/
theorem renewed_session_invalid : ∃ history session,
    Run (next fun _ => "") (Session.new 0) history session ∧
      history.map Prod.snd = lateRenewal.reverse ∧ ¬ Sound (fun _ => "") history session := by
  have run : Run (next fun _ => "") (Session.new 0) _ _ := execute_run .init
    (rfl : execute (next fun _ => "") [] (Session.new 0) lateRenewal = some (_, _))
  refine ⟨_, _, run, rfl, fun sound => ?_⟩
  have valid := sound.succeeded _ _ _ _ rfl (by decide)
    (by intro expiresAt found; cases found)
  exact absurd valid (by decide +kernel)

end ApiObservatory.Dashboard
