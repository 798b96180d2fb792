import ApiObservatory.Auth.Routes

/-
Refresh tokens over a history of requests.

`refresh` announces a rotation and calls `revoke_refresh_token`, and so does
`logout`; but that function only logs. What a request gets for an issued token
therefore depends on the token, the window of the secrets, the clock and the user,
and never on the history. `refresh_single_use_iff` says in which histories nobody
can tell.
-/

namespace ApiObservatory.Auth

open Foundation Security Users

/-! ### The answer to an issued token -/

section Answer

variable {Token : Type} {jwt : PyJwt Token}

/-- A token made with earlier settings is good: its secret is in the window, it is
not expired, and its user is active. -/
structure Live (made : JwtSettings) (grant : Grant) (state : State) (now : Int) : Prop where
  window : made.jwtSecret ∈ jwtVerificationSecrets state.settings
  early : now < expiresAt (made.jwtRefreshTtlDays * 86400) grant.issuedAt
  user : (getUserByUsername state.db grant.sub).isSome = true

/-- The refresh token of a grant. -/
def Grant.refreshToken (jwt : PyJwt Token) (made : JwtSettings) (grant : Grant) : Token :=
  (grant.response jwt made).refreshToken

variable {made : JwtSettings} {grant : Grant} {state : State} {now : Int}

/-- The payload of a token of the window, before it expires. -/
theorem verifyRefreshToken_issued (lawful : jwt.Lawful) {settings : JwtSettings}
    (algorithm : made.jwtAlgorithm = settings.jwtAlgorithm) (past : grant.issuedAt ≤ now)
    (window : made.jwtSecret ∈ jwtVerificationSecrets settings)
    (early : now < expiresAt (made.jwtRefreshTtlDays * 86400) grant.issuedAt) :
    verifyRefreshToken jwt settings (grant.refreshToken jwt made) now =
      .ok (grant.refreshPayload made) :=
  (refresh_token_in_window lawful numericValue_repr window algorithm past early).1

/-- A good token is exchanged, whatever happened to it before. -/
theorem refresh_of_live (lawful : jwt.Lawful)
    (algorithm : made.jwtAlgorithm = state.settings.jwtAlgorithm) (past : grant.issuedAt ≤ now)
    (live : Live made grant state now) (jti : String) :
    ∃ new, (refresh jwt state.settings state.db (grant.refreshToken jwt made) jti now).2 =
      .ok new := by
  obtain ⟨user, found⟩ := Option.isSome_iff_exists.mp live.user
  rw [refresh, verifyRefreshToken_issued lawful algorithm past live.window live.early]
  simp only [lookup_sub_refresh, Option.getD_some, found]
  exact ⟨_, rfl⟩

/-- Any other issued token is answered 401. -/
theorem refresh_of_not_live (lawful : jwt.Lawful)
    (algorithm : made.jwtAlgorithm = state.settings.jwtAlgorithm) (past : grant.issuedAt ≤ now)
    (dead : ¬ Live made grant state now) (jti : String) :
    ∃ detail, (refresh jwt state.settings state.db (grant.refreshToken jwt made) jti now).2 =
      .error (unauthorized detail) := by
  have others : ∀ secret, secret ≠ made.jwtSecret →
      jwt.decode (grant.refreshToken jwt made) secret state.settings.jwtAlgorithm now =
        .error .invalidSignature := by
    intro secret differs
    rw [← algorithm]
    exact lawful.otherSecret _ _ _ differs
  by_cases window : made.jwtSecret ∈ jwtVerificationSecrets state.settings
  · by_cases early : now < expiresAt (made.jwtRefreshTtlDays * 86400) grant.issuedAt
    · -- the token is in order, so its user is missing
      have absent : getUserByUsername state.db grant.sub = none := by
        rw [← Option.not_isSome_iff_eq_none]
        exact fun user => dead ⟨window, early, user⟩
      rw [refresh, verifyRefreshToken_issued lawful algorithm past window early]
      simp only [lookup_sub_refresh, Option.getD_some, absent]
      exact ⟨_, rfl⟩
    · have reached : Reached ((grant.refreshPayload made).lookup "exp") now := by
        rw [Grant.refreshPayload, lookup_refreshPayload (by decide)]
        exact ⟨_, numericValue_numericDate _, not_lt.mp early⟩
      have expired : jwt.decode (grant.refreshToken jwt made) made.jwtSecret
          state.settings.jwtAlgorithm now = .error .expiredSignature := by
        rw [← algorithm]
        exact lawful.expired _ _ (refreshPayload_wellFormed past) reached
      have verified : verifyRefreshToken jwt state.settings (grant.refreshToken jwt made) now =
          .error (unauthorized refreshTexts.expired) := by
        rw [verifyRefreshToken, verifyWith_of_mem others window (by simp [expired]), verifyWith,
          expired]
      rw [refresh, verified]
      exact ⟨_, rfl⟩
  · have verified : verifyRefreshToken jwt state.settings (grant.refreshToken jwt made) now =
        .error (unauthorized refreshTexts.signature) := by
      refine verifyWith_of_not_mem others window (Or.inr ?_)
      exact List.ne_nil_of_mem (jwtSecret_mem state.settings)
    rw [refresh, verified]
    exact ⟨_, rfl⟩

end Answer

/-! ### Histories -/

section Histories

variable {Token : Type} (jwt : PyJwt Token) (verify : PasswordVerifier)

/-- The token was issued with these settings for this grant. -/
def IssuedAs (token : Token) (made : JwtSettings) (grant : Grant)
    (history : List (State × Event Token)) : Prop :=
  ∃ entry ∈ history, issued jwt verify entry.1 entry.2 = some grant ∧ entry.1.settings = made ∧
    token = grant.refreshToken jwt made

/-- The token was issued. -/
def Issued (token : Token) (history : List (State × Event Token)) : Prop :=
  ∃ made grant, IssuedAs jwt verify token made grant history

/-- A refresh request presents a token that was issued, and is answered with new ones. -/
def Accepts (token : Token) (earlier : List (State × Event Token)) (state : State)
    (event : Event Token) : Prop :=
  Issued jwt verify token earlier ∧ (∃ jti, event.request = .refresh token jti) ∧
    (issued jwt verify state event).isSome = true

/-- A logout request presents a token that was issued. -/
def LogsOut (token : Token) (earlier : List (State × Event Token)) (_ : State)
    (event : Event Token) : Prop :=
  Issued jwt verify token earlier ∧ event.request = .logout (some token)

/-- The token was used or logged out, or it is expired. -/
def Void (token : Token) (history : List (State × Event Token)) (now : Int) : Prop :=
  Sometime (Accepts jwt verify token) history ∨ Sometime (LogsOut jwt verify token) history ∨
    ∃ made grant, IssuedAs jwt verify token made grant history ∧
      expiresAt (made.jwtRefreshTtlDays * 86400) grant.issuedAt ≤ now

/-- A request that presents a void token is answered 401. -/
def Refuses (earlier : List (State × Event Token)) (state : State) (event : Event Token) : Prop :=
  ∀ token jti, event.request = .refresh token jti → Void jwt verify token earlier event.now →
    ∃ detail, (refresh jwt state.settings state.db token jti event.now).2 =
      .error (unauthorized detail)

open Classical in
/-- How often an issued token is accepted. -/
noncomputable def uses (token : Token) : List (State × Event Token) → Nat
  | [] => 0
  | (state, event) :: earlier =>
      uses token earlier + if Accepts jwt verify token earlier state event then 1 else 0

/-- **Single use**: an issued token is accepted at most once, and not after a
logout; a request with a void token is answered 401. -/
structure SingleUse (history : List (State × Event Token)) : Prop where
  once : ∀ token, uses jwt verify token history ≤ 1
  notAfterLogout : Meets (fun earlier state event => ∀ token,
    Sometime (LogsOut jwt verify token) earlier → ¬ Accepts jwt verify token earlier state event)
    history
  refused : Meets (Refuses jwt verify) history

/-- An issued token is presented to `refresh` while it is good. -/
def PresentsLive (token : Token) (earlier : List (State × Event Token)) (state : State)
    (event : Event Token) : Prop :=
  (∃ jti, event.request = .refresh token jti) ∧
    ∃ made grant, IssuedAs jwt verify token made grant earlier ∧ Live made grant state event.now

/-- The request presents no good token to `refresh` that was presented before while
it was good, or logged out. -/
def PresentedOnce (earlier : List (State × Event Token)) (state : State) (event : Event Token) :
    Prop :=
  ∀ token, PresentsLive jwt verify token earlier state event →
    ¬ Sometime (fun earlier state event => PresentsLive jwt verify token earlier state event ∨
      LogsOut jwt verify token earlier state event) earlier

end Histories

/-! ### The condition -/

section SingleUse

variable {Token : Type} {jwt : PyJwt Token} {verify : PasswordVerifier} {token : Token}
  {start state state' : State} {event : Event Token} {history : List (State × Event Token)}

theorem issued_issuedAt {grant : Grant} (issues : issued jwt verify state event = some grant) :
    grant.issuedAt = event.now := by
  unfold issued at issues
  split at issues
  · obtain ⟨-, -, rfl⟩ := login_ok (ok_of_toOption issues)
    rfl
  · obtain ⟨_, _, -, -, -, same⟩ := refresh_ok (ok_of_toOption issues)
    rw [same]
  · cases issues

theorem next_eq_some (step : next jwt state event = some state') :
    state.clock ≤ event.now ∧ state'.clock = event.now ∧
      state'.settings.jwtAlgorithm = state.settings.jwtAlgorithm := by
  unfold next at step
  split at step
  · rename_i later
    obtain rfl := Option.some.inj step
    cases event.request <;> exact ⟨later, rfl, rfl⟩
  · cases step

/-- The issued tokens of a run are from the past, and made with its algorithm. -/
theorem issuedAs_of_run {made : JwtSettings} {grant : Grant}
    (run : Run (next jwt) start history state)
    (issuedAs : IssuedAs jwt verify token made grant history) :
    made.jwtAlgorithm = state.settings.jwtAlgorithm ∧ grant.issuedAt ≤ state.clock := by
  obtain ⟨entry, mem, issues, rfl, -⟩ := issuedAs
  have past := Run.invariant (I := fun history state => ∀ entry ∈ history,
      entry.1.settings.jwtAlgorithm = state.settings.jwtAlgorithm ∧ entry.2.now ≤ state.clock)
    (by simp) (fun _ before step entry mem => by
      obtain ⟨later, clock, algorithm⟩ := next_eq_some step
      rcases List.mem_cons.mp mem with rfl | older
      · exact ⟨algorithm.symm, clock.ge⟩
      · obtain ⟨same, earlier⟩ := before entry older
        exact ⟨same.trans algorithm.symm, earlier.trans (clock ▸ later)⟩) run entry mem
  exact ⟨past.1, (issued_issuedAt issues).le.trans past.2⟩

theorem Issued.cons (entry : State × Event Token) (before : Issued jwt verify token history) :
    Issued jwt verify token (entry :: history) := by
  obtain ⟨made, grant, old, mem, issues⟩ := before
  exact ⟨made, grant, old, List.mem_cons_of_mem _ mem, issues⟩

theorem Void.issued {now : Int} (void : Void jwt verify token history now) :
    Issued jwt verify token history := by
  rcases void with used | loggedOut | ⟨made, grant, issuedAs, -⟩
  · exact used.elim (fun accepts => accepts.1) Issued.cons
  · exact loggedOut.elim (fun logsOut => logsOut.1) Issued.cons
  · exact ⟨made, grant, issuedAs⟩

/-- In a run, a request is answered with new tokens exactly when its token is good. -/
theorem accepts_iff_presentsLive (lawful : jwt.Lawful) (run : Run (next jwt) start history state)
    (step : next jwt state event = some state') :
    Accepts jwt verify token history state event ↔
      PresentsLive jwt verify token history state event := by
  have later := (next_eq_some step).1
  constructor
  · rintro ⟨⟨made, grant, issuedAs⟩, ⟨jti, presents⟩, accepted⟩
    refine ⟨⟨jti, presents⟩, made, grant, issuedAs, ?_⟩
    by_contra dead
    obtain ⟨algorithm, past⟩ := issuedAs_of_run run issuedAs
    obtain ⟨-, -, -, -, rfl⟩ := issuedAs
    obtain ⟨detail, answer⟩ := refresh_of_not_live lawful algorithm (past.trans later) dead jti
    simp only [issued, presents, answer] at accepted
    cases accepted
  · rintro ⟨⟨jti, presents⟩, made, grant, issuedAs, live⟩
    refine ⟨⟨made, grant, issuedAs⟩, ⟨jti, presents⟩, ?_⟩
    obtain ⟨algorithm, past⟩ := issuedAs_of_run run issuedAs
    obtain ⟨-, -, -, -, rfl⟩ := issuedAs
    obtain ⟨new, answer⟩ := refresh_of_live lawful algorithm (past.trans later) live jti
    simp only [issued, presents, answer]
    rfl

theorem sometime_accepts_iff (lawful : jwt.Lawful) (run : Run (next jwt) start history state) :
    Sometime (Accepts jwt verify token) history ↔
      Sometime (PresentsLive jwt verify token) history :=
  Run.sometime_congr (fun run step => accepts_iff_presentsLive lawful run step) run

/-- **One step** refuses void tokens exactly when it presents no good one again. -/
theorem refuses_iff_presentedOnce (lawful : jwt.Lawful) (run : Run (next jwt) start history state)
    (step : next jwt state event = some state') :
    Refuses jwt verify history state event ↔ PresentedOnce jwt verify history state event := by
  have later := (next_eq_some step).1
  constructor
  · rintro refuses token ⟨⟨jti, presents⟩, made, grant, issuedAs, live⟩ again
    have void : Void jwt verify token history event.now := by
      rcases sometime_or.mp again with presented | loggedOut
      · exact Or.inl ((sometime_accepts_iff lawful run).mpr presented)
      · exact Or.inr (Or.inl loggedOut)
    obtain ⟨detail, answer⟩ := refuses token jti presents void
    obtain ⟨algorithm, past⟩ := issuedAs_of_run run issuedAs
    obtain ⟨-, -, -, -, rfl⟩ := issuedAs
    obtain ⟨new, accepted⟩ := refresh_of_live lawful algorithm (past.trans later) live jti
    rw [accepted] at answer
    cases answer
  · intro presentedOnce token jti presents void
    -- whichever way the token is void, one of its issues is not good any more
    have dead : ∃ made grant, IssuedAs jwt verify token made grant history ∧
        ¬ Live made grant state event.now := by
      by_contra allLive
      push Not at allLive
      obtain ⟨made, grant, issuedAs⟩ := void.issued
      rcases void with used | loggedOut | ⟨made', grant', issuedAs', expired⟩
      · exact presentedOnce token
          ⟨⟨jti, presents⟩, made, grant, issuedAs, allLive made grant issuedAs⟩
          (sometime_or.mpr (Or.inl ((sometime_accepts_iff lawful run).mp used)))
      · exact presentedOnce token
          ⟨⟨jti, presents⟩, made, grant, issuedAs, allLive made grant issuedAs⟩
          (sometime_or.mpr (Or.inr loggedOut))
      · exact absurd (allLive made' grant' issuedAs').early (not_lt.mpr expired)
    obtain ⟨made, grant, issuedAs, dead⟩ := dead
    obtain ⟨algorithm, past⟩ := issuedAs_of_run run issuedAs
    obtain ⟨-, -, -, -, rfl⟩ := issuedAs
    exact refresh_of_not_live lawful algorithm (past.trans later) dead jti

/-- A refusing step does not accept what is void. -/
theorem Refuses.not_accepts (refuses : Refuses jwt verify history state event)
    (void : Void jwt verify token history event.now) :
    ¬ Accepts jwt verify token history state event := by
  rintro ⟨-, ⟨jti, presents⟩, accepted⟩
  obtain ⟨detail, answer⟩ := refuses token jti presents void
  simp only [issued, presents, answer] at accepted
  cases accepted

theorem sometime_accepts_of_uses (some_use : 0 < uses jwt verify token history) :
    Sometime (Accepts jwt verify token) history := by
  induction history with
  | nil => exact absurd some_use (lt_irrefl 0)
  | cons entry earlier ih =>
    unfold uses at some_use
    split at some_use
    · rename_i here
      exact Or.inl here
    · exact Or.inr (ih some_use)

theorem uses_le_one (refuses : Meets (Refuses jwt verify) history) :
    uses jwt verify token history ≤ 1 := by
  induction history with
  | nil => exact Nat.zero_le 1
  | cons entry earlier ih =>
    unfold uses
    split
    · rename_i here
      have unused : ¬ 0 < uses jwt verify token earlier := fun some_use =>
        refuses.1.not_accepts (Or.inl (sometime_accepts_of_uses some_use)) here
      omega
    · exact ih refuses.2

/-- **Single use of refresh tokens** in a run holds exactly when no request presents
a good token again, or one that was logged out. -/
theorem refresh_single_use_iff (lawful : jwt.Lawful) (run : Run (next jwt) start history state) :
    SingleUse jwt verify history ↔ Meets (PresentedOnce jwt verify) history := by
  have each : Meets (Refuses jwt verify) history ↔ Meets (PresentedOnce jwt verify) history :=
    Run.meets_congr (fun run step => refuses_iff_presentedOnce lawful run step) run
  constructor
  · exact fun single => each.mp single.refused
  · intro presentedOnce
    have refused := each.mpr presentedOnce
    exact ⟨fun token => uses_le_one refused,
      refused.mono fun _ _ _ refuses _ loggedOut => refuses.not_accepts (Or.inr (Or.inl loggedOut)),
      refused⟩

end SingleUse

/-! ### One session -/

def carol : User :=
  { username := "carol", email := "carol@example.com", passwordHash := "$long enough",
    tenantId := some 1 }

def carolOnly : State where
  db :=
    { users := Rows.single 1 carol
      tenants := Rows.single 1 (personalTenant "carol")
      userTenants := Rows.single 1 { userId := 1, tenantId := 1 }
      casbinRules := seededRules
      enforcer := casbinPolicy }
  settings := { jwtSecret := "secret" }
  clock := 0

def carolLogin : Event (TokenPayload × String × String) where
  now := 0
  request := .login "carol" "long enough" "jti-1"

/-- The refresh token of that login. -/
def carolToken : TokenPayload × String × String :=
  Grant.refreshToken symbolicJwt carolOnly.settings
    { sub := "carol", tenantId := some 1, jti := "jti-1", issuedAt := 0 }

/-- The token is exchanged at a later time. -/
def exchange (now : Int) (jti : String) : Event (TokenPayload × String × String) where
  now := now
  request := .refresh carolToken jti

theorem carolToken_issued :
    IssuedAs symbolicJwt markedHash carolToken carolOnly.settings
      { sub := "carol", tenantId := some 1, jti := "jti-1", issuedAt := 0 }
      [(carolOnly, carolLogin)] :=
  ⟨_, List.mem_cons_self, by decide, rfl, rfl⟩

/-- The run of the login and one exchange. -/
theorem run_oneExchange :
    Run (next symbolicJwt) carolOnly
      [(carolOnly, exchange 1000000 "jti-2"), (carolOnly, carolLogin)]
      (serve symbolicJwt carolOnly 1000000 (exchange 1000000 "jti-2").request) :=
  .snoc (.snoc .init rfl) rfl

/-- A client that exchanges its token once sees single use. -/
theorem refresh_single_use_oneExchange :
    SingleUse symbolicJwt markedHash
      [(carolOnly, exchange 1000000 "jti-2"), (carolOnly, carolLogin)] := by
  refine (refresh_single_use_iff symbolicJwt_lawful run_oneExchange).mpr ⟨?_, ?_, trivial⟩
  · rintro token - (here | none)
    · simp [PresentsLive, LogsOut, carolLogin] at here
    · exact none
  · rintro token - none
    exact none

/-- Presented again a second later, the used token is exchanged again. -/
theorem refresh_token_replayed :
    ∃ history state, Run (next symbolicJwt) carolOnly history state ∧
      ¬ SingleUse symbolicJwt markedHash history := by
  have again : Run (next symbolicJwt) carolOnly ((_, exchange 2000000 "jti-3") :: _) _ :=
    run_oneExchange.snoc rfl
  refine ⟨_, _, again, fun single => ?_⟩
  have refuses : Refuses symbolicJwt markedHash _ _ (exchange 2000000 "jti-3") := single.refused.1
  have presentedOnce :=
    (refuses_iff_presentedOnce symbolicJwt_lawful run_oneExchange rfl).mp refuses
  obtain ⟨entry, mem, issues⟩ := carolToken_issued
  have active : (getUserByUsername (serve symbolicJwt carolOnly 1000000
      (exchange 1000000 "jti-2").request).db "carol").isSome = true := by
    rw [exchange, serve, refresh_db]
    decide
  refine presentedOnce carolToken ⟨⟨_, rfl⟩, _, _,
    ⟨entry, List.mem_cons_of_mem _ mem, issues⟩, ⟨jwtSecret_mem _, by decide, active⟩⟩ ?_
  exact Or.inl (Or.inl ⟨⟨_, rfl⟩, _, _, carolToken_issued,
    ⟨jwtSecret_mem _, by decide, by decide⟩⟩)

end ApiObservatory.Auth
