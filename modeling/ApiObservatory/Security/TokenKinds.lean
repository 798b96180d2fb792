import ApiObservatory.Security.Jwt

/-
Which verifier accepts which token.

An access token and a refresh token are signed with one secret, and only
`verify_refresh_token` looks at the claim `token_type` that tells them apart. So a
refresh token passes wherever an access token does (`token_kinds_never_apart`);
`verifiers_in_window` says what each verifier answers to each kind.
-/

namespace ApiObservatory.Security

open Foundation

/-! ### The loop over the secrets -/

/-- The payload the loop reaches: secrets whose signature does not fit are passed over. -/
def firstDecoded (decode : String → Except JwtError TokenPayload) :
    List String → Option TokenPayload
  | [] => none
  | secret :: rest =>
      match decode secret with
      | .ok payload => some payload
      | .error .invalidSignature => firstDecoded decode rest
      | .error _ => none

section Loop

attribute [local simp] verifyWith firstDecoded

variable {decode : String → Except JwtError TokenPayload} {texts : VerifierTexts}
  {accept : TokenPayload → Except AuthError TokenPayload}

theorem verifyWith_ok_iff {secrets : List String} {saw : Bool} {claims : TokenPayload} :
    verifyWith decode texts accept saw secrets = .ok claims ↔
      ∃ payload, firstDecoded decode secrets = some payload ∧ accept payload = .ok claims := by
  induction secrets generalizing saw with
  | nil => simp
  | cons secret rest ih =>
    simp only [verifyWith, firstDecoded]
    cases decode secret with
    | ok payload => simp
    | error error =>
      cases error with
      | invalidSignature => exact ih
      | expiredSignature => simp
      | decodeError => simp
      | invalidClaim => simp

/-- A secret whose signature fits decides, whatever was tried before and would be after it. -/
theorem verifyWith_fits {own : String} (rest : List String) (saw saw' : Bool)
    (found : decode own ≠ .error .invalidSignature) :
    verifyWith decode texts accept saw (own :: rest) = verifyWith decode texts accept saw' [own] := by
  simp only [verifyWith]
  cases decoded : decode own with
  | ok payload => rfl
  | error error =>
    cases error with
    | invalidSignature => exact absurd decoded found
    | expiredSignature => rfl
    | decodeError => rfl
    | invalidClaim => rfl

/-- A token is decoded with its own secret. -/
theorem verifyWith_of_mem {own : String} {secrets : List String} {saw : Bool}
    (others : ∀ secret, secret ≠ own → decode secret = .error .invalidSignature)
    (mem : own ∈ secrets) (found : decode own ≠ .error .invalidSignature) :
    verifyWith decode texts accept saw secrets =
      verifyWith decode texts accept saw [own] := by
  induction secrets generalizing saw with
  | nil => cases mem
  | cons secret rest ih =>
    by_cases here : secret = own
    · subst here
      exact verifyWith_fits rest saw saw found
    · have later : own ∈ rest := by
        rcases List.mem_cons.mp mem with same | later
        · exact absurd same.symm here
        · exact later
      rw [← verifyWith_fits [] true saw found, ← ih later, verifyWith, others secret here]

/-- Without its own secret a token has no signature that fits. -/
theorem verifyWith_of_not_mem {own : String} {secrets : List String} {saw : Bool}
    (others : ∀ secret, secret ≠ own → decode secret = .error .invalidSignature)
    (absent : own ∉ secrets) (some_secret : saw = true ∨ secrets ≠ []) :
    verifyWith decode texts accept saw secrets = .error (unauthorized texts.signature) := by
  induction secrets generalizing saw with
  | nil =>
    have seen : saw = true := some_secret.resolve_right fun none => none rfl
    rw [verifyWith, if_pos seen]
  | cons secret rest ih =>
    obtain ⟨here, later⟩ := not_or.mp (mt List.mem_cons.mpr absent)
    rw [verifyWith, others secret (Ne.symm here)]
    exact ih later (Or.inl rfl)

end Loop

theorem secrets_foldl_prefix (secrets raw : List String) :
    ∃ more, raw.foldl (fun secrets stripped =>
      if stripped ≠ "" ∧ stripped ∉ secrets then secrets ++ [stripped] else secrets) secrets =
        secrets ++ more := by
  induction raw generalizing secrets with
  | nil => exact ⟨[], (List.append_nil secrets).symm⟩
  | cons secret rest ih =>
    rw [List.foldl_cons]
    split
    · obtain ⟨more, same⟩ := ih (secrets ++ [secret])
      exact ⟨secret :: more, by rw [same, List.append_assoc]; rfl⟩
    · exact ih secrets

/-- The current secret is the first of the window. -/
theorem jwtSecret_mem (settings : JwtSettings) :
    settings.jwtSecret ∈ jwtVerificationSecrets settings := by
  obtain ⟨more, same⟩ := secrets_foldl_prefix [settings.jwtSecret]
    ((settings.jwtPreviousSecrets.toList.splitOn ',').map strip)
  rw [jwtVerificationSecrets, ← List.foldl_map (f := strip) (g := fun secrets stripped =>
      if stripped ≠ "" ∧ stripped ∉ secrets then secrets ++ [stripped] else secrets), same]
  exact List.mem_append_left _ List.mem_cons_self

/-! ### The claims of a token -/

section Payloads

variable {settings : JwtSettings} {sub : String} {customClaims : TokenPayload} {jti : String}
  {now : Int} {tenantId : Option Nat}

/-- Both kinds carry the tenant of the custom claims. -/
theorem lookup_tenantId_payloads :
    (refreshPayload settings sub customClaims jti now).lookup "tenant_id" =
      (accessPayload settings sub customClaims now).lookup "tenant_id" :=
  lookup_dictUpdate_congr customClaims rfl

/-- The claim `tenant_id` of the token routes. -/
def tenantValue : Option Nat → Json
  | some id => .number id.repr
  | none => .null

/-- The custom claims `login` and `refresh` pass. -/
def tenantClaim (tenantId : Option Nat) : TokenPayload := [("tenant_id", tenantValue tenantId)]

theorem tenantClaim_names (tenantId : Option Nat) {key : String} (other : key ≠ "tenant_id") :
    ∀ item ∈ tenantClaim tenantId, item.1 ≠ key := by
  intro item mem
  obtain rfl := List.mem_singleton.mp mem
  exact other.symm

theorem lookup_accessPayload {key : String} (other : key ≠ "tenant_id") :
    (accessPayload settings sub (tenantClaim tenantId) now).lookup key =
      [("sub", .string sub), ("iat", numericDate now),
        ("exp", numericDate (now + seconds (settings.jwtExpiryMinutes * 60))),
        ("iss", Json.string settings.appName)].lookup key :=
  (lookup_dictUpdate _ (tenantClaim_names tenantId other)).trans
    (by simp [List.lookup_cons, beq_false_of_ne other])

theorem lookup_refreshPayload {key : String} (other : key ≠ "tenant_id") :
    (refreshPayload settings sub (tenantClaim tenantId) jti now).lookup key =
      [("sub", .string sub), ("iat", numericDate now),
        ("exp", numericDate (now + seconds (settings.jwtRefreshTtlDays * 86400))),
        ("iss", .string settings.appName), ("jti", .string jti),
        ("token_type", Json.string "refresh")].lookup key :=
  (lookup_dictUpdate _ (tenantClaim_names tenantId other)).trans
    (by simp [List.lookup_cons, beq_false_of_ne other])

theorem lookup_tenantId_accessPayload :
    (accessPayload settings sub (tenantClaim tenantId) now).lookup "tenant_id" =
      some (tenantValue tenantId) := by
  simp [accessPayload, tenantClaim, dictUpdate, lookup_setItem]

end Payloads

theorem Reached.of_le {issuedAt now : Int} (past : issuedAt ≤ now) :
    Reached (some (numericDate issuedAt)) now := by
  refine ⟨issuedAt / 1000000, numericValue_numericDate issuedAt, ?_⟩
  unfold seconds
  omega

/-! ### What the verifiers answer -/

section Verifiers

variable {Token : Type} {jwt : PyJwt Token} {toInt : Json → Option Int}
  {settings signing : JwtSettings} {now : Int}

/-- A token of the window whose payload is in order and not expired is decoded. -/
theorem verifyWith_encode (lawful : jwt.Lawful) {payload : TokenPayload} {texts : VerifierTexts}
    {accept : TokenPayload → Except AuthError TokenPayload}
    (window : signing.jwtSecret ∈ jwtVerificationSecrets settings)
    (algorithm : signing.jwtAlgorithm = settings.jwtAlgorithm)
    (wellFormed : WellFormed payload now) (ahead : Ahead (payload.lookup "exp") now) :
    verifyWith (fun secret =>
        jwt.decode (jwt.encode payload signing.jwtSecret signing.jwtAlgorithm) secret
          settings.jwtAlgorithm now)
      texts accept false (jwtVerificationSecrets settings) = accept payload := by
  rw [← algorithm]
  have decoded := lawful.accepted signing.jwtSecret signing.jwtAlgorithm wellFormed ahead
  rw [verifyWith_of_mem (fun secret differs => lawful.otherSecret _ _ _ differs) window
    (by simp [decoded]), verifyWith, decoded]

/-- An access verifier returns what it decoded, and asks only for the tenant. -/
theorem acceptAccess_ok_iff {payload claims : TokenPayload} :
    acceptAccess toInt payload = .ok claims ↔
      (∀ tenantId, payload.lookup "tenant_id" = some tenantId → tenantId ≠ .null →
        (toInt tenantId).isSome = true) ∧ payload = claims := by
  unfold acceptAccess
  split
  · rename_i absent
    simp [absent]
  · rename_i null
    simp [null]
  · rename_i tenantId notNull found
    have present : tenantId ≠ .null := notNull
    by_cases number : (toInt tenantId).isSome = true
    · simp [found, number]
    · simp [found, number, present]

theorem acceptRefresh_ok {payload claims : TokenPayload} (ok : acceptRefresh payload = .ok claims) :
    payload = claims := by
  unfold acceptRefresh at ok
  split at ok
  · exact Except.ok.inj ok
  · cases ok

theorem verifyJwtToken_bearer (token : Token) :
    verifyJwtToken jwt toInt settings (some ("Bearer", token)) now =
      verifyJwtTokenStr jwt toInt settings token now := by
  have scheme : lower "Bearer" = "bearer" := by decide
  simp [verifyJwtToken, verifyJwtTokenStr, scheme]

variable {sub jti : String} {issuedAt : Int} {tenantId : Option Nat}

theorem accessPayload_wellFormed (past : issuedAt ≤ now) :
    WellFormed (accessPayload signing sub (tenantClaim tenantId) issuedAt) now where
  issued := by
    rw [lookup_accessPayload (by decide)]
    exact Reached.of_le past
  noStart := lookup_accessPayload (by decide)
  noAudience := lookup_accessPayload (by decide)
  subject := by
    rw [lookup_accessPayload (by decide)]
    rfl
  tokenId := by
    rw [lookup_accessPayload (by decide)]
    rfl

theorem refreshPayload_wellFormed (past : issuedAt ≤ now) :
    WellFormed (refreshPayload signing sub (tenantClaim tenantId) jti issuedAt) now where
  issued := by
    rw [lookup_refreshPayload (by decide)]
    exact Reached.of_le past
  noStart := lookup_refreshPayload (by decide)
  noAudience := lookup_refreshPayload (by decide)
  subject := by
    rw [lookup_refreshPayload (by decide)]
    rfl
  tokenId := by
    rw [lookup_refreshPayload (by decide)]
    rfl

/-- The first moment at which a token is expired: whole seconds after its issue. -/
def expiresAt (lifetime issuedAt : Int) : Int := seconds ((issuedAt + seconds lifetime) / 1000000)

theorem accessPayload_ahead (early : now < expiresAt (signing.jwtExpiryMinutes * 60) issuedAt) :
    Ahead ((accessPayload signing sub (tenantClaim tenantId) issuedAt).lookup "exp") now := by
  rw [lookup_accessPayload (by decide)]
  exact ⟨_, numericValue_numericDate _, early⟩

theorem refreshPayload_ahead (early : now < expiresAt (signing.jwtRefreshTtlDays * 86400) issuedAt) :
    Ahead ((refreshPayload signing sub (tenantClaim tenantId) jti issuedAt).lookup "exp") now := by
  rw [lookup_refreshPayload (by decide)]
  exact ⟨_, numericValue_numericDate _, early⟩

/-- The tenant of a token route is a number or null, so `int` takes it. -/
theorem acceptAccess_tenantClaim (intOf : ∀ id : Nat, toInt (.number id.repr) = some (id : Int))
    {payload : TokenPayload} (tenant : payload.lookup "tenant_id" = some (tenantValue tenantId)) :
    acceptAccess toInt payload = .ok payload := by
  refine acceptAccess_ok_iff.mpr ⟨fun value found present => ?_, rfl⟩
  obtain rfl := Option.some.inj (tenant.symm.trans found)
  cases tenantId with
  | none => exact absurd rfl present
  | some id => exact Option.isSome_iff_exists.mpr ⟨id, intOf id⟩

/-- What each verifier answers to an access token of the window, before it expires. -/
theorem access_token_in_window (lawful : jwt.Lawful)
    (intOf : ∀ id : Nat, toInt (.number id.repr) = some (id : Int))
    (window : signing.jwtSecret ∈ jwtVerificationSecrets settings)
    (algorithm : signing.jwtAlgorithm = settings.jwtAlgorithm) (past : issuedAt ≤ now)
    (early : now < expiresAt (signing.jwtExpiryMinutes * 60) issuedAt) :
    let token := createJwtToken jwt signing sub (tenantClaim tenantId) issuedAt
    verifyJwtTokenStr jwt toInt settings token now =
        .ok (accessPayload signing sub (tenantClaim tenantId) issuedAt) ∧
      verifyRefreshToken jwt settings token now =
        .error (unauthorized "Not a refresh token") := by
  have loop : ∀ texts accept, verifyWith (fun secret =>
      jwt.decode (createJwtToken jwt signing sub (tenantClaim tenantId) issuedAt) secret
        settings.jwtAlgorithm now) texts accept false (jwtVerificationSecrets settings) =
      accept (accessPayload signing sub (tenantClaim tenantId) issuedAt) := fun _ _ =>
    verifyWith_encode lawful window algorithm (accessPayload_wellFormed past)
      (accessPayload_ahead early)
  refine ⟨(loop _ _).trans (acceptAccess_tenantClaim intOf lookup_tenantId_accessPayload),
    (loop _ _).trans ?_⟩
  rw [acceptRefresh, lookup_accessPayload (by decide)]
  rfl

/-- A refresh token of the window, before it expires, is as good for an access
verifier as for its own. -/
theorem refresh_token_in_window (lawful : jwt.Lawful)
    (intOf : ∀ id : Nat, toInt (.number id.repr) = some (id : Int))
    (window : signing.jwtSecret ∈ jwtVerificationSecrets settings)
    (algorithm : signing.jwtAlgorithm = settings.jwtAlgorithm) (past : issuedAt ≤ now)
    (early : now < expiresAt (signing.jwtRefreshTtlDays * 86400) issuedAt) :
    let token := createRefreshToken jwt signing sub (tenantClaim tenantId) jti issuedAt
    let payload := refreshPayload signing sub (tenantClaim tenantId) jti issuedAt
    verifyRefreshToken jwt settings token now = .ok payload ∧
      verifyJwtTokenStr jwt toInt settings token now = .ok payload := by
  have loop : ∀ texts accept, verifyWith (fun secret =>
      jwt.decode (createRefreshToken jwt signing sub (tenantClaim tenantId) jti issuedAt) secret
        settings.jwtAlgorithm now) texts accept false (jwtVerificationSecrets settings) =
      accept (refreshPayload signing sub (tenantClaim tenantId) jti issuedAt) := fun _ _ =>
    verifyWith_encode lawful window algorithm (refreshPayload_wellFormed past)
      (refreshPayload_ahead early)
  refine ⟨(loop _ _).trans ?_, (loop _ _).trans (acceptAccess_tenantClaim intOf
    (lookup_tenantId_payloads.trans lookup_tenantId_accessPayload))⟩
  rw [acceptRefresh, lookup_refreshPayload (by decide)]
  rfl

end Verifiers

/-! ### The two kinds are not apart -/

section Kinds

variable {Token : Type} (jwt : PyJwt Token) (toInt : Json → Option Int)
  (settings signing : JwtSettings) (sub : String) (customClaims : TokenPayload) (jti : String)
  (issuedAt now : Int)

/-- Each verifier takes the tokens of its own kind, with the claims that were
encoded, and none of the other kind. The tokens are made with the settings
`signing`, whose secret may be an earlier one of the window. -/
structure KindsApart : Prop where
  refreshRefused : ∀ claims,
    verifyJwtToken jwt toInt settings
      (some ("Bearer", createRefreshToken jwt signing sub customClaims jti issuedAt)) now ≠ .ok claims
  refreshRefusedStr : ∀ claims,
    verifyJwtTokenStr jwt toInt settings
      (createRefreshToken jwt signing sub customClaims jti issuedAt) now ≠ .ok claims
  accessRefused : ∀ tenantId, customClaims = tenantClaim tenantId → ∀ claims,
    verifyRefreshToken jwt settings (createJwtToken jwt signing sub customClaims issuedAt) now ≠
      .ok claims
  accessTaken :
    verifyJwtToken jwt toInt settings
        (some ("Bearer", createJwtToken jwt signing sub customClaims issuedAt)) now =
      .ok (accessPayload signing sub customClaims issuedAt)
  accessTakenStr :
    verifyJwtTokenStr jwt toInt settings
        (createJwtToken jwt signing sub customClaims issuedAt) now =
      .ok (accessPayload signing sub customClaims issuedAt)
  refreshTaken :
    verifyRefreshToken jwt settings
        (createRefreshToken jwt signing sub customClaims jti issuedAt) now =
      .ok (refreshPayload signing sub customClaims jti issuedAt)

/-- Whatever the claims, the secrets and the clock: if both kinds are taken by their
own verifiers then a refresh token is taken as an access token too. -/
theorem token_kinds_never_apart :
    ¬ KindsApart jwt toInt settings signing sub customClaims jti issuedAt now := by
  rintro ⟨-, refused, -, -, accessTaken, refreshTaken⟩
  obtain ⟨access, -, access_ok⟩ := verifyWith_ok_iff.mp accessTaken
  obtain ⟨refresh, decoded, refresh_ok⟩ := verifyWith_ok_iff.mp refreshTaken
  obtain ⟨tenant, rfl⟩ := acceptAccess_ok_iff.mp access_ok
  obtain rfl := acceptRefresh_ok refresh_ok
  -- the refresh token carries the tenant the access verifier took
  refine refused _ (verifyWith_ok_iff.mpr ⟨_, decoded, acceptAccess_ok_iff.mpr ⟨?_, rfl⟩⟩)
  rwa [lookup_tenantId_payloads]

/-- A refresh token of a user without a tenant, presented to a route one second later. -/
theorem refresh_token_as_bearer :
    verifyJwtToken symbolicJwt numericValue { jwtSecret := "secret" }
        (some ("Bearer", createRefreshToken symbolicJwt { jwtSecret := "secret" } "alice"
          (tenantClaim none) "jti-1" 0)) 1000000 =
      .ok (refreshPayload { jwtSecret := "secret" } "alice" (tenantClaim none) "jti-1" 0) := by
  rw [verifyJwtToken_bearer]
  exact (refresh_token_in_window symbolicJwt_lawful numericValue_repr
    (jwtSecret_mem _) rfl (by decide) (by decide)).2

end Kinds

end ApiObservatory.Security
