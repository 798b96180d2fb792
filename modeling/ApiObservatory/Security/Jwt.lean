import ApiObservatory.Foundation.Json
import ApiObservatory.Foundation.Text
import ApiObservatory.Platform.Routes
import ApiObservatory.Security.Casbin
import ApiObservatory.Time
import Mathlib.Order.Basic
import Std.Data.String.ToInt

/-
Access and refresh tokens (`services/ingestor/core/auth.py`).

The library `jwt` is a parameter: `PyJwt` holds its two functions, over a type of
token texts, and `PyJwt.Lawful` what its documentation says of them. The three
verifiers are one loop over the secrets of the rotation window, with the messages
and the last check of each.
-/

namespace ApiObservatory.Security

open Foundation

/-- The claims of a token: a dictionary from strings to JSON values. -/
abbrev TokenPayload := List (String × Json)

/-! ### Dictionaries -/

/-- `payload[key] = value`; a key that is there keeps its place. -/
def setItem : TokenPayload → String → Json → TokenPayload
  | [], key, value => [(key, value)]
  | item :: rest, key, value =>
      if item.1 = key then (key, value) :: rest else item :: setItem rest key value

/-- `{**payload, **other}`. -/
def dictUpdate (payload other : TokenPayload) : TokenPayload :=
  other.foldl (fun payload item => setItem payload item.1 item.2) payload

theorem lookup_setItem (payload : TokenPayload) (key other : String) (value : Json) :
    (setItem payload key value).lookup other =
      if other = key then some value else payload.lookup other := by
  induction payload with
  | nil =>
    by_cases same : other = key
    · simp [setItem, same]
    · simp [setItem, same]
  | cons item rest ih =>
    unfold setItem
    by_cases here : item.1 = key
    · rw [if_pos here, List.lookup_cons, List.lookup_cons, here]
      by_cases same : other = key
      · simp [same]
      · simp [same, beq_false_of_ne same]
    · rw [if_neg here, List.lookup_cons, List.lookup_cons, ih]
      by_cases same : other = key
      · subst same
        simp [beq_false_of_ne (Ne.symm here)]
      · simp [same]

/-- An update treats equal claims alike. -/
theorem lookup_dictUpdate_congr {key : String} {payload payload' : TokenPayload}
    (other : TokenPayload) (same : payload.lookup key = payload'.lookup key) :
    (dictUpdate payload other).lookup key = (dictUpdate payload' other).lookup key := by
  induction other generalizing payload payload' with
  | nil => exact same
  | cons item rest ih => exact ih (by rw [lookup_setItem, lookup_setItem, same])

/-- A claim that the update does not name. -/
theorem lookup_dictUpdate {key : String} (payload : TokenPayload) {other : TokenPayload}
    (absent : ∀ item ∈ other, item.1 ≠ key) :
    (dictUpdate payload other).lookup key = payload.lookup key := by
  induction other generalizing payload with
  | nil => rfl
  | cons item rest ih =>
    obtain ⟨here, later⟩ := List.forall_mem_cons.mp absent
    refine (ih _ later).trans ?_
    rw [lookup_setItem, if_neg (Ne.symm here)]

/-! ### The library -/

/-- The exceptions of `jwt.decode`, by the `except` clause that catches them; no
clause catches the last kind. -/
inductive JwtError where
  | expiredSignature | invalidSignature | decodeError | invalidClaim
deriving DecidableEq

/-- `jwt.encode`, `jwt.decode`, and `jwt.decode` without verification, over the
token texts. -/
structure PyJwt (Token : Type) where
  encode : TokenPayload → (secret algorithm : String) → Token
  decode : Token → (secret algorithm : String) → (now : Int) → Except JwtError TokenPayload
  unverified : Token → Option TokenPayload

/-- A clock time as `jwt.encode` writes it: whole seconds. -/
def numericDate (time : Int) : Json := .number (time / 1000000).repr

/-- The number of seconds a claim stands for. -/
def numericValue : Json → Option Int
  | .number literal => literal.toInt?
  | _ => none

@[simp] theorem numericValue_numericDate (time : Int) :
    numericValue (numericDate time) = some (time / 1000000) := by
  simp [numericValue, numericDate, Int.toInt?_repr]

theorem numericValue_repr (id : Nat) : numericValue (.number id.repr) = some (id : Int) :=
  Int.toInt?_repr id

/-- A numeric date that the clock has reached. -/
def Reached (date : Option Json) (now : Int) : Prop :=
  ∃ value, date.bind numericValue = some value ∧ seconds value ≤ now

instance (date : Option Json) (now : Int) : Decidable (Reached date now) :=
  match found : date.bind numericValue with
  | none => isFalse fun ⟨_, some_value, _⟩ => by rw [found] at some_value; cases some_value
  | some value =>
      decidable_of_iff (seconds value ≤ now) ⟨fun reached => ⟨value, found, reached⟩,
        fun ⟨_, same, reached⟩ => Option.some.inj (found.symm.trans same) ▸ reached⟩

/-- A numeric date is in the claim and the clock has not reached it. -/
def Ahead (date : Option Json) (now : Int) : Prop :=
  ∃ value, date.bind numericValue = some value ∧ now < seconds value

instance (date : Option Json) (now : Int) : Decidable (Ahead date now) :=
  match found : date.bind numericValue with
  | none => isFalse fun ⟨_, some_value, _⟩ => by rw [found] at some_value; cases some_value
  | some value =>
      decidable_of_iff (now < seconds value) ⟨fun ahead => ⟨value, found, ahead⟩,
        fun ⟨_, same, ahead⟩ => Option.some.inj (found.symm.trans same) ▸ ahead⟩

def Json.isText : Json → Bool
  | .string _ => true
  | _ => false

/-- The registered claims besides `exp` that `jwt.decode` checks are in order: the
token is not from the future, and has no audience and no start of validity. -/
structure WellFormed (payload : TokenPayload) (now : Int) : Prop where
  issued : Reached (payload.lookup "iat") now
  noStart : payload.lookup "nbf" = none
  noAudience : payload.lookup "aud" = none
  subject : (payload.lookup "sub").all Json.isText = true
  tokenId : (payload.lookup "jti").all Json.isText = true

instance (payload : TokenPayload) (now : Int) : Decidable (WellFormed payload now) :=
  decidable_of_iff
    (Reached (payload.lookup "iat") now ∧ (payload.lookup "nbf").isNone = true ∧
      (payload.lookup "aud").isNone = true ∧ (payload.lookup "sub").all Json.isText = true ∧
      (payload.lookup "jti").all Json.isText = true)
    ⟨fun ⟨issued, noStart, noAudience, subject, tokenId⟩ =>
        ⟨issued, Option.isNone_iff_eq_none.mp noStart, Option.isNone_iff_eq_none.mp noAudience,
          subject, tokenId⟩,
      fun ⟨issued, noStart, noAudience, subject, tokenId⟩ =>
        ⟨issued, Option.isNone_iff_eq_none.mpr noStart, Option.isNone_iff_eq_none.mpr noAudience,
          subject, tokenId⟩⟩

/-- What is documented of encoded tokens: the signature fits the secret it was
made with and no other, and a token is accepted until it expires. -/
structure PyJwt.Lawful {Token : Type} (jwt : PyJwt Token) : Prop where
  otherSecret : ∀ payload {secret other} algorithm now, other ≠ secret →
    jwt.decode (jwt.encode payload secret algorithm) other algorithm now = .error .invalidSignature
  accepted : ∀ {payload} secret algorithm {now}, WellFormed payload now →
    Ahead (payload.lookup "exp") now →
    jwt.decode (jwt.encode payload secret algorithm) secret algorithm now = .ok payload
  expired : ∀ {payload} secret algorithm {now}, WellFormed payload now →
    Reached (payload.lookup "exp") now →
    jwt.decode (jwt.encode payload secret algorithm) secret algorithm now =
      .error .expiredSignature

/-- Tokens that are their own content: a library with no forgeries. -/
def symbolicJwt : PyJwt (TokenPayload × String × String) where
  encode payload secret algorithm := (payload, secret, algorithm)
  decode token secret algorithm now :=
    if secret ≠ token.2.1 then .error .invalidSignature
    else if algorithm ≠ token.2.2 ∨ ¬ WellFormed token.1 now then .error .invalidClaim
    else if Reached (token.1.lookup "exp") now then .error .expiredSignature
    else .ok token.1
  unverified token := some token.1

theorem not_reached_of_ahead {date : Option Json} {now : Int} (ahead : Ahead date now) :
    ¬ Reached date now := by
  rintro ⟨value, found, reached⟩
  obtain ⟨value', found', later⟩ := ahead
  obtain rfl := Option.some.inj (found.symm.trans found')
  exact absurd reached (not_le.mpr later)

theorem symbolicJwt_lawful : symbolicJwt.Lawful where
  otherSecret payload secret other algorithm now differs := if_pos differs
  accepted secret algorithm now wellFormed ahead := by
    simp [symbolicJwt, wellFormed, not_reached_of_ahead ahead]
  expired secret algorithm now wellFormed reached := by
    simp [symbolicJwt, wellFormed, reached]

/-! ### Settings -/

structure JwtSettings where
  jwtSecret : String
  jwtPreviousSecrets : String := ""
  jwtAlgorithm : String := "HS256"
  jwtExpiryMinutes : Int := 30
  jwtRefreshTtlDays : Int := 7
  appName : String := "api-observatory"
deriving DecidableEq

/-- `_jwt_verification_secrets`. -/
def jwtVerificationSecrets (settings : JwtSettings) : List String :=
  (settings.jwtPreviousSecrets.toList.splitOn ',').foldl
    (fun secrets secret =>
      let stripped := strip secret
      if stripped ≠ "" ∧ stripped ∉ secrets then secrets ++ [stripped] else secrets)
    [settings.jwtSecret]

/-! ### Making tokens -/

variable {Token : Type} (jwt : PyJwt Token)

/-- The payload of `create_jwt_token`; no custom claims are the empty dictionary. -/
def accessPayload (settings : JwtSettings) (sub : String) (customClaims : TokenPayload)
    (now : Int) : TokenPayload :=
  dictUpdate
    [("sub", .string sub), ("iat", numericDate now),
      ("exp", numericDate (now + seconds (settings.jwtExpiryMinutes * 60))),
      ("iss", .string settings.appName),
      ("tenant_id", (customClaims.lookup "tenant_id").getD .null)]
    customClaims

/-- `create_jwt_token`. -/
def createJwtToken (settings : JwtSettings) (sub : String) (customClaims : TokenPayload)
    (now : Int) : Token :=
  jwt.encode (accessPayload settings sub customClaims now) settings.jwtSecret settings.jwtAlgorithm

/-- The payload of `create_refresh_token`. -/
def refreshPayload (settings : JwtSettings) (sub : String) (customClaims : TokenPayload)
    (jti : String) (now : Int) : TokenPayload :=
  dictUpdate
    [("sub", .string sub), ("iat", numericDate now),
      ("exp", numericDate (now + seconds (settings.jwtRefreshTtlDays * 86400))),
      ("iss", .string settings.appName), ("jti", .string jti), ("token_type", .string "refresh"),
      ("tenant_id", (customClaims.lookup "tenant_id").getD .null)]
    customClaims

/-- `create_refresh_token`. -/
def createRefreshToken (settings : JwtSettings) (sub : String) (customClaims : TokenPayload)
    (jti : String) (now : Int) : Token :=
  jwt.encode (refreshPayload settings sub customClaims jti now) settings.jwtSecret
    settings.jwtAlgorithm

/-! ### Verifying them -/

/-- How a dependency or a route fails: with an answer, or with an exception that
no clause catches. -/
inductive AuthError where
  | answer (error : RouteError)
  | uncaught
deriving DecidableEq

def unauthorized (detail : String) : AuthError := .answer (.httpException 401 detail)

/-- The details of one verifier. -/
structure VerifierTexts where
  expired : String
  format : String
  signature : String
  invalid : String

/-- The loop over the secrets. `saw` is `saw_invalid_signature`, and `accept` is
what follows a decoded payload. -/
def verifyWith (decode : String → Except JwtError TokenPayload) (texts : VerifierTexts)
    (accept : TokenPayload → Except AuthError TokenPayload) :
    Bool → List String → Except AuthError TokenPayload
  | saw, [] => .error (unauthorized (if saw then texts.signature else texts.invalid))
  | _, secret :: rest =>
      match decode secret with
      | .ok payload => accept payload
      | .error .expiredSignature => .error (unauthorized texts.expired)
      | .error .invalidSignature => verifyWith decode texts accept true rest
      | .error .decodeError => .error (unauthorized texts.format)
      | .error .invalidClaim => .error .uncaught

def accessTexts : VerifierTexts where
  expired := "Token expired"
  format := "Invalid token format"
  signature := "Invalid token signature"
  invalid := "Invalid token"

def refreshTexts : VerifierTexts where
  expired := "Refresh token expired"
  format := "Invalid refresh token format"
  signature := "Invalid refresh token signature"
  invalid := "Invalid refresh token"

/-- What follows the decoding of an access token. `toInt` is `int`, which raises on
some values; the tenant context and the audit event are left out. -/
def acceptAccess (toInt : Json → Option Int) (payload : TokenPayload) :
    Except AuthError TokenPayload :=
  match payload.lookup "tenant_id" with
  | none => .ok payload
  | some .null => .ok payload
  | some tenantId => if (toInt tenantId).isSome then .ok payload else .error .uncaught

/-- What follows the decoding of a refresh token. -/
def acceptRefresh (payload : TokenPayload) : Except AuthError TokenPayload :=
  match payload.lookup "token_type" with
  | some (.string "refresh") => .ok payload
  | _ => .error (unauthorized "Not a refresh token")

/-- `verify_jwt_token_str`. -/
def verifyJwtTokenStr (toInt : Json → Option Int) (settings : JwtSettings) (token : Token)
    (now : Int) : Except AuthError TokenPayload :=
  verifyWith (fun secret => jwt.decode token secret settings.jwtAlgorithm now) accessTexts
    (acceptAccess toInt) false (jwtVerificationSecrets settings)

/-- `verify_jwt_token`. The header is given by its two parts around the first
blank, and an empty header counts as none. -/
def verifyJwtToken (toInt : Json → Option Int) (settings : JwtSettings)
    (authorization : Option (String × Token)) (now : Int) : Except AuthError TokenPayload :=
  match authorization with
  | none => .error (unauthorized "Missing Authorization header")
  | some (scheme, credentials) =>
      if lower scheme ≠ "bearer" then
        .error (unauthorized
          "Invalid authentication scheme. Use: Authorization: Bearer <token>")
      else
        verifyWith (fun secret => jwt.decode credentials secret settings.jwtAlgorithm now)
          accessTexts (acceptAccess toInt) false (jwtVerificationSecrets settings)

/-- `verify_refresh_token`. -/
def verifyRefreshToken (settings : JwtSettings) (token : Token) (now : Int) :
    Except AuthError TokenPayload :=
  verifyWith (fun secret => jwt.decode token secret settings.jwtAlgorithm now) refreshTexts
    acceptRefresh false (jwtVerificationSecrets settings)

end ApiObservatory.Security
