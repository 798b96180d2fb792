import ApiObservatory.Platform.Urls
import Mathlib.Tactic.ByContra
import Mathlib.Tactic.SplitIfs

/-
Protection against requests to internal addresses: `validate_source_base_url`
(`services/ingestor/repositories/source_registry.py`).

The resolver is a parameter. A URL is checked in two parts: its text, and the addresses
its host resolves to.
-/

namespace ApiObservatory

open Foundation

structure SsrfSettings where
  ssrfAllowedDomains : Option String := none
  ssrfStrictPorts : Bool := true
deriving DecidableEq

/-- How a resolution fails: with a `gaierror`, or with the text of a `UnicodeError`. -/
inductive ResolverError where
  | gaierror
  | value (text : String)
deriving DecidableEq

/-- What `getaddrinfo` answers for a host and a port, as the texts of the addresses. -/
abbrev Resolver := String → Nat → Except ResolverError (List String)

def ssrfHttpsPorts : List Nat := [443]

section Validation

variable (unicode : UnicodeData) (settings : SsrfSettings)

/-- The domains of the allow-list; none is configured when the setting is empty. -/
def allowedDomains : Option (List (List Char)) :=
  match settings.ssrfAllowedDomains with
  | none => none
  | some "" => none
  | some domains =>
      some (((domains.toList.splitOn ',').filter fun d => strip d ≠ "").map fun d =>
        unicode.lower (strip d).toList)

/-- The port a URL is resolved with. -/
def effectivePort (scheme : List Char) (port : Option Nat) : Nat :=
  match port with
  | none => if scheme = "https".toList then 443 else 80
  | some 0 => if scheme = "https".toList then 443 else 80
  | some port => port

/-- `validate_source_base_url` before the resolution: the host and the port. -/
def checkedTarget (baseUrl : String) (allowHttp : Bool) : Except String (String × Nat) :=
  match urlsplit unicode baseUrl with
  | .error text => .error text
  | .ok parsed =>
      if parsed.scheme ∉ ["https".toList, "http".toList] then
        .error "base_url must use https scheme."
      else if parsed.scheme = "http".toList ∧ allowHttp = false then
        .error "base_url must use https scheme."
      else
        match parsed.hostname unicode with
        | none => .error "base_url must include a valid hostname."
        | some hostname =>
            if (allowedDomains unicode settings).any (unicode.lower hostname ∉ ·) then
              .error "base_url hostname is not in the configured SSRF allow-list."
            else
              match parsed.port with
              | .error text => .error text
              | .ok port =>
                  let port := effectivePort parsed.scheme port
                  if settings.ssrfStrictPorts ∧ port ∉ ssrfHttpsPorts then
                    .error "base_url must use HTTPS port 443."
                  else .ok (String.ofList hostname, port)

/-- `validate_source_base_url` after the resolution. -/
def checkAddresses : Except ResolverError (List String) → Except String Unit
  | .error .gaierror => .error "base_url hostname could not be resolved."
  | .error (.value text) => .error text
  | .ok addresses =>
      if addresses = [] then .error "base_url hostname could not be resolved."
      else
        match addresses.mapM isForbiddenIp with
        | .error text => .error text
        | .ok forbidden =>
            if true ∈ forbidden then .error "base_url resolves to private or local IP space."
            else .ok ()

/-- `validate_source_base_url`. -/
def validateSourceBaseUrl (getaddrinfo : Resolver) (baseUrl : String) (allowHttp : Bool := false) :
    Except String Unit :=
  match checkedTarget unicode settings baseUrl allowHttp with
  | .error text => .error text
  | .ok (hostname, port) => checkAddresses (getaddrinfo hostname port)

end Validation

/-! ### Accepted URLs -/

/-- An address that the validation accepts. -/
def Permitted (address : String) : Prop := isForbiddenIp address = .ok false

/-- An answer that the validation accepts. -/
def PermittedAnswer (answer : Except ResolverError (List String)) : Prop :=
  ∃ addresses, answer = .ok addresses ∧ addresses ≠ [] ∧ ∀ address ∈ addresses, Permitted address

section Accepted

variable {unicode : UnicodeData} {settings : SsrfSettings}

/-- A permitted address is in none of the six kinds of networks. -/
theorem permitted_iff {text : String} :
    Permitted text ↔ ∃ address, ipAddress text = .ok address ∧ address.isPrivate = false ∧
      address.isLoopback = false ∧ address.isLinkLocal = false ∧ address.isMulticast = false ∧
      address.isReserved = false ∧ address.isUnspecified = false := by
  unfold Permitted isForbiddenIp
  cases ipAddress text with
  | error error => simp [Except.map]
  | ok address => simp [Except.map, IpAddress.isForbidden, and_assoc]

theorem mapM_permitted {addresses : List String} :
    (∃ flags, addresses.mapM isForbiddenIp = .ok flags ∧ true ∉ flags) ↔
      ∀ address ∈ addresses, Permitted address := by
  induction addresses with
  | nil => exact iff_of_true ⟨[], rfl, List.not_mem_nil⟩ fun _ mem => absurd mem List.not_mem_nil
  | cons address rest ih =>
    rw [List.forall_mem_cons, ← ih, List.mapM_cons, Permitted]
    cases isForbiddenIp address with
    | error text =>
      refine iff_of_false ?_ ?_
      · rintro ⟨flags, is, -⟩
        cases is
      · rintro ⟨is, -⟩
        cases is
    | ok forbidden =>
      cases rest.mapM isForbiddenIp with
      | error text =>
        refine iff_of_false ?_ ?_
        · rintro ⟨flags, is, -⟩
          cases is
        · rintro ⟨-, flags, is, -⟩
          cases is
      | ok later =>
        constructor
        · rintro ⟨flags, is, clean⟩
          cases is
          rw [List.mem_cons, not_or, Bool.true_eq, Bool.not_eq_true] at clean
          exact ⟨congrArg _ clean.1, later, rfl, clean.2⟩
        · rintro ⟨is, flags, same, clean⟩
          cases is
          cases same
          exact ⟨false :: later, rfl, by simpa using clean⟩

/-- **The resolution** is accepted exactly when it has addresses and forbids none. -/
theorem checkAddresses_ok {answer : Except ResolverError (List String)} :
    checkAddresses answer = .ok () ↔ PermittedAnswer answer := by
  unfold PermittedAnswer
  cases answer with
  | error error =>
    refine iff_of_false ?_ ?_
    · cases error <;> nofun
    · rintro ⟨addresses, is, -⟩
      cases is
  | ok addresses =>
    simp only [Except.ok.injEq, exists_eq_left', ← mapM_permitted, checkAddresses]
    by_cases empty : addresses = []
    · simp [empty]
    · cases addresses.mapM isForbiddenIp with
      | error text => simp [empty]
      | ok forbidden =>
        simp only [ne_eq, empty, not_false_eq_true, true_and, Except.ok.injEq,
          exists_eq_left']
        by_cases mem : true ∈ forbidden
        · simp [mem]
        · simp [mem]

/-- **An accepted URL** passes the checks of its text, and its host resolves to permitted
addresses. -/
theorem validateSourceBaseUrl_ok {getaddrinfo : Resolver} {baseUrl : String} {allowHttp : Bool} :
    validateSourceBaseUrl unicode settings getaddrinfo baseUrl allowHttp = .ok () ↔
      ∃ hostname port, checkedTarget unicode settings baseUrl allowHttp = .ok (hostname, port) ∧
        PermittedAnswer (getaddrinfo hostname port) := by
  unfold validateSourceBaseUrl
  cases checkedTarget unicode settings baseUrl allowHttp with
  | error text => simp
  | ok target =>
    obtain ⟨hostname, port⟩ := target
    simp only [Except.ok.injEq, Prod.mk.injEq, checkAddresses_ok]
    constructor
    · exact fun permitted => ⟨hostname, port, ⟨rfl, rfl⟩, permitted⟩
    · rintro ⟨_, _, ⟨rfl, rfl⟩, permitted⟩
      exact permitted

/-- What the text of an accepted `https` URL is like. -/
theorem checkedTarget_ok {baseUrl hostname : String} {port : Nat}
    (accepted : checkedTarget unicode settings baseUrl false = .ok (hostname, port)) :
    ∃ parsed, urlsplit unicode baseUrl = .ok parsed ∧ parsed.scheme = "https".toList ∧
      parsed.hostname unicode = some hostname.toList ∧
      (∀ domains, allowedDomains unicode settings = some domains →
        unicode.lower hostname.toList ∈ domains) ∧
      (settings.ssrfStrictPorts = true → port = 443) := by
  unfold checkedTarget at accepted
  split at accepted
  · cases accepted
  rename_i parsed split
  split_ifs at accepted with known plain
  split at accepted
  · cases accepted
  rename_i host named
  split_ifs at accepted with listed
  split at accepted
  · cases accepted
  rename_i given read
  simp only at accepted
  split_ifs at accepted with other
  cases accepted
  have https : parsed.scheme = "https".toList := by
    rcases List.mem_cons.mp known with is | http
    · exact is
    · exact absurd ⟨List.mem_singleton.mp http, rfl⟩ plain
  refine ⟨parsed, split, https, ?_, ?_, ?_⟩
  · rw [named, String.toList_ofList]
  · intro domains configured
    rw [String.toList_ofList]
    by_contra missing
    exact listed (by simp [configured, missing])
  · intro strict
    by_contra differs
    exact other ⟨strict, by simpa [ssrfHttpsPorts] using differs⟩

end Accepted

end ApiObservatory
