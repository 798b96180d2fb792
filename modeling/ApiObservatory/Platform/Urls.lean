import ApiObservatory.Platform.IpAddress

/-
`urllib.parse.urlsplit` and the properties of its result that
`validate_source_base_url` reads.

An error is the text of a `ValueError`. What Python takes from its Unicode database is a
parameter.
-/

namespace ApiObservatory

open Foundation

/-- Functions of the Unicode database. -/
structure UnicodeData where
  /-- `unicodedata.normalize` to NFKC. -/
  normalize : List Char → List Char
  /-- `str.lower`. -/
  lower : List Char → List Char

structure SplitResult where
  scheme : List Char
  netloc : List Char
  path : List Char
  query : List Char
  fragment : List Char
deriving DecidableEq

/-! ### Checks of the network location -/

/-- `_check_bracketed_host`. -/
def checkBracketedHost (hostname : List Char) : Except String Unit :=
  if hostname.head? = some 'v' then
    match partition '.' (hostname.drop 1) with
    | (version, some (_ :: _)) =>
        if version ≠ [] ∧ version.all isHexDigit then .ok ()
        else .error "IPvFuture address is invalid"
    | _ => .error "IPvFuture address is invalid"
  else
    match ipAddress (String.ofList hostname) with
    | .error text => .error text
    | .ok (.v4 _) => .error "An IPv4 address cannot be in brackets"
    | .ok (.v6 _) => .ok ()

/-- `_check_bracketed_netloc`. -/
def checkBracketedNetloc (netloc : List Char) : Except String Unit :=
  let hostnameAndPort := afterLast '@' netloc
  match partition '[' hostnameAndPort with
  | (beforeBracket, some bracketed) =>
      let (hostname, port) := partition ']' bracketed
      let port := port.getD []
      if beforeBracket ≠ [] then .error "Invalid IPv6 URL"
      else if port ≠ [] ∧ port.head? ≠ some ':' then .error "Invalid IPv6 URL"
      else checkBracketedHost hostname
  | (_, none) => checkBracketedHost (partition ':' hostnameAndPort).1

/-- `_checknetloc`. -/
def checkNetloc (unicode : UnicodeData) (netloc : List Char) : Except String Unit :=
  if isAscii netloc then .ok ()
  else
    let bare := netloc.filter fun c => c ∉ ['@', ':', '#', '?']
    let normalized := unicode.normalize bare
    if bare = normalized then .ok ()
    else if ['/', '?', '#', '@', ':'].any (· ∈ normalized) then
      .error (s!"netloc '{String.ofList netloc}' contains invalid " ++
        "characters under NFKC normalization")
    else .ok ()

/-! ### Splitting -/

def isSchemeChar (c : Char) : Bool := c.isAlphanum || c == '+' || c == '-' || c == '.'

/-- The scheme of a URL and the rest behind its colon. -/
def splitScheme (url : List Char) : List Char × List Char :=
  match url, partition ':' url with
  | first :: _, (scheme, some rest) =>
      if first.isAlpha ∧ scheme.all isSchemeChar then (scheme.map Char.toLower, rest) else ([], url)
  | _, _ => ([], url)

/-- `_splitnetloc`, behind `//`. -/
def splitNetloc : List Char → List Char × List Char
  | '/' :: '/' :: rest =>
      (rest.takeWhile fun c => c ∉ ['/', '?', '#'], rest.dropWhile fun c => c ∉ ['/', '?', '#'])
  | url => ([], url)

/-- `urlsplit`. -/
def urlsplit (unicode : UnicodeData) (url : String) : Except String SplitResult :=
  let url := (url.toList.dropWhile fun c => c.toNat ≤ 0x20).filter fun c =>
    c ∉ ['\t', '\r', '\n']
  let (scheme, url) := splitScheme url
  let (netloc, url) := splitNetloc url
  if ('[' ∈ netloc ∧ ']' ∉ netloc) ∨ (']' ∈ netloc ∧ '[' ∉ netloc) then .error "Invalid IPv6 URL"
  else
    match if '[' ∈ netloc then checkBracketedNetloc netloc else .ok () with
    | .error text => .error text
    | .ok () =>
        let (url, fragment) := partition '#' url
        let (path, query) := partition '?' url
        match checkNetloc unicode netloc with
        | .error text => .error text
        | .ok () =>
            .ok { scheme, netloc, path, query := query.getD [], fragment := fragment.getD [] }

/-! ### Host and port -/

namespace SplitResult

variable (parsed : SplitResult)

/-- `_hostinfo`; an empty port is none. -/
def hostinfo : List Char × Option (List Char) :=
  let hostinfo := afterLast '@' parsed.netloc
  let (hostname, port) :=
    match partition '[' hostinfo with
    | (_, some bracketed) =>
        let (hostname, rest) := partition ']' bracketed
        (hostname, (partition ':' (rest.getD [])).2)
    | (_, none) => partition ':' hostinfo
  (hostname, port.filter (· ≠ []))

/-- `hostname`: a zone keeps its case. -/
def hostname (unicode : UnicodeData) : Option (List Char) :=
  let hostname := parsed.hostinfo.1
  if hostname = [] then none
  else
    match partition '%' hostname with
    | (address, none) => some (unicode.lower address)
    | (address, some zone) => some (unicode.lower address ++ '%' :: zone)

/-- `port`. -/
def port : Except String (Option Nat) :=
  match parsed.hostinfo.2 with
  | none => .ok none
  | some port =>
      if ¬ port.all Char.isDigit then
        .error s!"Port could not be cast to integer value as '{String.ofList port}'"
      else if decimalNumber port > 65535 then .error "Port out of range 0-65535"
      else .ok (some (decimalNumber port))

end SplitResult

end ApiObservatory
