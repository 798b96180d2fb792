import ApiObservatory.Foundation.Text

/-
IP addresses as Python's `ipaddress` reads and classifies them, for
`_is_forbidden_ip` (`services/ingestor/repositories/source_registry.py`).

The scope id of an IPv6 address is checked and dropped: no classification looks at it.
-/

namespace ApiObservatory

open Foundation

inductive IpAddress where
  | v4 (bits : BitVec 32)
  | v6 (bits : BitVec 128)
deriving DecidableEq, Repr

/-- The addresses that begin with the first `length` bits of `address`. -/
structure IpNetwork (width : Nat) where
  address : BitVec width
  length : Nat
deriving DecidableEq

def IpNetwork.contains {width : Nat} (network : IpNetwork width) (bits : BitVec width) : Bool :=
  bits >>> (width - network.length) == network.address >>> (width - network.length)

/-- `a.b.c.d/length`. -/
def ipv4Network (a b c d length : Nat) : IpNetwork 32 :=
  ⟨BitVec.ofNat 32 (((a * 256 + b) * 256 + c) * 256 + d), length⟩

/-- The network of the first hextets of an address, which ends in `low`. -/
def ipv6Network (high : List Nat) (low length : Nat) : IpNetwork 128 :=
  ⟨BitVec.ofNat 128
    ((high ++ List.replicate (8 - high.length) 0).foldl (fun value n => value * 65536 + n) 0 + low),
    length⟩

/-! ### The constants of the module -/

/-- `_IPv4Constants._private_networks`. -/
def ipv4PrivateNetworks : List (IpNetwork 32) :=
  [ipv4Network 0 0 0 0 8, ipv4Network 10 0 0 0 8, ipv4Network 127 0 0 0 8,
    ipv4Network 169 254 0 0 16, ipv4Network 172 16 0 0 12, ipv4Network 192 0 0 0 24,
    ipv4Network 192 0 0 170 31, ipv4Network 192 0 2 0 24, ipv4Network 192 168 0 0 16,
    ipv4Network 198 18 0 0 15, ipv4Network 198 51 100 0 24, ipv4Network 203 0 113 0 24,
    ipv4Network 240 0 0 0 4, ipv4Network 255 255 255 255 32]

/-- `_IPv4Constants._private_networks_exceptions`. -/
def ipv4PrivateExceptions : List (IpNetwork 32) :=
  [ipv4Network 192 0 0 9 32, ipv4Network 192 0 0 10 32]

/-- `_IPv6Constants._private_networks`. -/
def ipv6PrivateNetworks : List (IpNetwork 128) :=
  [ipv6Network [] 1 128, ipv6Network [] 0 128, ipv6Network [0, 0, 0, 0, 0, 0xffff] 0 96,
    ipv6Network [0x64, 0xff9b, 1] 0 48, ipv6Network [0x100] 0 64, ipv6Network [0x2001] 0 23,
    ipv6Network [0x2001, 0xdb8] 0 32, ipv6Network [0x2002] 0 16, ipv6Network [0x3fff] 0 20,
    ipv6Network [0xfc00] 0 7, ipv6Network [0xfe80] 0 10]

/-- `_IPv6Constants._private_networks_exceptions`. -/
def ipv6PrivateExceptions : List (IpNetwork 128) :=
  [ipv6Network [0x2001, 1] 1 128, ipv6Network [0x2001, 1] 2 128, ipv6Network [0x2001, 3] 0 32,
    ipv6Network [0x2001, 4, 0x112] 0 48, ipv6Network [0x2001, 0x20] 0 28,
    ipv6Network [0x2001, 0x30] 0 28]

/-- `_IPv6Constants._reserved_networks`. -/
def ipv6ReservedNetworks : List (IpNetwork 128) :=
  [ipv6Network [] 0 8, ipv6Network [0x100] 0 8, ipv6Network [0x200] 0 7, ipv6Network [0x400] 0 6,
    ipv6Network [0x800] 0 5, ipv6Network [0x1000] 0 4, ipv6Network [0x4000] 0 3,
    ipv6Network [0x6000] 0 3, ipv6Network [0x8000] 0 3, ipv6Network [0xa000] 0 3,
    ipv6Network [0xc000] 0 3, ipv6Network [0xe000] 0 4, ipv6Network [0xf000] 0 5,
    ipv6Network [0xf800] 0 6, ipv6Network [0xfe00] 0 9]

/-! ### Classification -/

section V4

variable (bits : BitVec 32)

def ipv4IsPrivate : Bool :=
  ipv4PrivateNetworks.any (·.contains bits) && ipv4PrivateExceptions.all (!·.contains bits)

def ipv4IsLoopback : Bool := (ipv4Network 127 0 0 0 8).contains bits

def ipv4IsLinkLocal : Bool := (ipv4Network 169 254 0 0 16).contains bits

def ipv4IsMulticast : Bool := (ipv4Network 224 0 0 0 4).contains bits

def ipv4IsReserved : Bool := (ipv4Network 240 0 0 0 4).contains bits

def ipv4IsUnspecified : Bool := bits == 0

end V4

/-- `ipv4_mapped`. -/
def ipv4Mapped (bits : BitVec 128) : Option (BitVec 32) :=
  if bits >>> 32 = 0xffff then some (bits.setWidth 32) else none

/-- The address a mapped IPv4 address is classified as. -/
def IpAddress.classified : IpAddress → IpAddress
  | .v4 bits => .v4 bits
  | .v6 bits =>
      match ipv4Mapped bits with
      | some mapped => .v4 mapped
      | none => .v6 bits

namespace IpAddress

variable (address : IpAddress)

def isPrivate : Bool :=
  match address.classified with
  | .v4 bits => ipv4IsPrivate bits
  | .v6 bits =>
      ipv6PrivateNetworks.any (·.contains bits) && ipv6PrivateExceptions.all (!·.contains bits)

def isLoopback : Bool :=
  match address.classified with
  | .v4 bits => ipv4IsLoopback bits
  | .v6 bits => bits == 1

def isLinkLocal : Bool :=
  match address.classified with
  | .v4 bits => ipv4IsLinkLocal bits
  | .v6 bits => (ipv6Network [0xfe80] 0 10).contains bits

def isMulticast : Bool :=
  match address.classified with
  | .v4 bits => ipv4IsMulticast bits
  | .v6 bits => (ipv6Network [0xff00] 0 8).contains bits

def isReserved : Bool :=
  match address.classified with
  | .v4 bits => ipv4IsReserved bits
  | .v6 bits => ipv6ReservedNetworks.any (·.contains bits)

def isUnspecified : Bool :=
  match address.classified with
  | .v4 bits => ipv4IsUnspecified bits
  | .v6 bits => bits == 0

/-- The expression of `_is_forbidden_ip`. -/
def isForbidden : Bool :=
  address.isPrivate || address.isLoopback || address.isLinkLocal || address.isMulticast ||
    address.isReserved || address.isUnspecified

end IpAddress

/-! ### Mapped addresses -/

theorem ipv4Mapped_of_prefix (bits : BitVec 32) :
    ipv4Mapped (BitVec.ofNat 128 (0xffff00000000 + bits.toNat)) = some bits := by
  have small := bits.isLt
  have high : BitVec.ofNat 128 (0xffff00000000 + bits.toNat) >>> 32 = 0xffff := by
    apply BitVec.eq_of_toNat_eq
    rw [BitVec.toNat_ushiftRight, BitVec.toNat_ofNat, Nat.shiftRight_eq_div_pow,
      Nat.mod_eq_of_lt (by omega)]
    change _ = 0xffff
    omega
  have low : (BitVec.ofNat 128 (0xffff00000000 + bits.toNat)).setWidth 32 = bits := by
    apply BitVec.eq_of_toNat_eq
    rw [BitVec.toNat_setWidth, BitVec.toNat_ofNat]
    omega
  rw [ipv4Mapped, if_pos high, low]

/-- **An IPv4 address** is forbidden in its IPv6 form too. -/
theorem isForbidden_mapped (bits : BitVec 32) :
    (IpAddress.v6 (BitVec.ofNat 128 (0xffff00000000 + bits.toNat))).isForbidden =
      (IpAddress.v4 bits).isForbidden := by
  have same : (IpAddress.v6 (BitVec.ofNat 128 (0xffff00000000 + bits.toNat))).classified =
      (IpAddress.v4 bits).classified := by
    simp only [IpAddress.classified, ipv4Mapped_of_prefix]
  simp only [IpAddress.isForbidden, IpAddress.isPrivate, IpAddress.isLoopback,
    IpAddress.isLinkLocal, IpAddress.isMulticast, IpAddress.isReserved, IpAddress.isUnspecified,
    same]

/-! ### Reading -/

/-- `_BaseV4._parse_octet`. -/
def parseOctet (text : List Char) : Option Nat :=
  if text ≠ [] ∧ text.all Char.isDigit ∧ text.length ≤ 3 ∧
      (text = ['0'] ∨ text.head? ≠ some '0') ∧ decimalNumber text ≤ 255 then
    some (decimalNumber text)
  else none

/-- `IPv4Address`. -/
def parseIpv4 (text : List Char) : Option (BitVec 32) :=
  match (text.splitOn '.').mapM parseOctet with
  | some [a, b, c, d] => some (ipv4Network a b c d 32).address
  | _ => none

/-- `_BaseV6._parse_hextet`. -/
def parseHextet (text : List Char) : Option Nat :=
  if text ≠ [] ∧ text.all isHexDigit ∧ text.length ≤ 4 then some (hexNumber text) else none

/-- The parts of an address, with an IPv4 suffix as two hextets. -/
def ipv6Parts (text : List Char) : Option (List (List Char)) :=
  let parts := text.splitOn ':'
  let suffix := parts.getLastD []
  if parts.length < 3 then none
  else if '.' ∈ suffix then
    (parseIpv4 suffix).map fun bits =>
      parts.dropLast ++ [Nat.toDigits 16 (bits.toNat / 65536), Nat.toDigits 16 (bits.toNat % 65536)]
  else some parts

/-- The hextets on one side of a `::`. -/
def parseSide (parts : List (List Char)) : Option (List Nat) :=
  if parts = [[]] then some [] else parts.mapM parseHextet

/-- The eight hextets of an address. -/
def parseHextets (parts : List (List Char)) : Option (List Nat) :=
  if parts.length > 9 then none
  else
    match (List.range parts.length).filter fun i =>
        0 < i && decide (i + 1 < parts.length) && (parts.getD i []).isEmpty with
    | [] => if parts.length = 8 then parts.mapM parseHextet else none
    | [skipIndex] =>
        match parseSide (parts.take skipIndex), parseSide (parts.drop (skipIndex + 1)) with
        | some high, some low =>
            if high.length + low.length < 8 then
              some (high ++ List.replicate (8 - (high.length + low.length)) 0 ++ low)
            else none
        | _, _ => none
    | _ => none

/-- `_split_scope_id`, without the scope id. -/
def withoutScopeId (text : List Char) : Option (List Char) :=
  match partition '%' text with
  | (text, none) => some text
  | (text, some scopeId) => if scopeId = [] ∨ '%' ∈ scopeId then none else some text

/-- `IPv6Address`. -/
def parseIpv6 (text : List Char) : Option (BitVec 128) :=
  ((withoutScopeId text).bind ipv6Parts).bind parseHextets |>.map fun hextets =>
    (ipv6Network hextets 0 128).address

/-- `ip_address`; an error is the text of its `ValueError`. -/
def ipAddress (text : String) : Except String IpAddress :=
  let chars := text.toList
  match if '/' ∈ chars then none else parseIpv4 chars with
  | some bits => .ok (.v4 bits)
  | none =>
      match if '/' ∈ chars then none else parseIpv6 chars with
      | some bits => .ok (.v6 bits)
      | none => .error s!"'{text}' does not appear to be an IPv4 or IPv6 address"

/-- `_is_forbidden_ip`. -/
def isForbiddenIp (text : String) : Except String Bool :=
  (ipAddress text).map IpAddress.isForbidden

end ApiObservatory
