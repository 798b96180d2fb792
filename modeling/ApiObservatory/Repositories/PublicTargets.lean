import ApiObservatory.Repositories.UrlValidation

/-
What an accepted `base_url` leads to, for `validate_source_base_url` and `_is_forbidden_ip`
(`services/ingestor/repositories/source_registry.py`).

Public address space is what the special-purpose address registries leave. The blocks of these
registries are listed here and compared with the networks of `ipaddress`: three kinds of addresses
are not public and pass `_is_forbidden_ip`.
-/

namespace ApiObservatory

open Foundation

/-! ### Networks inside each other -/

namespace IpNetwork

variable {width : Nat}

/-- The addresses of `network` are addresses of `wider`. -/
def Within (network wider : IpNetwork width) : Prop :=
  wider.length ≤ network.length ∧ wider.contains network.address = true

/-- No address is in both networks. -/
def Apart (network other : IpNetwork width) : Prop :=
  network.contains other.address = false ∧ other.contains network.address = false

instance (network wider : IpNetwork width) : Decidable (network.Within wider) :=
  inferInstanceAs (Decidable (_ ∧ _))

instance (network other : IpNetwork width) : Decidable (network.Apart other) :=
  inferInstanceAs (Decidable (_ ∧ _))

theorem contains_iff {network : IpNetwork width} {bits : BitVec width} :
    network.contains bits = true ↔
      bits >>> (width - network.length) = network.address >>> (width - network.length) :=
  beq_iff_eq

/-- Addresses with the same first bits have the same fewer first bits. -/
theorem shiftRight_of_shorter {longer shorter : Nat} (shorter_le : shorter ≤ longer)
    {bits bits' : BitVec width} (same : bits >>> (width - longer) = bits' >>> (width - longer)) :
    bits >>> (width - shorter) = bits' >>> (width - shorter) := by
  have split : width - shorter = (width - longer) + (width - shorter - (width - longer)) := by omega
  rw [split, BitVec.shiftRight_add, same, ← BitVec.shiftRight_add]

theorem Within.contains {network wider : IpNetwork width} (within : network.Within wider)
    {bits : BitVec width} (inside : network.contains bits = true) : wider.contains bits = true := by
  rw [contains_iff] at inside ⊢
  rw [shiftRight_of_shorter within.1 inside]
  exact contains_iff.mp within.2

/-- Of two networks that share an address, the longer begins inside the shorter. -/
theorem contains_of_shared {network other : IpNetwork width}
    (shorter : network.length ≤ other.length) {bits : BitVec width}
    (inside : network.contains bits = true) (inside' : other.contains bits = true) :
    network.contains other.address = true := by
  rw [contains_iff] at inside inside' ⊢
  rw [← inside, shiftRight_of_shorter shorter inside']

theorem Apart.contains {network other : IpNetwork width} (apart : network.Apart other)
    {bits : BitVec width} (inside : network.contains bits = true) : other.contains bits = false := by
  by_contra shared
  rw [Bool.not_eq_false] at shared
  rcases Nat.le_total network.length other.length with shorter | longer
  · exact Bool.false_ne_true (apart.1.symm.trans (contains_of_shared shorter inside shared))
  · exact Bool.false_ne_true (apart.2.symm.trans (contains_of_shared longer shared inside))

end IpNetwork

/-- In one of `blocks`, and in none of the `exceptions` inside them. -/
def covered {width : Nat} (blocks exceptions : List (IpNetwork width)) (bits : BitVec width) : Bool :=
  blocks.any (·.contains bits) && exceptions.all (!·.contains bits)

section Covered

variable {width : Nat} {blocks exceptions blocks' exceptions' others overlooked : List (IpNetwork width)}
  {bits : BitVec width}

theorem covered_iff : covered blocks exceptions bits = true ↔
    (∃ block ∈ blocks, block.contains bits = true) ∧
      ∀ exception ∈ exceptions, exception.contains bits = false := by
  simp [covered]

/-- **Coverage by wider networks.** An address is covered by the first list only if the second list
covers it, one of the others contains it, or it is among those overlooked. -/
theorem covered_of_within
    (wider : ∀ block ∈ blocks, block ∈ overlooked ∨ ∃ network ∈ blocks' ++ others, block.Within network)
    (narrower : ∀ exception ∈ exceptions', ∃ network ∈ exceptions, exception.Within network)
    (is_covered : covered blocks exceptions bits = true) :
    covered blocks' exceptions' bits = true ∨ (∃ network ∈ others, network.contains bits = true) ∨
      overlooked.any (·.contains bits) = true := by
  obtain ⟨⟨block, mem, inside⟩, none⟩ := covered_iff.mp is_covered
  rcases wider block mem with passed | ⟨network, mem', within⟩
  · exact .inr (.inr (List.any_eq_true.mpr ⟨block, passed, inside⟩))
  have there := within.contains inside
  rcases List.mem_append.mp mem' with mem' | mem'
  · refine .inl (covered_iff.mpr ⟨⟨network, mem', there⟩, fun exception excepted => ?_⟩)
    obtain ⟨reachable, mem'', within'⟩ := narrower exception excepted
    by_contra contained
    rw [Bool.not_eq_false] at contained
    exact Bool.false_ne_true ((none reachable mem'').symm.trans (within'.contains contained))
  · exact .inr (.inl ⟨network, mem', there⟩)

/-- Blocks that are listed and meet no exception cover their addresses. -/
theorem covered_of_overlooked (listed : overlooked ⊆ blocks)
    (apart : ∀ block ∈ overlooked, ∀ exception ∈ exceptions, block.Apart exception)
    (passed : overlooked.any (·.contains bits) = true) : covered blocks exceptions bits = true := by
  obtain ⟨block, mem, inside⟩ := List.any_eq_true.mp passed
  exact covered_iff.mpr ⟨⟨block, listed mem, inside⟩,
    fun exception excepted => (apart block mem exception excepted).contains inside⟩

end Covered

/-! ### The registries -/

/-- The IPv4 blocks that are not globally reachable: special-purpose, multicast and reserved. -/
def ipv4SpecialPurpose : List (IpNetwork 32) :=
  [ipv4Network 0 0 0 0 8, ipv4Network 10 0 0 0 8, ipv4Network 100 64 0 0 10,
    ipv4Network 127 0 0 0 8, ipv4Network 169 254 0 0 16, ipv4Network 172 16 0 0 12,
    ipv4Network 192 0 0 0 24, ipv4Network 192 0 2 0 24, ipv4Network 192 88 99 2 32,
    ipv4Network 192 168 0 0 16, ipv4Network 198 18 0 0 15, ipv4Network 198 51 100 0 24,
    ipv4Network 203 0 113 0 24, ipv4Network 224 0 0 0 4, ipv4Network 240 0 0 0 4,
    ipv4Network 255 255 255 255 32]

/-- Port control and NAT traversal anycast, inside `192.0.0.0/24`. -/
def ipv4Reachable : List (IpNetwork 32) := [ipv4Network 192 0 0 9 32, ipv4Network 192 0 0 10 32]

/-- The IPv6 blocks that are not globally reachable: special-purpose, multicast, and what is reserved
outside `2000::/3`. -/
def ipv6SpecialPurpose : List (IpNetwork 128) :=
  [ipv6Network [] 1 128, ipv6Network [] 0 128, ipv6Network [0, 0, 0, 0, 0, 0xffff] 0 96,
    ipv6Network [0x64, 0xff9b, 1] 0 48, ipv6Network [0x100] 0 64,
    ipv6Network [0x100, 0, 0, 1] 0 64, ipv6Network [0x2001] 0 23, ipv6Network [0x2001, 2] 0 48,
    ipv6Network [0x2001, 0xdb8] 0 32, ipv6Network [0x3fff] 0 20, ipv6Network [0x5f00] 0 16,
    ipv6Network [0xfc00] 0 7, ipv6Network [0xfe80] 0 10, ipv6Network [0xfec0] 0 10,
    ipv6Network [0xff00] 0 8, ipv6Network [] 0 8, ipv6Network [0x100] 0 8, ipv6Network [0x200] 0 7,
    ipv6Network [0x400] 0 6, ipv6Network [0x800] 0 5, ipv6Network [0x1000] 0 4,
    ipv6Network [0x4000] 0 3, ipv6Network [0x6000] 0 3, ipv6Network [0x8000] 0 3,
    ipv6Network [0xa000] 0 3, ipv6Network [0xc000] 0 3, ipv6Network [0xe000] 0 4,
    ipv6Network [0xf000] 0 5, ipv6Network [0xf800] 0 6, ipv6Network [0xfe00] 0 9]

/-- The blocks inside these that are globally reachable. -/
def ipv6Reachable : List (IpNetwork 128) :=
  [ipv6Network [0x64, 0xff9b] 0 96, ipv6Network [0x2001, 1] 1 128, ipv6Network [0x2001, 1] 2 128,
    ipv6Network [0x2001, 1] 3 128, ipv6Network [0x2001, 3] 0 32, ipv6Network [0x2001, 4, 0x112] 0 48,
    ipv6Network [0x2001, 0x20] 0 28, ipv6Network [0x2001, 0x30] 0 28]

namespace IpAddress

/-- In none of the blocks that are not globally reachable. -/
def isPublic : IpAddress → Bool
  | .v4 bits => !covered ipv4SpecialPurpose ipv4Reachable bits
  | .v6 bits => !covered ipv6SpecialPurpose ipv6Reachable bits

/-- Shared address space and the 6a44 relay. -/
def ipv4Overlooked : List (IpNetwork 32) := [ipv4Network 100 64 0 0 10, ipv4Network 192 88 99 2 32]

/-- Mapped IPv4 addresses, and what was site-local. -/
def ipv6Overlooked : List (IpNetwork 128) :=
  [ipv6Network [0, 0, 0, 0, 0, 0xffff] 0 96, ipv6Network [0xfec0] 0 10]

/-- Among the addresses that are not public and that `_is_forbidden_ip` has no name for. -/
def isOverlooked : IpAddress → Bool
  | .v4 bits => ipv4Overlooked.any (·.contains bits)
  | .v6 bits => ipv6Overlooked.any (·.contains bits)

/-- The networks of the other classifications of an IPv4 address. -/
def ipv4Others : List (IpNetwork 32) :=
  [ipv4Network 127 0 0 0 8, ipv4Network 169 254 0 0 16, ipv4Network 224 0 0 0 4,
    ipv4Network 240 0 0 0 4]

/-- The networks of the other classifications of an IPv6 address. -/
def ipv6Others : List (IpNetwork 128) :=
  [ipv6Network [0xfe80] 0 10, ipv6Network [0xff00] 0 8] ++ ipv6ReservedNetworks

theorem isForbidden_v4 {bits : BitVec 32} (permitted : (IpAddress.v4 bits).isForbidden = false) :
    covered ipv4PrivateNetworks ipv4PrivateExceptions bits = false ∧
      ∀ network ∈ ipv4Others, network.contains bits = false := by
  simp only [isForbidden, isPrivate, isLoopback, isLinkLocal, isMulticast, isReserved, classified,
    Bool.or_eq_false_iff] at permitted
  obtain ⟨⟨⟨⟨⟨ownPrivate, loopback⟩, linkLocal⟩, multicast⟩, reserved⟩, -⟩ := permitted
  refine ⟨ownPrivate, ?_⟩
  simp only [ipv4Others, List.forall_mem_cons, List.not_mem_nil, false_imp_iff, implies_true,
    and_true]
  exact ⟨loopback, linkLocal, multicast, reserved⟩

theorem isForbidden_v6 {bits : BitVec 128} (unmapped : ipv4Mapped bits = none)
    (permitted : (IpAddress.v6 bits).isForbidden = false) :
    covered ipv6PrivateNetworks ipv6PrivateExceptions bits = false ∧
      ∀ network ∈ ipv6Others, network.contains bits = false := by
  simp only [isForbidden, isPrivate, isLinkLocal, isMulticast, isReserved, classified, unmapped,
    Bool.or_eq_false_iff] at permitted
  obtain ⟨⟨⟨⟨⟨ownPrivate, -⟩, linkLocal⟩, multicast⟩, reserved⟩, -⟩ := permitted
  refine ⟨ownPrivate, ?_⟩
  simp only [ipv6Others, List.cons_append, List.nil_append, List.forall_mem_cons]
  exact ⟨linkLocal, multicast, fun network mem =>
    Bool.eq_false_iff.mpr fun inside =>
      Bool.false_ne_true (reserved.symm.trans (List.any_eq_true.mpr ⟨network, mem, inside⟩))⟩

/-- A mapped address is overlooked, whatever it is mapped to. -/
theorem ipv4Mapped_of_not_overlooked {bits : BitVec 128}
    (seen : (IpAddress.v6 bits).isOverlooked = false) : ipv4Mapped bits = none := by
  rw [ipv4Mapped, if_neg]
  intro mapped
  have inside : (ipv6Network [0, 0, 0, 0, 0, 0xffff] 0 96).contains bits = true :=
    IpNetwork.contains_iff.mpr (mapped.trans (by decide))
  exact Bool.false_ne_true (seen.symm.trans
    (List.any_eq_true.mpr ⟨_, List.mem_cons_self, inside⟩))

/-- **What `_is_forbidden_ip` lets through** is public unless it is overlooked. -/
theorem isPublic_of_permitted {address : IpAddress} (permitted : address.isForbidden = false) :
    address.isPublic = true ↔ address.isOverlooked = false := by
  cases address with
  | v4 bits =>
    obtain ⟨notPrivate, others⟩ := isForbidden_v4 permitted
    rw [isPublic, isOverlooked, Bool.not_eq_true', ← not_iff_not, Bool.not_eq_false,
      Bool.not_eq_false]
    constructor
    · intro is_covered
      rcases @covered_of_within _ _ _ ipv4PrivateNetworks ipv4PrivateExceptions ipv4Others ipv4Overlooked
          _ (by decide) (by decide) is_covered with ownPrivate | ⟨network, mem, inside⟩ | passed
      · exact absurd (notPrivate.symm.trans ownPrivate) Bool.false_ne_true
      · exact absurd ((others network mem).symm.trans inside) Bool.false_ne_true
      · exact passed
    · exact covered_of_overlooked (by decide) (by decide)
  | v6 bits =>
    rw [isPublic, isOverlooked, Bool.not_eq_true', ← not_iff_not, Bool.not_eq_false,
      Bool.not_eq_false]
    constructor
    · intro is_covered
      by_contra seen
      rw [Bool.not_eq_true] at seen
      obtain ⟨notPrivate, others⟩ := isForbidden_v6 (ipv4Mapped_of_not_overlooked seen) permitted
      rcases @covered_of_within _ _ _ ipv6PrivateNetworks ipv6PrivateExceptions ipv6Others ipv6Overlooked
          _ (by decide) (by decide) is_covered with ownPrivate | ⟨network, mem, inside⟩ | passed
      · exact absurd (notPrivate.symm.trans ownPrivate) Bool.false_ne_true
      · exact absurd ((others network mem).symm.trans inside) Bool.false_ne_true
      · exact absurd (seen.symm.trans passed) Bool.false_ne_true
    · exact covered_of_overlooked (by decide) (by decide)

end IpAddress

/-! ### Accepted targets -/

/-- A target as the validation promises it. -/
structure PublicTarget (unicode : UnicodeData) (settings : SsrfSettings) (getaddrinfo : Resolver)
    (baseUrl : String) : Prop where
  resolved : ∃ parsed hostname port given addresses,
    urlsplit unicode baseUrl = .ok parsed ∧ parsed.scheme = "https".toList ∧
    parsed.hostname unicode = some hostname ∧
    (∀ domains, allowedDomains unicode settings = some domains → unicode.lower hostname ∈ domains) ∧
    parsed.port = .ok given ∧ port = effectivePort parsed.scheme given ∧
    (settings.ssrfStrictPorts = true → port = 443) ∧
    getaddrinfo (String.ofList hostname) port = .ok addresses ∧ addresses ≠ [] ∧
    ∀ text ∈ addresses, ∃ address, ipAddress text = .ok address ∧ address.isPublic = true

section Accepted

variable {unicode : UnicodeData} {settings : SsrfSettings}

/-- The port of an accepted target is the one its text gives. -/
theorem checkedTarget_port {baseUrl hostname : String} {port : Nat} {parsed : SplitResult}
    (split : urlsplit unicode baseUrl = .ok parsed)
    (accepted : checkedTarget unicode settings baseUrl false = .ok (hostname, port)) :
    ∃ given, parsed.port = .ok given ∧ port = effectivePort parsed.scheme given := by
  unfold checkedTarget at accepted
  rw [split] at accepted
  dsimp only at accepted
  split_ifs at accepted
  split at accepted
  · cases accepted
  split_ifs at accepted
  split at accepted
  · cases accepted
  rename_i given read
  split_ifs at accepted
  cases accepted
  exact ⟨given, read, rfl⟩

/-- **Only public targets pass**, or the validation fails, unless the answer has only permitted
addresses and one of them is overlooked. -/
theorem only_public_targets_iff (unicode : UnicodeData) (settings : SsrfSettings)
    (getaddrinfo : Resolver) (baseUrl : String) :
    ((∃ text, validateSourceBaseUrl unicode settings getaddrinfo baseUrl = .error text) ∨
      validateSourceBaseUrl unicode settings getaddrinfo baseUrl = .ok () ∧
        PublicTarget unicode settings getaddrinfo baseUrl) ↔
      ∀ hostname port addresses, checkedTarget unicode settings baseUrl false = .ok (hostname, port) →
        getaddrinfo hostname port = .ok addresses → (∀ text ∈ addresses, Permitted text) →
        ∀ text ∈ addresses, ∀ address, ipAddress text = .ok address → address.isOverlooked = false := by
  have permitted_address : ∀ {text address}, Permitted text → ipAddress text = .ok address →
      address.isForbidden = false := by
    intro text address permitted read
    rw [Permitted, isForbiddenIp, read] at permitted
    exact Except.ok.inj permitted
  constructor
  · rintro outcome hostname port addresses checked answer permitted text mem address read
    have accepted : validateSourceBaseUrl unicode settings getaddrinfo baseUrl = .ok () :=
      validateSourceBaseUrl_ok.mpr ⟨hostname, port, checked, addresses, answer,
        List.ne_nil_of_mem mem, permitted⟩
    rcases outcome with ⟨error, refused⟩ | ⟨-, ⟨parsed, host, port', given, addresses', split, -, named,
      -, given_eq, port_eq, -, answer', -, isPublic⟩⟩
    · rw [accepted] at refused
      cases refused
    · obtain ⟨parsed', split', -, named', -⟩ := checkedTarget_ok checked
      cases split.symm.trans split'
      obtain ⟨given', given_eq', port_eq'⟩ := checkedTarget_port split checked
      cases given_eq.symm.trans given_eq'
      cases named.symm.trans named'
      rw [port_eq, ← port_eq', String.ofList_toList, answer] at answer'
      cases answer'
      obtain ⟨address', read', there⟩ := isPublic text mem
      cases read.symm.trans read'
      exact (IpAddress.isPublic_of_permitted (permitted_address (permitted text mem) read)).mp there
  · intro seen
    cases outcome : validateSourceBaseUrl unicode settings getaddrinfo baseUrl with
    | error text => exact .inl ⟨text, rfl⟩
    | ok =>
      obtain ⟨hostname, port, checked, addresses, answer, filled, permitted⟩ :=
        validateSourceBaseUrl_ok.mp outcome
      obtain ⟨parsed, split, https, named, listed, strict⟩ := checkedTarget_ok checked
      obtain ⟨given, given_eq, port_eq⟩ := checkedTarget_port split checked
      refine .inr ⟨rfl, ⟨parsed, hostname.toList, port, given, addresses, split, https, named, listed,
        given_eq, port_eq, strict, by rwa [String.ofList_toList], filled, fun text mem => ?_⟩⟩
      obtain ⟨address, read, -⟩ := permitted_iff.mp (permitted text mem)
      exact ⟨address, read, (IpAddress.isPublic_of_permitted (permitted_address (permitted text mem)
        read)).mpr (seen hostname port addresses checked answer permitted text mem address read)⟩

end Accepted

/-- A resolver that has one address for every host. -/
def oneAddress (text : String) : Resolver := fun _ _ => .ok [text]

/-- `https://example.com` with an address of the shared address space. -/
theorem shared_address_accepted :
    ¬ ((∃ text, validateSourceBaseUrl ⟨id, List.map Char.toLower⟩ {} (oneAddress "100.64.0.1")
        "https://example.com" = .error text) ∨
      validateSourceBaseUrl ⟨id, List.map Char.toLower⟩ {} (oneAddress "100.64.0.1")
          "https://example.com" = .ok () ∧
        PublicTarget ⟨id, List.map Char.toLower⟩ {} (oneAddress "100.64.0.1")
          "https://example.com") := by
  have accepted : validateSourceBaseUrl ⟨id, List.map Char.toLower⟩ {} (oneAddress "100.64.0.1")
      "https://example.com" = .ok () := rfl
  rintro (⟨text, refused⟩ | ⟨-, ⟨_, _, _, _, addresses, -, -, -, -, -, -, -, answer, -, isPublic⟩⟩)
  · rw [accepted] at refused
    cases refused
  · cases answer
    obtain ⟨address, read, there⟩ := isPublic "100.64.0.1" List.mem_cons_self
    have shared : ipAddress "100.64.0.1" = .ok (.v4 0x64400001) := rfl
    rw [shared] at read
    cases read
    exact absurd there (by decide)

end ApiObservatory
