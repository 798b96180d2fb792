import ApiObservatory.Foundation.PackedBits
import ApiObservatory.Foundation.Run
import Mathlib.Data.Finset.Insert

/-
The seen-URL strategies of `services/ingestor/fetch.py`: the Bloom filter and the exact set.

`BitArrayBloomFilter` keeps `m` bits in a bytearray and sets `k` of them for each URL; an
index outside the bytearray raises, so reading and marking are partial here. The two
strategies are run side by side over the same calls (`next`), and the set says what has been
marked since the last reset (`isSeen_iff_marked`). `Sound` is what then holds of the filter.
-/

namespace ApiObservatory.UrlSeen

open Foundation

/-- The digests of `hashlib` that the filter uses. -/
structure Hashlib where
  sha256 : ByteArray → List UInt8
  /-- `blake2b(raw, digest_size=16)` -/
  blake2b : ByteArray → List UInt8

/-- `int.from_bytes(data, "big")` -/
def fromBytes (data : List UInt8) : Nat :=
  data.foldl (fun value byte => value * 256 + byte.toNat) 0

/-- The two formulas of the filter that compute with floats. -/
structure FloatFormulas (Rate : Type) where
  /-- `math.ceil(-n * math.log(p) / (math.log(2) ** 2))` -/
  optimalM : Nat → Rate → Nat
  /-- `round((m / n) * math.log(2))` -/
  rounded : Nat → Nat → Nat

structure BitArrayBloomFilter where
  m : Nat
  k : Nat
  bits : List (BitVec 8)
  count : Nat
deriving DecidableEq

namespace BitArrayBloomFilter

section Init

variable {Rate : Type} (formulas : FloatFormulas Rate)

def optimalK (m n : Nat) : Nat := max 1 (formulas.rounded m n)

/-- `__init__`. The bit count comes from a float, so that `m / 8` is exact and its ceiling
is the one of the quotient. -/
def init (capacity : Nat) (fpRate : Rate) : BitArrayBloomFilter :=
  let m := formulas.optimalM capacity fpRate
  { m := m
    k := optimalK formulas m capacity
    bits := List.replicate ((m + 7) / 8) 0
    count := 0 }

end Init

variable (hashlib : Hashlib) (filter : BitArrayBloomFilter)

def hashPair (url : String) : Nat × Nat :=
  let raw := url.toUTF8
  (fromBytes ((hashlib.sha256 raw).take 8), fromBytes ((hashlib.blake2b raw).take 8))

def positions (url : String) : List Nat :=
  let (h1, h2) := hashPair hashlib url
  (List.range filter.k).map fun i => (h1 + i * h2) % filter.m

def getBit (pos : Nat) : Option Bool :=
  let byteIdx := pos / 8
  let bitIdx := pos % 8
  (filter.bits[byteIdx]?).map fun byte => byte &&& 1#8 <<< bitIdx != 0#8

def setBit (pos : Nat) : Option BitArrayBloomFilter :=
  let byteIdx := pos / 8
  let bitIdx := pos % 8
  (filter.bits[byteIdx]?).map fun byte =>
    { filter with bits := filter.bits.set byteIdx (byte ||| 1#8 <<< bitIdx) }

/-- `all(self._get_bit(p) for p in positions)` -/
def allBits : List Nat → Option Bool
  | [] => some true
  | p :: rest => (filter.getBit p).bind fun bit => if bit then allBits rest else some false

def isSeen (url : String) : Option Bool := filter.allBits (filter.positions hashlib url)

/-- The loop of `mark_seen`. -/
def setBits (filter : BitArrayBloomFilter) : List Nat → Option BitArrayBloomFilter
  | [] => some filter
  | p :: rest => (filter.setBit p).bind fun filter => filter.setBits rest

def markSeen (url : String) : Option BitArrayBloomFilter :=
  (filter.setBits (filter.positions hashlib url)).map fun filter =>
    { filter with count := filter.count + 1 }

def reset : BitArrayBloomFilter :=
  { filter with bits := List.replicate filter.bits.length 0, count := 0 }

end BitArrayBloomFilter

structure InMemorySetFilter where
  seen : Finset String := ∅
deriving DecidableEq

namespace InMemorySetFilter

variable (filter : InMemorySetFilter)

def isSeen (url : String) : Bool := decide (url ∈ filter.seen)

def markSeen (url : String) : InMemorySetFilter := ⟨insert url filter.seen⟩

def reset (_ : InMemorySetFilter) : InMemorySetFilter := ⟨∅⟩

end InMemorySetFilter

/-! ### The bytearray as packed bits -/

namespace BitArrayBloomFilter

variable {hashlib : Hashlib} {filter filter' : BitArrayBloomFilter}

theorem getBit_eq (pos : Nat) : filter.getBit pos = PackedBits.getBit filter.bits pos := rfl

theorem setBit_eq (pos : Nat) : filter.setBit pos =
    (PackedBits.setBit filter.bits pos).map fun bits => { filter with bits := bits } := by
  unfold setBit PackedBits.setBit
  rw [Option.map_map]
  rfl

theorem allBits_eq (positions : List Nat) :
    filter.allBits positions = PackedBits.allBits filter.bits positions := by
  induction positions with
  | nil => rfl
  | cons pos rest ih => rw [allBits, PackedBits.allBits, getBit_eq, ih]

theorem setBits_eq (positions : List Nat) : filter.setBits positions =
    (PackedBits.setBits filter.bits positions).map fun bits => { filter with bits := bits } := by
  induction positions generalizing filter with
  | nil => rfl
  | cons pos rest ih =>
    rw [setBits, PackedBits.setBits, setBit_eq]
    cases PackedBits.setBit filter.bits pos with
    | none => rfl
    | some bits => exact ih

theorem markSeen_eq (url : String) : filter.markSeen hashlib url =
    (PackedBits.setBits filter.bits (filter.positions hashlib url)).map fun bits =>
      { filter with bits := bits, count := filter.count + 1 } := by
  rw [markSeen, setBits_eq, Option.map_map]
  rfl

/-! ### Well-formed filters -/

/-- There are bits, and just the bytes that hold them. -/
structure WellFormed (filter : BitArrayBloomFilter) : Prop where
  positive : 1 ≤ filter.m
  bytes : filter.bits.length = (filter.m + 7) / 8

theorem lt_of_mem_positions (positive : 1 ≤ filter.m) {url : String} {pos : Nat}
    (mem : pos ∈ filter.positions hashlib url) : pos < filter.m := by
  obtain ⟨i, -, rfl⟩ := List.mem_map.mp mem
  exact Nat.mod_lt _ positive

variable (hashlib) in
/-- A position modulo `m` lies in the bytearray, also when `m` is no multiple of eight. -/
theorem WellFormed.inside (wellFormed : filter.WellFormed) (url : String) :
    ∀ pos ∈ filter.positions hashlib url, pos / 8 < filter.bits.length := by
  intro pos mem
  have bound := lt_of_mem_positions wellFormed.positive mem
  rw [wellFormed.bytes]
  omega

theorem wellFormed_init {Rate : Type} {formulas : FloatFormulas Rate} {capacity : Nat}
    {fpRate : Rate} (positive : 1 ≤ formulas.optimalM capacity fpRate) :
    (init formulas capacity fpRate).WellFormed :=
  ⟨positive, List.length_replicate⟩

variable (hashlib) in
theorem WellFormed.exists_isSeen (wellFormed : filter.WellFormed) (url : String) :
    ∃ answer, filter.isSeen hashlib url = some answer := by
  rw [isSeen, allBits_eq]
  exact PackedBits.exists_allBits (wellFormed.inside hashlib url)

variable (hashlib) in
theorem WellFormed.exists_markSeen (wellFormed : filter.WellFormed) (url : String) :
    ∃ filter', filter.markSeen hashlib url = some filter' := by
  obtain ⟨bits, set⟩ := PackedBits.exists_setBits (wellFormed.inside hashlib url)
  exact ⟨_, by rw [markSeen_eq, set, Option.map_some]⟩

/-- What `mark_seen` does: it sets the bits of the URL and counts. -/
theorem markSeen_spec {url : String} (step : filter.markSeen hashlib url = some filter') :
    filter'.m = filter.m ∧ filter'.k = filter.k ∧ filter'.bits.length = filter.bits.length ∧
      ∀ pos, filter'.getBit pos =
        if pos ∈ filter.positions hashlib url then some true else filter.getBit pos := by
  rw [markSeen_eq] at step
  obtain ⟨bits, set, rfl⟩ := Option.map_eq_some_iff.mp step
  exact ⟨rfl, rfl, PackedBits.length_of_setBits set,
    PackedBits.getBit_setBits (by decide) set⟩

theorem isSeen_eq_true {url : String} : filter.isSeen hashlib url = some true ↔
    ∀ pos ∈ filter.positions hashlib url, filter.getBit pos = some true := by
  rw [isSeen, allBits_eq]
  exact PackedBits.allBits_eq_true

/-- The positions of a URL depend on `m` and `k` alone. -/
theorem positions_congr (m : filter'.m = filter.m) (k : filter'.k = filter.k) (url : String) :
    filter'.positions hashlib url = filter.positions hashlib url := by
  simp only [positions, m, k]

end BitArrayBloomFilter

/-! ### Both strategies over the same calls -/

structure Filters where
  bloom : BitArrayBloomFilter
  exact : InMemorySetFilter
deriving DecidableEq

inductive Call where
  | markSeen (url : String)
  | isSeen (url : String)
  | reset
deriving DecidableEq

/-- One call on both; `none` when the Bloom filter raises. -/
def next (hashlib : Hashlib) (s : Filters) : Call → Option Filters
  | .markSeen url => (s.bloom.markSeen hashlib url).map fun bloom => ⟨bloom, s.exact.markSeen url⟩
  | .isSeen url => (s.bloom.isSeen hashlib url).map fun _ => s
  | .reset => some ⟨s.bloom.reset, s.exact.reset⟩

section Runs

variable {Rate : Type} (formulas : FloatFormulas Rate) (capacity : Nat) (fpRate : Rate)

def start : Filters := ⟨.init formulas capacity fpRate, {}⟩

/-- `url` has been marked, and there was no reset since. -/
def MarkedSinceReset (history : List (Filters × Call)) (url : String) : Prop :=
  ∃ later s earlier, history = later ++ (s, .markSeen url) :: earlier ∧
    ∀ entry ∈ later, entry.2 ≠ .reset

variable {hashlib : Hashlib} {formulas : FloatFormulas Rate} {capacity : Nat} {fpRate : Rate}
  {history : List (Filters × Call)} {s s' : Filters}

theorem not_markedSinceReset_nil (url : String) : ¬ MarkedSinceReset [] url := by
  rintro ⟨later, s, earlier, same, -⟩
  simp at same

theorem markedSinceReset_cons (call : Call) (url : String) :
    MarkedSinceReset ((s, call) :: history) url ↔
      call = .markSeen url ∨ (call ≠ .reset ∧ MarkedSinceReset history url) := by
  constructor
  · rintro ⟨later, at', earlier, same, noReset⟩
    cases later with
    | nil =>
      left
      exact congrArg Prod.snd (List.cons.inj same).1
    | cons entry later =>
      right
      obtain ⟨rfl, rfl⟩ := List.cons.inj same
      obtain ⟨here, before⟩ := List.forall_mem_cons.mp noReset
      exact ⟨here, later, at', earlier, rfl, before⟩
  · rintro (rfl | ⟨notReset, later, at', earlier, rfl, noReset⟩)
    · exact ⟨[], s, history, rfl, by simp⟩
    · exact ⟨(s, call) :: later, at', earlier, rfl, List.forall_mem_cons.mpr ⟨notReset, noReset⟩⟩

/-- The Bloom filter has set every bit of every URL in the set. -/
structure Covers (hashlib : Hashlib) (s : Filters) : Prop where
  wellFormed : s.bloom.WellFormed
  covers : ∀ url ∈ s.exact.seen, s.bloom.isSeen hashlib url = some true

theorem covers_start (positive : 1 ≤ formulas.optimalM capacity fpRate) :
    Covers hashlib (start formulas capacity fpRate) :=
  ⟨BitArrayBloomFilter.wellFormed_init positive, by simp [start]⟩

/-- A call that is no reset clears no bit and changes neither parameter. -/
theorem bits_kept {call : Call} (step : next hashlib s call = some s') (notReset : call ≠ .reset) :
    s'.bloom.m = s.bloom.m ∧ s'.bloom.k = s.bloom.k ∧
      s'.bloom.bits.length = s.bloom.bits.length ∧
      ∀ pos, s.bloom.getBit pos = some true → s'.bloom.getBit pos = some true := by
  cases call with
  | markSeen url =>
    obtain ⟨bloom, marked, rfl⟩ := Option.map_eq_some_iff.mp step
    obtain ⟨m, k, length, bits⟩ := BitArrayBloomFilter.markSeen_spec marked
    refine ⟨m, k, length, fun pos set => ?_⟩
    rw [bits pos, set]
    exact ite_self _
  | isSeen url =>
    obtain ⟨answer, -, rfl⟩ := Option.map_eq_some_iff.mp step
    exact ⟨rfl, rfl, rfl, fun pos set => set⟩
  | reset => exact absurd rfl notReset

/-- What has been answered true is answered true until the next reset. -/
theorem isSeen_kept {call : Call} {url : String} (step : next hashlib s call = some s')
    (notReset : call ≠ .reset) (seen : s.bloom.isSeen hashlib url = some true) :
    s'.bloom.isSeen hashlib url = some true := by
  obtain ⟨m, k, -, kept⟩ := bits_kept step notReset
  rw [BitArrayBloomFilter.isSeen_eq_true] at seen ⊢
  rw [BitArrayBloomFilter.positions_congr m k]
  exact fun pos mem => kept pos (seen pos mem)

theorem covers_step {call : Call} (inv : Covers hashlib s)
    (step : next hashlib s call = some s') : Covers hashlib s' := by
  cases call with
  | markSeen url =>
    obtain ⟨m, k, length, -⟩ := bits_kept step (by simp)
    have earlier : ∀ u ∈ s.exact.seen, s'.bloom.isSeen hashlib u = some true :=
      fun u mem => isSeen_kept step (by simp) (inv.covers u mem)
    obtain ⟨bloom, marked, rfl⟩ := Option.map_eq_some_iff.mp step
    refine ⟨⟨m.symm ▸ inv.wellFormed.positive, ?_⟩, fun u mem => ?_⟩
    · rw [length, m]
      exact inv.wellFormed.bytes
    · rcases Finset.mem_insert.mp mem with rfl | old
      · obtain ⟨-, -, -, bits⟩ := BitArrayBloomFilter.markSeen_spec marked
        rw [BitArrayBloomFilter.isSeen_eq_true, BitArrayBloomFilter.positions_congr m k]
        intro pos mem
        rw [bits pos, if_pos mem]
      · exact earlier u old
  | isSeen url =>
    obtain ⟨answer, -, rfl⟩ := Option.map_eq_some_iff.mp step
    exact inv
  | reset =>
    cases step
    exact ⟨⟨inv.wellFormed.positive, List.length_replicate.trans inv.wellFormed.bytes⟩,
      by simp [InMemorySetFilter.reset]⟩

/-- The set is what has been marked since the last reset. -/
theorem isSeen_iff_marked (run : Run (next hashlib) (start formulas capacity fpRate) history s)
    (url : String) : s.exact.isSeen url = true ↔ MarkedSinceReset history url := by
  rw [InMemorySetFilter.isSeen, decide_eq_true_iff]
  induction run with
  | init => simp [start, not_markedSinceReset_nil]
  | snoc run step ih =>
    rename_i label
    rw [markedSinceReset_cons, ← ih]
    cases label with
    | markSeen marked =>
      obtain ⟨bloom, -, rfl⟩ := Option.map_eq_some_iff.mp step
      simp [InMemorySetFilter.markSeen, eq_comm]
    | isSeen asked =>
      obtain ⟨answer, -, rfl⟩ := Option.map_eq_some_iff.mp step
      simp
    | reset =>
      cases step
      simp [InMemorySetFilter.reset]

/-- The filter keeps the parameters and the number of bytes that it was built with. -/
theorem reset_eq (run : Run (next hashlib) (start formulas capacity fpRate) history s) :
    s.bloom.reset = .init formulas capacity fpRate ∧ s.exact.reset = {} := by
  have shape : s.bloom.m = (start formulas capacity fpRate).bloom.m ∧
      s.bloom.k = (start formulas capacity fpRate).bloom.k ∧
      s.bloom.bits.length = (start formulas capacity fpRate).bloom.bits.length := by
    induction run with
    | init => exact ⟨rfl, rfl, rfl⟩
    | snoc run step ih =>
      rename_i label
      by_cases again : label = .reset
      · subst again
        cases step
        exact ⟨ih.1, ih.2.1, List.length_replicate.trans ih.2.2⟩
      · obtain ⟨m, k, length, -⟩ := bits_kept step again
        exact ⟨m.trans ih.1, k.trans ih.2.1, length.trans ih.2.2⟩
  obtain ⟨m, k, length⟩ := shape
  refine ⟨?_, rfl⟩
  rw [BitArrayBloomFilter.reset, m, k, length]
  simp [start, BitArrayBloomFilter.init]

/-- What a seen-URL filter promises, after `history`, of a filter that was built as `fresh`. -/
structure Sound (hashlib : Hashlib) (fresh : Filters) (history : List (Filters × Call))
    (s : Filters) : Prop where
  /-- No call raises. -/
  total : ∀ call, ∃ s', next hashlib s call = some s'
  inside : ∀ url, ∀ pos ∈ s.bloom.positions hashlib url, pos / 8 < s.bloom.bits.length
  /-- There are no false negatives. -/
  marked : ∀ url, MarkedSinceReset history url → s.bloom.isSeen hashlib url = some true
  agrees : ∀ url, s.exact.isSeen url = true → s.bloom.isSeen hashlib url = some true
  /-- Bits are only added until the next reset. -/
  grows : ∀ later s', Run (next hashlib) s later s' → (∀ entry ∈ later, entry.2 ≠ .reset) →
    ∀ pos, s.bloom.getBit pos = some true → s'.bloom.getBit pos = some true
  reset : next hashlib s .reset = some fresh

/-- **No false negatives.** Whatever the digests and the formulas give, as long as there is a
bit at all, the filter is sound after every sequence of calls. -/
theorem no_false_negatives (positive : 1 ≤ formulas.optimalM capacity fpRate)
    (run : Run (next hashlib) (start formulas capacity fpRate) history s) :
    Sound hashlib (start formulas capacity fpRate) history s := by
  have inv : Covers hashlib s :=
    run.stateInvariant (covers_start positive) covers_step
  have agrees : ∀ url, s.exact.isSeen url = true → s.bloom.isSeen hashlib url = some true :=
    fun url seen => inv.covers url (of_decide_eq_true seen)
  refine ⟨?_, inv.wellFormed.inside hashlib, ?_, agrees, ?_, ?_⟩
  · intro call
    cases call with
    | markSeen url =>
      obtain ⟨bloom, marked⟩ := inv.wellFormed.exists_markSeen hashlib url
      exact ⟨_, by rw [next, marked, Option.map_some]⟩
    | isSeen url =>
      obtain ⟨answer, seen⟩ := inv.wellFormed.exists_isSeen hashlib url
      exact ⟨s, by rw [next, seen, Option.map_some]⟩
    | reset => exact ⟨_, rfl⟩
  · exact fun url marked => agrees url ((isSeen_iff_marked run url).mpr marked)
  · intro later s' more noReset pos set
    induction more with
    | init => exact set
    | snoc _ step ih =>
      obtain ⟨here, before⟩ := List.forall_mem_cons.mp noReset
      exact (bits_kept step here).2.2.2 pos (ih before)
  · obtain ⟨bloom, exact⟩ := reset_eq run
    rw [next, bloom, exact, start]

end Runs

/-! ### A filter of six bits -/

/-- `hashlib` on the URL `a`; every other URL is sent to zero. -/
def digestsOfA : Hashlib where
  sha256 raw := if raw.data.toList = [97] then [202, 151, 129, 18, 202, 27, 189, 202] else [0]
  blake2b raw := if raw.data.toList = [97] then [39, 195, 94, 110, 147, 115, 135, 127] else [0]

/-- The formulas at capacity 4 and rate one half. -/
def sixBits : FloatFormulas Rat where
  optimalM _ _ := 6
  rounded _ _ := 1

theorem no_false_negatives_sixBits : ∃ history s,
    Run (next digestsOfA) (start sixBits 4 (1 / 2)) history s ∧
      s.bloom.isSeen digestsOfA "a" = some true ∧
      Sound digestsOfA (start sixBits 4 (1 / 2)) history s := by
  obtain ⟨history, run⟩ := run_of_isSome (show (finalState (next digestsOfA)
    (start sixBits 4 (1 / 2)) [.isSeen "a", .reset, .markSeen "a"]).isSome = true by decide)
  exact ⟨history, _, run, by decide, no_false_negatives (by decide) run⟩

end ApiObservatory.UrlSeen
