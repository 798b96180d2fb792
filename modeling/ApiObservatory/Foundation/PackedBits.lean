import Mathlib.Data.List.Basic

/-
Bits packed into words of `w` bits, the lowest bit of a word first.

Bit `pos` is bit `pos % w` of word `pos / w`. A program reads it with a mask and
sets it with the same mask, and a position whose word is not there is an index
error (`none`). `getBit_setBit` says that setting one bit is exactly that, also
for two positions in one word; `getBit_setBits` says it of a list of positions,
which may repeat.
-/

namespace ApiObservatory.Foundation.PackedBits

variable {w : Nat}

/-- The word with only bit `i` set. -/
def mask (w i : Nat) : BitVec w := 1#w <<< i

/-- Read the bit at `pos`. -/
def getBit (words : List (BitVec w)) (pos : Nat) : Option Bool :=
  (words[pos / w]?).map fun word => word &&& mask w (pos % w) != 0#w

/-- Set the bit at `pos`. -/
def setBit (words : List (BitVec w)) (pos : Nat) : Option (List (BitVec w)) :=
  (words[pos / w]?).map fun word => words.set (pos / w) (word ||| mask w (pos % w))

/-- Set the bits at all positions, in order. -/
def setBits (words : List (BitVec w)) : List Nat → Option (List (BitVec w))
  | [] => some words
  | pos :: rest => (setBit words pos).bind fun words' => setBits words' rest

/-- Are the bits at all positions set? The first that is not ends the search. -/
def allBits (words : List (BitVec w)) : List Nat → Option Bool
  | [] => some true
  | pos :: rest => (getBit words pos).bind fun bit => if bit then allBits words rest else some false

/-! ### One word -/

theorem getLsbD_mask {i : Nat} (inside : i < w) (j : Nat) :
    (mask w i).getLsbD j = decide (j = i) := by
  unfold mask
  rw [BitVec.getLsbD_shiftLeft, BitVec.getLsbD_one]
  by_cases same : j = i
  · subst same
    have positive : 0 < w := Nat.zero_lt_of_lt inside
    simp [inside, positive]
  · have apart : ¬ (i ≤ j ∧ j - i = 0) := by omega
    simp only [same, decide_false]
    grind

/-- The mask reads the bit it names. -/
theorem and_mask_ne_zero {i : Nat} (inside : i < w) (word : BitVec w) :
    (word &&& mask w i != 0#w) = word.getLsbD i := by
  cases bit : word.getLsbD i with
  | true =>
    rw [bne_iff_ne]
    intro zero
    have here := congrArg (fun word : BitVec w => word.getLsbD i) zero
    simp [getLsbD_mask inside, bit] at here
  | false =>
    rw [bne_eq_false_iff_eq]
    refine BitVec.eq_of_getLsbD_eq fun j _ => ?_
    rw [BitVec.getLsbD_and, getLsbD_mask inside]
    by_cases same : j = i
    · subst same
      simp [bit]
    · simp [same]

/-! ### One position -/

theorem isSome_getBit (words : List (BitVec w)) (pos : Nat) :
    (getBit words pos).isSome = true ↔ pos / w < words.length := by
  simp [getBit]

theorem isSome_setBit (words : List (BitVec w)) (pos : Nat) :
    (setBit words pos).isSome = true ↔ pos / w < words.length := by
  simp [setBit]

theorem getBit_eq (positive : 0 < w) (words : List (BitVec w)) (pos : Nat) :
    getBit words pos = (words[pos / w]?).map fun word => word.getLsbD (pos % w) := by
  unfold getBit
  congr 1
  funext word
  exact and_mask_ne_zero (Nat.mod_lt _ positive) word

/-- Setting a bit sets that bit and leaves every other as it was. -/
theorem getBit_setBit (positive : 0 < w) {words words' : List (BitVec w)} {pos : Nat}
    (step : setBit words pos = some words') (q : Nat) :
    getBit words' q = if q = pos then some true else getBit words q := by
  obtain ⟨word, here, rfl⟩ := Option.map_eq_some_iff.mp step
  obtain ⟨bound, -⟩ := List.getElem?_eq_some_iff.mp here
  have inside : pos % w < w := Nat.mod_lt _ positive
  rw [getBit_eq positive, getBit_eq positive, List.getElem?_set]
  by_cases same : pos / w = q / w
  · rw [if_pos same, if_pos bound, ← same, here, Option.map_some, Option.map_some,
      BitVec.getLsbD_or, getLsbD_mask inside]
    -- the same word: the two positions agree when their bits in it do
    have agree : q % w = pos % w ↔ q = pos := by
      constructor
      · intro bits
        rw [← Nat.div_add_mod q w, ← Nat.div_add_mod pos w, bits, same]
      · exact fun eq => congrArg (· % w) eq
    by_cases eq : q = pos <;> simp [agree, eq]
  · have apart : q ≠ pos := fun eq => same (congrArg (· / w) eq.symm)
    rw [if_neg same, if_neg apart]

theorem length_of_setBit {words words' : List (BitVec w)} {pos : Nat}
    (step : setBit words pos = some words') : words'.length = words.length := by
  obtain ⟨word, -, rfl⟩ := Option.map_eq_some_iff.mp step
  exact List.length_set

/-! ### Lists of positions -/

theorem length_of_setBits {words words' : List (BitVec w)} {positions : List Nat}
    (step : setBits words positions = some words') : words'.length = words.length := by
  induction positions generalizing words with
  | nil =>
    cases step
    rfl
  | cons pos rest ih =>
    obtain ⟨between, first, others⟩ := Option.bind_eq_some_iff.mp step
    exact (ih others).trans (length_of_setBit first)

theorem exists_setBits {words : List (BitVec w)} {positions : List Nat}
    (inside : ∀ pos ∈ positions, pos / w < words.length) :
    ∃ words', setBits words positions = some words' := by
  induction positions generalizing words with
  | nil => exact ⟨words, rfl⟩
  | cons pos rest ih =>
    obtain ⟨here, others⟩ := List.forall_mem_cons.mp inside
    obtain ⟨between, first⟩ := Option.isSome_iff_exists.mp ((isSome_setBit words pos).mpr here)
    rw [← length_of_setBit first] at others
    obtain ⟨words', done⟩ := ih others
    exact ⟨words', Option.bind_eq_some_iff.mpr ⟨between, first, done⟩⟩

/-- Setting a list of bits sets those bits and no others. -/
theorem getBit_setBits (positive : 0 < w) {words words' : List (BitVec w)} {positions : List Nat}
    (step : setBits words positions = some words') (q : Nat) :
    getBit words' q = if q ∈ positions then some true else getBit words q := by
  induction positions generalizing words with
  | nil =>
    cases step
    simp
  | cons pos rest ih =>
    obtain ⟨between, first, others⟩ := Option.bind_eq_some_iff.mp step
    rw [ih others, getBit_setBit positive first]
    by_cases later : q ∈ rest
    · simp [later]
    · by_cases same : q = pos <;> simp [later, same]

theorem exists_allBits {words : List (BitVec w)} {positions : List Nat}
    (inside : ∀ pos ∈ positions, pos / w < words.length) :
    ∃ answer, allBits words positions = some answer := by
  induction positions with
  | nil => exact ⟨true, rfl⟩
  | cons pos rest ih =>
    obtain ⟨here, others⟩ := List.forall_mem_cons.mp inside
    obtain ⟨bit, read⟩ := Option.isSome_iff_exists.mp ((isSome_getBit words pos).mpr here)
    obtain ⟨answer, found⟩ := ih others
    cases bit with
    | true => exact ⟨answer, by simp [allBits, read, found]⟩
    | false => exact ⟨false, by simp [allBits, read]⟩

theorem allBits_eq_true {words : List (BitVec w)} {positions : List Nat} :
    allBits words positions = some true ↔ ∀ pos ∈ positions, getBit words pos = some true := by
  induction positions with
  | nil => simp [allBits]
  | cons pos rest ih =>
    rw [List.forall_mem_cons, ← ih, allBits]
    cases read : getBit words pos with
    | none => simp
    | some bit => cases bit <;> simp

end ApiObservatory.Foundation.PackedBits
