/-
Operations of Python's `str`, on lists of characters.
-/

namespace ApiObservatory.Foundation

/-- The characters `str.strip` takes away. -/
def isSpace (c : Char) : Bool :=
  (0x09 ≤ c.toNat && c.toNat ≤ 0x0d) || (0x1c ≤ c.toNat && c.toNat ≤ 0x20) ||
    (0x2000 ≤ c.toNat && c.toNat ≤ 0x200a) ||
    c.toNat ∈ [0x85, 0xa0, 0x1680, 0x2028, 0x2029, 0x202f, 0x205f, 0x3000]

/-- `str.strip`. -/
def strip (text : List Char) : String :=
  String.ofList ((text.dropWhile isSpace).reverse.dropWhile isSpace).reverse

/-- `str.partition`: the text before the first separator, and the text after it if there
is one. -/
def partition (separator : Char) (text : List Char) : List Char × Option (List Char) :=
  match text.dropWhile (· ≠ separator) with
  | [] => (text, none)
  | _ :: after => (text.takeWhile (· ≠ separator), some after)

/-- The last item of `str.rpartition`. -/
def afterLast (separator : Char) (text : List Char) : List Char :=
  (text.reverse.takeWhile (· ≠ separator)).reverse

/-- `str.isascii`. -/
def isAscii (text : List Char) : Bool := text.all (·.toNat < 128)

/-- The number that digits in a base stand for. -/
def numberOf (base : Nat) (digit : Char → Nat) (digits : List Char) : Nat :=
  digits.foldl (fun value c => base * value + digit c) 0

/-- `int` of ASCII digits. -/
def decimalNumber : List Char → Nat := numberOf 10 fun c => c.toNat - '0'.toNat

/-- `int(_, 16)` of hexadecimal digits. -/
def hexNumber : List Char → Nat :=
  numberOf 16 fun c =>
    if c.isDigit then c.toNat - '0'.toNat
    else if c.isUpper then c.toNat - 'A'.toNat + 10
    else c.toNat - 'a'.toNat + 10

def isHexDigit (c : Char) : Bool :=
  c.isDigit || ('a' ≤ c && c ≤ 'f') || ('A' ≤ c && c ≤ 'F')

/-! ### Words in front of a mark -/

section Words

variable {α : Type} {mark : α → Prop} {word word' rest rest' : List α}

/-- The list goes on with a mark. -/
def BeginsWith (mark : α → Prop) : List α → Prop
  | [] => False
  | first :: _ => mark first

/-- Words without marks end where the first mark stands, so that prefixes are compared word by word. -/
theorem word_eq_of_prefix (unmarked : ∀ a ∈ word, ¬ mark a) (unmarked' : ∀ a ∈ word', ¬ mark a)
    (begins : BeginsWith mark rest) (begins' : rest' = [] ∨ BeginsWith mark rest')
    (isPrefix : word ++ rest <+: word' ++ rest') : word = word' ∧ rest <+: rest' := by
  induction word generalizing word' with
  | nil =>
    cases word' with
    | nil => exact ⟨rfl, isPrefix⟩
    | cons a word' =>
      cases rest with
      | nil => exact begins.elim
      | cons first rest =>
        obtain ⟨rfl, -⟩ := List.cons_prefix_cons.mp isPrefix
        exact absurd begins (unmarked' first List.mem_cons_self)
  | cons a word ih =>
    obtain ⟨here, later⟩ := List.forall_mem_cons.mp unmarked
    cases word' with
    | nil =>
      cases rest' with
      | nil => cases List.prefix_nil.mp isPrefix
      | cons first rest' =>
        obtain ⟨rfl, -⟩ := List.cons_prefix_cons.mp isPrefix
        exact absurd (begins'.resolve_left nofun) here
    | cons b word' =>
      obtain ⟨here', later'⟩ := List.forall_mem_cons.mp unmarked'
      obtain ⟨rfl, tails⟩ := List.cons_prefix_cons.mp isPrefix
      obtain ⟨rfl, rests⟩ := ih later later' tails
      exact ⟨rfl, rests⟩

end Words

end ApiObservatory.Foundation
