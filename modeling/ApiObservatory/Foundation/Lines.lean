import ApiObservatory.Foundation.Text
import Mathlib.Data.List.Basic

/-
Lines and words of a text, as Python's `str` splits it.

Python ends a line at more characters than the newline. So a text of lines that end with a newline is
split line by line (`splitLines_flatMap`), and a line of it that holds another such character is cut into
pieces.
-/

namespace ApiObservatory.Foundation

/-- The characters that end a line. -/
def isLineBreak (c : Char) : Bool :=
  (0x0a ≤ c.toNat && c.toNat ≤ 0x0d) || (0x1c ≤ c.toNat && c.toNat ≤ 0x1e) ||
    c.toNat ∈ [0x85, 0x2028, 0x2029]

/-- `str.splitlines`. -/
def splitLines : List Char → List (List Char)
  | [] => []
  | '\r' :: '\n' :: rest => [] :: splitLines rest
  | c :: rest =>
      if isLineBreak c then [] :: splitLines rest
      else (c :: (splitLines rest).headD []) :: (splitLines rest).tail

/-- `str.split` at whitespace. -/
def words (text : List Char) : List (List Char) :=
  (text.splitOnP isSpace).filter (· ≠ [])

/-- `str.index` of a character; none is a `ValueError`. -/
def index (c : Char) (text : List Char) : Option Nat :=
  if c ∈ text then some (text.idxOf c) else none

/-! ### Lines -/

/-- Every end of a line is whitespace. -/
theorem isSpace_of_isLineBreak {c : Char} (ends : isLineBreak c = true) : isSpace c = true := by
  simp only [isLineBreak, isSpace, Bool.or_eq_true, Bool.and_eq_true, decide_eq_true_eq,
    List.mem_cons, List.not_mem_nil, or_false] at ends ⊢
  omega

section Lines

attribute [local simp] splitLines

variable {c : Char} {rest before after line : List Char}

theorem splitLines_of_break (ends : isLineBreak c = true)
    (single : c = '\r' → rest.head? ≠ some '\n') : splitLines (c :: rest) = [] :: splitLines rest := by
  rw [splitLines]
  · rw [if_pos ends]
  · rintro later rfl rfl
    exact single rfl rfl

theorem splitLines_of_char (inside : isLineBreak c = false) :
    splitLines (c :: rest) = (c :: (splitLines rest).headD []) :: (splitLines rest).tail := by
  rw [splitLines]
  · rw [if_neg (by simp [inside])]
  · rintro later rfl rfl
    exact absurd inside (by decide)

theorem splitLines_newline_ne_nil : splitLines (before ++ ['\n']) ≠ [] := by
  cases before with
  | nil => decide
  | cons c before =>
    rw [List.cons_append, splitLines.eq_def]
    split
    · contradiction
    · exact List.cons_ne_nil _ _
    · split <;> exact List.cons_ne_nil _ _

/-- A newline ends a line, whatever stands before it. -/
theorem splitLines_newline (before after : List Char) :
    splitLines (before ++ '\n' :: after) = splitLines (before ++ ['\n']) ++ splitLines after := by
  fun_induction splitLines before with
  | case1 => rfl
  | case2 rest ih => simp [ih]
  | case3 c rest not_crlf ends ih =>
    by_cases crlf : c = '\r' ∧ rest = []
    · obtain ⟨rfl, rfl⟩ := crlf
      rfl
    · have single : ∀ later, c = '\r' → (rest ++ '\n' :: later).head? ≠ some '\n' := by
        rintro later rfl begins
        cases rest with
        | nil => exact crlf ⟨rfl, rfl⟩
        | cons d rest =>
          obtain rfl := Option.some.inj begins
          exact not_crlf rest rfl rfl
      rw [List.cons_append, List.cons_append, splitLines_of_break ends (single after),
        splitLines_of_break ends (single []), ih, List.cons_append]
  | case4 c rest not_crlf inside ih =>
    have inside : isLineBreak c = false := by simpa using inside
    rw [List.cons_append, List.cons_append, splitLines_of_char inside, splitLines_of_char inside, ih]
    cases lines : splitLines (rest ++ ['\n']) with
    | nil => exact absurd lines splitLines_newline_ne_nil
    | cons first others => rfl

/-- A line without an end of a line inside it is one line. -/
theorem splitLines_whole (whole : ∀ c ∈ line, isLineBreak c = false) :
    splitLines (line ++ ['\n']) = [line] := by
  induction line with
  | nil => decide
  | cons c line ih =>
    obtain ⟨here, later⟩ := List.forall_mem_cons.mp whole
    rw [List.cons_append, splitLines_of_char here, ih later]
    rfl

/-- **Lines that end with a newline** are split one by one. -/
theorem splitLines_flatMap {α : Type} (text : α → List Char) (entries : List α) :
    splitLines (entries.flatMap fun entry => text entry ++ ['\n']) =
      entries.flatMap fun entry => splitLines (text entry ++ ['\n']) := by
  induction entries with
  | nil => rfl
  | cons entry entries ih =>
    rw [List.flatMap_cons, List.flatMap_cons, List.append_assoc, List.singleton_append,
      splitLines_newline, ih]

/-- The first piece of a text begins as the text does. -/
theorem splitLines_head (inside : isLineBreak c = false) :
    ∃ piece, splitLines (c :: rest) = (c :: piece) :: (splitLines (c :: rest)).tail :=
  ⟨_, by rw [splitLines_of_char inside]; rfl⟩

end Lines

/-! ### Words -/

theorem words_append_space (before after : List Char) :
    words (before ++ ' ' :: after) = words before ++ words after := by
  rw [words, List.splitOnP_append_cons before after (by decide), List.filter_append]
  rfl

/-- A text without whitespace is one word. -/
theorem words_of_word {word : List Char} (nonempty : word ≠ [])
    (plain : ∀ c ∈ word, isSpace c = false) : words word = [word] := by
  rw [words, List.splitOnP_eq_singleton plain]
  simp [nonempty]

/-- A text that begins with a character of a word has a word. -/
theorem words_cons_ne_nil {c : Char} {rest : List Char} (inside : isSpace c = false) :
    words (c :: rest) ≠ [] := by
  obtain ⟨first, others, split⟩ := List.exists_cons_of_ne_nil (List.splitOnP_ne_nil isSpace rest)
  rw [words, List.splitOnP_cons_eq_if_modifyHead, if_neg (by simp [inside]), split]
  simp

/-! ### Places of characters -/

theorem idxOf_append_cons {c : Char} {before after : List Char} (first : c ∉ before) :
    (before ++ c :: after).idxOf c = before.length := by
  simp [List.idxOf_append, first]

/-- Two places of a mark are the same, or one comes after the other. -/
theorem mark_cases {α : Type} {mark : α} {before after front back : List α}
    (same : before ++ mark :: after = front ++ mark :: back) :
    (before = front ∧ after = back) ∨
      (∃ between, before = front ++ mark :: between ∧ back = between ++ mark :: after) ∨
        ∃ between, front = before ++ mark :: between ∧ after = between ++ mark :: back := by
  rcases List.append_eq_append_iff.mp same with ⟨more, isFront, rest⟩ | ⟨more, isBefore, rest⟩
  · rcases List.cons_eq_append_iff.mp rest with ⟨rfl, same⟩ | ⟨between, rfl, isAfter⟩
    · exact .inl ⟨by rw [isFront, List.append_nil], (List.cons.inj same).2.symm⟩
    · exact .inr (.inr ⟨between, isFront, isAfter⟩)
  · rcases List.cons_eq_append_iff.mp rest with ⟨rfl, same⟩ | ⟨between, rfl, isBack⟩
    · exact .inl ⟨by rw [isBefore, List.append_nil], (List.cons.inj same).2⟩
    · exact .inr (.inl ⟨between, isBefore, isBack⟩)

/-! ### Joined parts -/

theorem mem_intercalate {c separator : Char} {parts : List (List Char)}
    (mem : c ∈ [separator].intercalate parts) : c = separator ∨ ∃ part ∈ parts, c ∈ part := by
  induction parts with
  | nil => cases mem
  | cons first parts ih =>
    cases parts with
    | nil => exact .inr ⟨first, List.mem_cons_self, by simpa using mem⟩
    | cons second parts =>
      rw [List.intercalate_cons_cons, List.mem_append, List.mem_append, List.mem_singleton] at mem
      rcases mem with (here | between) | later
      · exact .inr ⟨first, List.mem_cons_self, here⟩
      · exact .inl between
      · rcases ih later with between | ⟨part, isIn, here⟩
        · exact .inl between
        · exact .inr ⟨part, List.mem_cons_of_mem _ isIn, here⟩

/-- A part of a joined text stands in it. -/
theorem infix_intercalate {separator part : List Char} {parts : List (List Char)}
    (mem : part ∈ parts) : part <:+: separator.intercalate parts := by
  induction parts with
  | nil => cases mem
  | cons first parts ih =>
    cases parts with
    | nil =>
      obtain rfl := List.mem_singleton.mp mem
      simp
    | cons second parts =>
      rw [List.intercalate_cons_cons]
      rcases List.mem_cons.mp mem with rfl | later
      · exact ⟨[], _, by rw [List.nil_append, List.append_assoc]⟩
      · exact (ih later).trans (List.suffix_append _ _).isInfix

end ApiObservatory.Foundation
