import ApiObservatory.Foundation.Lines
import Mathlib.Algebra.BigOperators.Group.List.Basic
import Mathlib.Algebra.GroupWithZero.Nat
import Mathlib.Data.List.Infix

/-
The counters of the dashboard (`services/dashboard/core/metrics_parser.py`), and the texts that
`prometheus_client` writes.

A text is a list of entries, one to a line. In a label value and in the text of a `HELP` line only the
backslash, the newline and, in a label value, the quote are escaped, so that any other character that ends
a line for `str.splitlines` cuts the line into pieces. Numbers are a parameter.
-/

namespace ApiObservatory.Dashboard

open Foundation

/-- Exact numbers, as they are written in a text. -/
structure Numerals (Value : Type) where
  /-- `float`; none is a `ValueError`. -/
  float : List Char → Option Value
  floatToGoString : Value → List Char
  nonempty : ∀ value, floatToGoString value ≠ []
  plain : ∀ value, ∀ c ∈ floatToGoString value, isSpace c = false ∧ c ≠ '{'
  float_floatToGoString : ∀ value, float (floatToGoString value) = some value

/-! ### The parser -/

/-- `f'{k}="{v}"'`. -/
def pairText (label : List Char × List Char) : List Char :=
  label.1 ++ '=' :: '"' :: (label.2 ++ ['"'])

/-- The test of the label filter; none is a `ValueError`. -/
def labelsPass (labels : List (List Char × List Char)) (line : List Char) : Option Bool :=
  if '{' ∈ line then do
    let brace ← index '{' line
    let space ← index ' ' line
    if space < brace then some false
    else do
      let close ← index '}' line
      let labelPart := (line.take close).drop (brace + 1)
      some (labels.all fun label => decide (pairText label <:+: labelPart))
  else some false

/-- The test of the metric name. -/
def Selected (start line : List Char) : Prop := start <+: line ∧ ¬ start ++ ['_'] <+: line

instance (start line : List Char) : Decidable (Selected start line) :=
  inferInstanceAs (Decidable (_ ∧ ¬ _))

section Parser

variable {Value : Type} (numerals : Numerals Value)

/-- `float(parts[-1])`, if there are two parts and it does not raise. -/
def lastNumber (line : List Char) : Option Value :=
  if 2 ≤ (words line).length then (words line).getLast?.bind numerals.float else none

variable [Add Value] (start : List Char) (labels : List (List Char × List Char))

/-- One turn of the loop. -/
def addLine (total : Value) (line : List Char) : Option Value :=
  if Selected start line then
    match if labels = [] then some true else labelsPass labels line with
    | none => none
    | some false => some total
    | some true =>
        match lastNumber numerals line with
        | none => some total
        | some number => some (total + number)
  else some total

def totalOf (metricName : List Char) : List Char := metricName ++ "_total".toList

/-- `parse_prometheus_counter`. -/
def parsePrometheusCounter [Zero Value] (metricsText metricName : List Char)
    (labels : Option (List (List Char × List Char))) : Option Value :=
  (splitLines metricsText).foldlM (addLine numerals (totalOf metricName) (labels.getD [])) 0

end Parser

/-! ### The texts -/

def isNameChar (c : Char) : Bool := c.isAlphanum || c == '_'

/-- A name of characters that pass, and no digit in front. -/
def isName (passes : Char → Bool) : List Char → Bool
  | [] => false
  | first :: rest => !first.isDigit && (first :: rest).all passes

structure MetricName where
  text : List Char
  legal : isName (fun c => isNameChar c || c == ':') text = true

structure LabelName where
  text : List Char
  legal : isName isNameChar text = true

inductive MetricType where
  | counter | gauge | summary | histogram | untyped

def MetricType.text : MetricType → List Char
  | .counter => "counter".toList
  | .gauge => "gauge".toList
  | .summary => "summary".toList
  | .histogram => "histogram".toList
  | .untyped => "untyped".toList

/-- A sample. Its labels are a dictionary. -/
structure Sample (Value : Type) where
  name : MetricName
  labels : List (LabelName × List Char)
  value : Value
  distinct : (labels.map Prod.fst).Nodup

inductive Entry (Value : Type) where
  | help (name : MetricName) (documentation : List Char)
  | type (name : MetricName) (metricType : MetricType)
  | sample (sample : Sample Value)

def escapeLabel (value : List Char) : List Char :=
  value.flatMap fun c =>
    if c = '\\' then ['\\', '\\'] else if c = '\n' then ['\\', 'n']
    else if c = '"' then ['\\', '"'] else [c]

def escapeHelp (documentation : List Char) : List Char :=
  documentation.flatMap fun c =>
    if c = '\\' then ['\\', '\\'] else if c = '\n' then ['\\', 'n'] else [c]

/-- The labels of a sample between the braces. -/
def labelText (labels : List (LabelName × List Char)) : List Char :=
  [','].intercalate (labels.map fun label => pairText (label.1.text, escapeLabel label.2))

/-- What stands in front of the value. -/
def Sample.head {Value : Type} (sample : Sample Value) : List Char :=
  sample.name.text ++ if sample.labels = [] then [] else '{' :: (labelText sample.labels ++ ['}'])

/-- The labels as texts. -/
def Sample.pairs {Value : Type} (sample : Sample Value) : List (List Char × List Char) :=
  sample.labels.map fun label => (label.1.text, label.2)

section Texts

variable {Value : Type} (numerals : Numerals Value)

def Sample.text (sample : Sample Value) : List Char :=
  sample.head ++ ' ' :: numerals.floatToGoString sample.value

def Entry.text : Entry Value → List Char
  | .help name documentation => '#' :: " HELP ".toList ++ name.text ++ ' ' :: escapeHelp documentation
  | .type name metricType => '#' :: " TYPE ".toList ++ name.text ++ ' ' :: metricType.text
  | .sample written => written.text numerals

/-- `generate_latest`. -/
def metricsText (metrics : List (Entry Value)) : List Char :=
  metrics.flatMap fun entry => entry.text numerals ++ ['\n']

end Texts

/-! ### What is asked of a counter -/

/-- The samples of a text, in its order. -/
def samples {Value : Type} (metrics : List (Entry Value)) : List (Sample Value) :=
  metrics.filterMap fun entry =>
    match entry with
    | .sample written => some written
    | .help .. | .type .. => none

/-- What the samples with `p` add up to. -/
def sumOf {Value : Type} [AddMonoid Value] (all : List (Sample Value)) (p : Sample Value → Prop)
    [DecidablePred p] : Value :=
  ((all.filter fun sample => p sample).map Sample.value).sum

section Samples

variable {Value : Type} (start : List Char) (labels : List (List Char × List Char))
  (sample : Sample Value)

/-- The sample is one of the metric, and its labels contain the filter. -/
def Asked : Prop := sample.name.text = start ∧ ∀ label ∈ labels, label ∈ sample.pairs

instance : Decidable (Asked start labels sample) := inferInstanceAs (Decidable (_ ∧ _))

/-- No label value ends a line but with a newline. -/
def Sample.Whole : Prop :=
  ∀ label ∈ sample.labels, (label.2.all fun c => !isLineBreak c || c == '\n') = true

instance : Decidable sample.Whole :=
  inferInstanceAs (Decidable (∀ label ∈ sample.labels, _ = true))

/-- The name begins with the name asked for, and no underscore follows. -/
def Named : Prop := Selected start sample.name.text

/-- The text between the braces has every pair of the filter somewhere before its first brace. -/
def Paired : Prop :=
  labels = [] ∨ sample.labels ≠ [] ∧
    ∀ label ∈ labels, pairText label <:+: (labelText sample.labels).takeWhile (· ≠ '}')

def Counted : Prop := sample.Whole ∧ Named start sample ∧ Paired labels sample

instance : Decidable (Counted start labels sample) :=
  inferInstanceAs (Decidable (_ ∧ Selected _ _ ∧ (_ ∨ _ ∧ ∀ label ∈ labels, _)))

end Samples

section Lines

variable {Value : Type} (numerals : Numerals Value) (start : List Char)
  (labels : List (List Char × List Char)) (line : List Char)

/-- The test of the label filter finds a brace, and no space or no closing brace. -/
def Unreadable : Prop :=
  '{' ∈ line ∧ (' ' ∉ line ∨ ¬ line.idxOf ' ' < line.idxOf '{' ∧ '}' ∉ line)

instance : Decidable (Unreadable line) := inferInstanceAs (Decidable (_ ∧ (_ ∨ _ ∧ _)))

def Fails : Prop := Selected start line ∧ labels ≠ [] ∧ Unreadable line

/-- What a line has between its first braces. -/
def labelPart : List Char := (line.take (line.idxOf '}')).drop (line.idxOf '{' + 1)

def Passes : Prop :=
  labels = [] ∨ '{' ∈ line ∧ ¬ line.idxOf ' ' < line.idxOf '{' ∧
    ∀ label ∈ labels, pairText label <:+: labelPart line

instance : Decidable (Passes labels line) :=
  inferInstanceAs (Decidable (_ ∨ _ ∧ ¬ _ ∧ ∀ label ∈ labels, _))

/-- The number that is read off a line. -/
def lineNumber : Option Value :=
  if Selected start line ∧ Passes labels line then lastNumber numerals line else none

/-- The pieces that are no lines of the text: those of a sample that is cut, and what follows the first
piece of a `HELP` line. -/
def Entry.pieces : Entry Value → List (List Char)
  | .help name documentation =>
      (splitLines (Entry.text numerals (.help name documentation) ++ ['\n'])).tail
  | .type .. => []
  | .sample written =>
      if written.Whole then [] else splitLines (written.text numerals ++ ['\n'])

end Lines

/-! ### One line -/

section Turn

variable {Value : Type} {numerals : Numerals Value} {start line : List Char}
  {labels : List (List Char × List Char)}

theorem labelsPass_eq_none : labelsPass labels line = none ↔ Unreadable line := by
  unfold labelsPass Unreadable index
  by_cases brace : '{' ∈ line
  · by_cases space : ' ' ∈ line
    · by_cases early : line.idxOf ' ' < line.idxOf '{'
      · simp [brace, space, early]
      · by_cases close : '}' ∈ line <;> simp [brace, space, early, close]
    · simp [brace, space]
  · simp [brace]

theorem labelsPass_eq_some (readable : ¬ Unreadable line) (filtered : labels ≠ []) :
    labelsPass labels line = some (decide (Passes labels line)) := by
  by_cases brace : '{' ∈ line
  · have space : ' ' ∈ line := by
      by_contra missing
      exact readable ⟨brace, .inl missing⟩
    by_cases early : line.idxOf ' ' < line.idxOf '{'
    · have fails : ¬ Passes labels line := by simp [Passes, filtered, early]
      simp [labelsPass, index, brace, space, early, fails]
    · have close : '}' ∈ line := by
        by_contra missing
        exact readable ⟨brace, .inr ⟨early, missing⟩⟩
      have part : labelsPass labels line =
          some (labels.all fun label => decide (pairText label <:+: labelPart line)) := by
        simp only [labelsPass, index, if_pos brace, if_pos space, if_pos close, Option.bind_eq_bind,
          Option.bind_some, if_neg early]
        rfl
      rw [part, Option.some_inj, Bool.eq_iff_iff, decide_eq_true_iff, List.all_eq_true]
      simp [Passes, filtered, brace, early]
  · have fails : ¬ Passes labels line := by simp [Passes, filtered, brace]
    simp [labelsPass, brace, fails]

variable [AddMonoid Value] {total : Value}

theorem addLine_of_fails (fails : Fails start labels line) :
    addLine numerals start labels total line = none := by
  obtain ⟨selected, filtered, unreadable⟩ := fails
  rw [addLine, if_pos selected, if_neg filtered, labelsPass_eq_none.mpr unreadable]

/-- **One turn of the loop** adds the number of the line. -/
theorem addLine_of_not_fails (sound : ¬ Fails start labels line) :
    addLine numerals start labels total line =
      some (total + (lineNumber numerals start labels line).getD 0) := by
  unfold addLine lineNumber
  by_cases selected : Selected start line
  · rw [if_pos selected]
    have passes : (if labels = [] then some true else labelsPass labels line) =
        some (decide (Passes labels line)) := by
      by_cases filtered : labels = []
      · simp [filtered, Passes]
      · rw [if_neg filtered]
        exact labelsPass_eq_some (fun unreadable => sound ⟨selected, filtered, unreadable⟩) filtered
    rw [passes]
    by_cases pass : Passes labels line
    · rw [if_pos ⟨selected, pass⟩, decide_eq_true pass]
      cases lastNumber numerals line with
      | none => simp
      | some number => rfl
    · rw [if_neg fun both => pass both.2, decide_eq_false pass]
      simp
  · rw [if_neg selected, if_neg fun both => selected both.1]
    simp

/-- **The loop** raises at a line that fails, or adds the numbers of all lines. -/
theorem foldlM_addLine (lines : List (List Char)) (result : Value) :
    lines.foldlM (addLine numerals start labels) total = some result ↔
      (∀ line ∈ lines, ¬ Fails start labels line) ∧
        total + (lines.filterMap (lineNumber numerals start labels)).sum = result := by
  induction lines generalizing total with
  | nil => simp
  | cons line lines ih =>
    rw [List.foldlM_cons, List.forall_mem_cons]
    by_cases fails : Fails start labels line
    · simp [addLine_of_fails fails, fails]
    · rw [addLine_of_not_fails fails, Option.bind_eq_bind, Option.bind_some, ih]
      cases number : lineNumber numerals start labels line with
      | none => simp [fails, number]
      | some value => simp [fails, number, add_assoc]

end Turn

/-! ### Names -/

/-- The characters of a name lie between `0` and `z`. -/
theorem isNameChar_bounds {c : Char} (passes : (isNameChar c || c == ':') = true) :
    48 ≤ c.toNat ∧ c.toNat ≤ 122 := by
  have upper : c.isUpper = true → 65 ≤ c.toNat ∧ c.toNat ≤ 90 := fun isUpper => by
    exact of_decide_eq_true (p := c.val ≥ 'A'.val ∧ c.val ≤ 'Z'.val) isUpper
  have lower : c.isLower = true → 97 ≤ c.toNat ∧ c.toNat ≤ 122 := fun isLower => by
    have bounds : decide (c.val ≥ 'a'.val) = true ∧ decide (c.val ≤ 'z'.val) = true :=
      Bool.and_eq_true_iff.mp isLower
    exact ⟨of_decide_eq_true bounds.1, of_decide_eq_true bounds.2⟩
  have cases : ((c.isUpper || c.isLower) || c.isDigit || c == '_' || c == ':') = true := passes
  simp only [Bool.or_eq_true, beq_iff_eq, Char.isDigit_iff_toNat] at cases
  rcases cases with (((isUpper | isLower) | isDigit) | rfl) | rfl
  · have := upper isUpper
    omega
  · have := lower isLower
    omega
  · have digit : 48 ≤ c.toNat ∧ c.toNat ≤ 57 := isDigit
    omega
  · decide
  · decide

section Names

variable {c : Char}

theorem isName_all {passes : Char → Bool} {name : List Char} (legal : isName passes name = true) :
    ∀ c ∈ name, passes c = true := by
  cases name with
  | nil => cases legal
  | cons first rest =>
    simp only [isName, Bool.and_eq_true] at legal
    exact List.all_eq_true.mp legal.2

theorem isName_ne_nil {passes : Char → Bool} {name : List Char} (legal : isName passes name = true) :
    name ≠ [] := by
  rintro rfl
  cases legal

theorem MetricName.bounds (name : MetricName) (mem : c ∈ name.text) :
    48 ≤ c.toNat ∧ c.toNat ≤ 122 :=
  isNameChar_bounds (isName_all name.legal c mem)

theorem LabelName.bounds (name : LabelName) (mem : c ∈ name.text) :
    48 ≤ c.toNat ∧ c.toNat ≤ 122 :=
  isNameChar_bounds (by rw [isName_all name.legal c mem, Bool.true_or])

theorem isSpace_of_bounds (bounds : 48 ≤ c.toNat ∧ c.toNat ≤ 122) : isSpace c = false := by
  simp only [isSpace, Bool.or_eq_false_iff, Bool.and_eq_false_iff, decide_eq_false_iff_not,
    List.mem_cons, List.not_mem_nil, or_false]
  omega

theorem isLineBreak_of_bounds (bounds : 48 ≤ c.toNat ∧ c.toNat ≤ 122) : isLineBreak c = false := by
  by_contra ends
  have space := isSpace_of_isLineBreak (Bool.not_eq_false _ ▸ ends)
  rw [isSpace_of_bounds bounds] at space
  cases space

/-- No mark of the format stands in a name. -/
theorem MetricName.unmarked (name : MetricName) :
    '{' ∉ name.text ∧ '}' ∉ name.text ∧ ' ' ∉ name.text ∧ '#' ∉ name.text := by
  refine ⟨?_, ?_, ?_, ?_⟩ <;> intro mem <;> exact absurd (name.bounds mem) (by decide)

/-- The text asked for holds characters of a name. -/
theorem totalOf_bounds (name : MetricName) (mem : c ∈ totalOf name.text) :
    48 ≤ c.toNat ∧ c.toNat ≤ 122 := by
  rcases List.mem_append.mp mem with inside | suffix
  · exact name.bounds inside
  · have all : ("_total".toList.all fun c => 48 ≤ c.toNat && c.toNat ≤ 122) = true := rfl
    simpa using List.all_eq_true.mp all c suffix

/-- A text of name characters is a prefix of a line when it is a prefix of the name in front. -/
theorem prefix_line {text name rest : List Char} {mark : Char} (unmarked : mark ∉ text) :
    text <+: name ++ mark :: rest ↔ text <+: name := by
  constructor
  · intro begins
    rcases Nat.lt_or_ge name.length text.length with longer | shorter
    · have inside : name ++ [mark] <+: text := by
        have front : name ++ [mark] <+: name ++ mark :: rest := ⟨rest, by simp⟩
        refine List.prefix_of_prefix_length_le front begins ?_
        rw [List.length_append, List.length_singleton]
        exact longer
      exact absurd (inside.subset (by simp)) unmarked
    · exact List.prefix_of_prefix_length_le begins (List.prefix_append name _) shorter
  · exact fun begins => begins.trans (List.prefix_append name _)

theorem selected_line {start name rest : List Char} {mark : Char} (unmarked : mark ∉ start)
    (other : mark ≠ '_') : Selected start (name ++ mark :: rest) ↔ Selected start name := by
  have unmarked' : mark ∉ start ++ ['_'] := by simp [unmarked, other]
  unfold Selected
  rw [prefix_line unmarked, prefix_line unmarked']

end Names

/-! ### Lines of a sample -/

/-- What stands between the first opening brace and the first closing brace. -/
theorem labelPart_line {before after : List Char} (unopened : '{' ∉ before) (unclosed : '}' ∉ before) :
    labelPart (before ++ '{' :: after) = after.takeWhile (· ≠ '}') := by
  have opening : (before ++ '{' :: after).idxOf '{' = before.length := idxOf_append_cons unopened
  have closing : (before ++ '{' :: after).idxOf '}' = before.length + (after.idxOf '}' + 1) := by
    rw [List.idxOf_append, if_neg unclosed, List.idxOf_cons]
    simp [Nat.add_comm]
  have cut : after.takeWhile (· ≠ '}') = after.take (after.idxOf '}') := by
    rw [List.takeWhile_eq_take_findIdx_not, List.idxOf]
    congr 2
    funext c
    simp [beq_eq_decide]
  rw [labelPart, opening, closing, List.take_length_add_append, cut, List.take_succ_cons]
  simp [List.drop_append]

theorem pairText_mem {label : List Char × List Char} {c : Char} (mem : c ∈ pairText label) :
    c ∈ label.1 ∨ c ∈ label.2 ∨ c = '=' ∨ c = '"' := by
  simp only [pairText, List.mem_append, List.mem_cons, List.not_mem_nil, or_false] at mem
  tauto

theorem escapeLabel_mem {value : List Char} {c : Char} (mem : c ∈ escapeLabel value) :
    c = '\\' ∨ c = 'n' ∨ c = '"' ∨ c ∈ value ∧ c ≠ '\n' := by
  obtain ⟨original, inside, written⟩ := List.mem_flatMap.mp mem
  split at written
  · simp_all
  · split at written
    · simp_all
      tauto
    · split at written
      · simp_all
        tauto
      · simp_all

section Whole

variable {Value : Type} {numerals : Numerals Value} {start : List Char}
  {labels : List (List Char × List Char)} {sample : Sample Value}

/-- The line of a sample begins with its name, and a brace or a space follows. -/
theorem Sample.text_unlabelled (none : sample.labels = []) :
    sample.text numerals = sample.name.text ++ ' ' :: numerals.floatToGoString sample.value := by
  simp [Sample.text, Sample.head, none]

theorem Sample.text_labelled (some : sample.labels ≠ []) :
    sample.text numerals = sample.name.text ++ '{' :: (labelText sample.labels ++
      '}' :: ' ' :: numerals.floatToGoString sample.value) := by
  simp [Sample.text, Sample.head, some]

theorem not_mem_totalOf (name : MetricName) {c : Char} (mark : ¬ (48 ≤ c.toNat ∧ c.toNat ≤ 122)) :
    c ∉ totalOf name.text := fun mem => mark (totalOf_bounds name mem)

theorem selected_sample (name : MetricName) :
    Selected (totalOf name.text) (sample.text numerals) ↔ Named (totalOf name.text) sample := by
  by_cases unlabelled : sample.labels = []
  · rw [Sample.text_unlabelled unlabelled]
    exact selected_line (not_mem_totalOf name (by decide)) (by decide)
  · rw [Sample.text_labelled unlabelled]
    exact selected_line (not_mem_totalOf name (by decide)) (by decide)

/-- The line of a sample is read. -/
theorem readable_sample : ¬ Unreadable (sample.text numerals) := by
  rintro ⟨brace, noSpace | ⟨-, noClose⟩⟩
  · exact noSpace (by simp [Sample.text])
  · by_cases unlabelled : sample.labels = []
    · rw [Sample.text_unlabelled unlabelled] at brace
      rcases List.mem_append.mp brace with inName | later
      · exact sample.name.unmarked.1 inName
      · rcases List.mem_cons.mp later with same | inValue
        · exact absurd same (by decide)
        · exact (numerals.plain _ _ inValue).2 rfl
    · rw [Sample.text_labelled unlabelled] at noClose
      exact noClose (by simp)

theorem passes_sample : Passes labels (sample.text numerals) ↔ Paired labels sample := by
  unfold Passes Paired
  obtain ⟨unopened, unclosed, unspaced, -⟩ := sample.name.unmarked
  refine or_congr_right ?_
  by_cases unlabelled : sample.labels = []
  · have unopened' : '{' ∉ sample.text numerals := by
      rw [Sample.text_unlabelled unlabelled]
      simp only [List.mem_append, List.mem_cons, not_or]
      exact ⟨unopened, by decide, fun mem => (numerals.plain _ _ mem).2 rfl⟩
    simp [unopened', unlabelled]
  · have early : ¬ (sample.text numerals).idxOf ' ' < (sample.text numerals).idxOf '{' := by
      rw [Sample.text_labelled unlabelled, idxOf_append_cons unopened, List.idxOf_append,
        if_neg unspaced]
      omega
    have part : labelPart (sample.text numerals) =
        (labelText sample.labels).takeWhile (· ≠ '}') := by
      rw [Sample.text_labelled unlabelled, labelPart_line unopened unclosed, List.takeWhile_append]
      split
      · rename_i whole
        rw [List.takeWhile_cons_of_neg (by simp), List.append_nil]
        exact (List.IsPrefix.eq_of_length (List.takeWhile_prefix _) whole).symm
      · rfl
    have opened : '{' ∈ sample.text numerals := by
      rw [Sample.text_labelled unlabelled]
      simp
    simp only [part, opened, early, unlabelled, not_false_eq_true, true_and, ne_eq]

theorem lastNumber_sample : lastNumber numerals (sample.text numerals) = some sample.value := by
  have parts : words (sample.text numerals) =
      words sample.head ++ [numerals.floatToGoString sample.value] := by
    rw [Sample.text, words_append_space, words_of_word (numerals.nonempty _)
      fun c mem => (numerals.plain _ c mem).1]
  have some_part : words sample.head ≠ [] := by
    obtain ⟨first, rest, name⟩ := List.exists_cons_of_ne_nil (isName_ne_nil sample.name.legal)
    have inside := isSpace_of_bounds (sample.name.bounds (name ▸ List.mem_cons_self))
    rw [Sample.head, name, List.cons_append]
    exact words_cons_ne_nil inside
  have enough : 2 ≤ (words sample.head ++ [numerals.floatToGoString sample.value]).length := by
    have := List.length_pos_iff.mpr some_part
    simp
    omega
  rw [lastNumber, parts, if_pos enough, List.getLast?_concat]
  exact numerals.float_floatToGoString sample.value

/-- A sample without other ends of lines is one line. -/
theorem Sample.Whole.splitLines (whole : sample.Whole) :
    splitLines (sample.text numerals ++ ['\n']) = [sample.text numerals] := by
  have value : ∀ c ∈ numerals.floatToGoString sample.value, isLineBreak c = false := by
    intro c mem
    by_contra ends
    have space := isSpace_of_isLineBreak (Bool.not_eq_false _ ▸ ends)
    rw [(numerals.plain _ c mem).1] at space
    cases space
  have name : ∀ c ∈ sample.name.text, isLineBreak c = false := fun c mem =>
    isLineBreak_of_bounds (sample.name.bounds mem)
  have label : ∀ label ∈ sample.labels, ∀ c ∈ pairText (label.1.text, escapeLabel label.2),
      isLineBreak c = false := by
    intro label mem c inside
    rcases pairText_mem inside with inName | inValue | rfl | rfl
    · exact isLineBreak_of_bounds (label.1.bounds inName)
    · rcases escapeLabel_mem inValue with rfl | rfl | rfl | ⟨original, other⟩
      · rfl
      · rfl
      · rfl
      · simpa [other] using List.all_eq_true.mp (whole label mem) c original
    · rfl
    · rfl
  have head : ∀ c ∈ sample.head, isLineBreak c = false := by
    intro c mem
    rcases List.mem_append.mp mem with inName | later
    · exact name c inName
    · split at later
      · cases later
      · simp only [List.mem_cons, List.mem_append, List.not_mem_nil, or_false] at later
        rcases later with rfl | inLabels | rfl
        · rfl
        · rcases mem_intercalate inLabels with rfl | ⟨pair, isPair, inside⟩
          · rfl
          · obtain ⟨given, isIn, rfl⟩ := List.mem_map.mp isPair
            exact label given isIn c inside
        · rfl
  refine splitLines_whole fun c mem => ?_
  rcases List.mem_append.mp mem with inHead | later
  · exact head c inHead
  · rcases List.mem_cons.mp later with rfl | inValue
    · rfl
    · exact value c inValue

end Whole

/-! ### Entries -/

section Entries

variable {Value : Type} {numerals : Numerals Value} {labels : List (List Char × List Char)}

/-- A comment is no line of the metric. -/
theorem not_selected_comment (name : MetricName) (rest : List Char) :
    ¬ Selected (totalOf name.text) ('#' :: rest) := by
  rintro ⟨begins, -⟩
  cases start : totalOf name.text with
  | nil => simp [totalOf] at start
  | cons first others =>
    rw [start] at begins
    obtain ⟨rfl, -⟩ := List.cons_prefix_cons.mp begins
    exact not_mem_totalOf name (c := '#') (by decide) (start ▸ List.mem_cons_self)

theorem MetricType.whole (metricType : MetricType) :
    (metricType.text.all fun c => !isLineBreak c) = true := by
  cases metricType <;> rfl

theorem splitLines_type (name : MetricName) (metricType : MetricType) :
    splitLines (Entry.text numerals (.type name metricType) ++ ['\n']) =
      [Entry.text numerals (.type name metricType)] := by
  refine splitLines_whole fun c mem => ?_
  rcases List.mem_append.mp mem with front | later
  · rcases List.mem_append.mp front with comment | inName
    · have all : (('#' :: " TYPE ".toList).all fun c => !isLineBreak c) = true := rfl
      simpa using List.all_eq_true.mp all c comment
    · exact isLineBreak_of_bounds (name.bounds inName)
  · rcases List.mem_cons.mp later with rfl | inType
    · rfl
    · simpa using List.all_eq_true.mp metricType.whole c inType

variable (numerals) in
theorem splitLines_help (name : MetricName) (documentation : List Char) :
    ∃ rest, splitLines (Entry.text numerals (.help name documentation) ++ ['\n']) =
      ('#' :: rest) :: Entry.pieces numerals (.help name documentation) :=
  splitLines_head (by decide)

variable [AddCommMonoid Value]

variable (numerals labels) in
/-- **The lines of an entry.** -/
theorem Entry.lines (name : MetricName) (entry : Entry Value) :
    ((∀ line ∈ splitLines (entry.text numerals ++ ['\n']), ¬ Fails (totalOf name.text) labels line) ↔
      ∀ piece ∈ entry.pieces numerals, ¬ Fails (totalOf name.text) labels piece) ∧
    ((splitLines (entry.text numerals ++ ['\n'])).filterMap
        (lineNumber numerals (totalOf name.text) labels)).sum =
      sumOf (samples [entry]) (Counted (totalOf name.text) labels) +
      ((entry.pieces numerals).filterMap (lineNumber numerals (totalOf name.text) labels)).sum := by
  have comment : ∀ rest, ¬ Fails (totalOf name.text) labels ('#' :: rest) ∧
      lineNumber numerals (totalOf name.text) labels ('#' :: rest) = none := fun rest =>
    ⟨fun fails => not_selected_comment name rest fails.1,
      if_neg fun both => not_selected_comment name rest both.1⟩
  cases entry with
  | help metric documentation =>
    obtain ⟨rest, lines⟩ := splitLines_help numerals metric documentation
    rw [lines, List.forall_mem_cons, List.filterMap_cons, (comment rest).2]
    exact ⟨and_iff_right (comment rest).1, by simp [sumOf, samples]⟩
  | type metric metricType =>
    rw [splitLines_type]
    have line : ∃ rest, Entry.text numerals (.type metric metricType) = '#' :: rest := ⟨_, rfl⟩
    obtain ⟨rest, line⟩ := line
    simp [line, comment rest, Entry.pieces, sumOf, samples]
  | sample written =>
    have text : Entry.text numerals (.sample written) = written.text numerals := rfl
    rw [text]
    by_cases whole : written.Whole
    · have sound : ¬ Fails (totalOf name.text) labels (written.text numerals) := fun fails =>
        readable_sample fails.2.2
      rw [whole.splitLines]
      by_cases counted : Counted (totalOf name.text) labels written
      · have read : lineNumber numerals (totalOf name.text) labels (written.text numerals) =
            some written.value := by
          rw [lineNumber, if_pos ⟨(selected_sample name).mpr counted.2.1,
            passes_sample.mpr counted.2.2⟩, lastNumber_sample]
        simp [Entry.pieces, whole, sound, sumOf, samples, read, counted]
      · have unread : lineNumber numerals (totalOf name.text) labels (written.text numerals) =
            none :=
          if_neg fun both => counted ⟨whole, (selected_sample name).mp both.1,
            passes_sample.mp both.2⟩
        simp [Entry.pieces, whole, sound, sumOf, samples, unread, counted]
    · have uncounted : ¬ Counted (totalOf name.text) labels written := fun counted => whole counted.1
      simp [Entry.pieces, whole, sumOf, samples, uncounted]

theorem sumOf_append (first second : List (Sample Value)) (p : Sample Value → Prop)
    [DecidablePred p] : sumOf (first ++ second) p = sumOf first p + sumOf second p := by
  simp [sumOf]

variable (numerals labels) in
/-- **The lines of a text.** -/
theorem metricsText_lines (name : MetricName) (metrics : List (Entry Value)) :
    ((∀ line ∈ splitLines (metricsText numerals metrics),
        ¬ Fails (totalOf name.text) labels line) ↔
      ∀ piece ∈ metrics.flatMap (Entry.pieces numerals), ¬ Fails (totalOf name.text) labels piece) ∧
    ((splitLines (metricsText numerals metrics)).filterMap
        (lineNumber numerals (totalOf name.text) labels)).sum =
      sumOf (samples metrics) (Counted (totalOf name.text) labels) +
      ((metrics.flatMap (Entry.pieces numerals)).filterMap
        (lineNumber numerals (totalOf name.text) labels)).sum := by
  rw [metricsText, splitLines_flatMap]
  induction metrics with
  | nil => simp [sumOf, samples]
  | cons entry metrics ih =>
    obtain ⟨sound, sums⟩ := ih
    obtain ⟨here, number⟩ := Entry.lines numerals labels name entry
    have split : samples (entry :: metrics) = samples [entry] ++ samples metrics :=
      List.filterMap_append (l := [entry])
    rw [split, List.flatMap_cons, List.flatMap_cons, List.forall_mem_append, List.forall_mem_append,
      here, sound, List.filterMap_append, List.filterMap_append, List.sum_append, List.sum_append,
      number, sums, sumOf_append]
    exact ⟨Iff.rfl, add_add_add_comm _ _ _ _⟩

/-- Two sums of samples differ by what only one of them has. -/
theorem sumOf_add_sumOf (p q : Sample Value → Prop) [DecidablePred p] [DecidablePred q]
    (all : List (Sample Value)) :
    sumOf all p + sumOf all (fun sample => q sample ∧ ¬ p sample) =
      sumOf all (fun sample => p sample ∧ ¬ q sample) + sumOf all q := by
  induction all with
  | nil => rfl
  | cons sample all ih =>
    unfold sumOf at ih ⊢
    have both := congrArg (sample.value + ·) ih
    by_cases counted : p sample <;> by_cases asked : q sample
    · simpa [counted, asked, add_assoc, add_left_comm] using both
    · simpa [counted, asked, add_assoc] using both
    · simpa [counted, asked, add_left_comm] using both
    · simpa [counted, asked] using ih

end Entries

/-- **What a counter adds up to.** The parser returns the sum of the samples asked for just where no piece
of a cut line makes it raise, and the values counted by mistake, with the numbers of such pieces, add up to
the values that are missed. -/
theorem parsePrometheusCounter_iff {Value : Type} [AddCancelCommMonoid Value]
    (numerals : Numerals Value) (metrics : List (Entry Value)) (name : MetricName)
    (labels : Option (List (List Char × List Char))) :
    parsePrometheusCounter numerals (metricsText numerals metrics) name.text labels =
        some (sumOf (samples metrics) (Asked (totalOf name.text) (labels.getD []))) ↔
      (∀ piece ∈ metrics.flatMap (Entry.pieces numerals),
        ¬ Fails (totalOf name.text) (labels.getD []) piece) ∧
      sumOf (samples metrics) (fun sample => Counted (totalOf name.text) (labels.getD []) sample ∧
            ¬ Asked (totalOf name.text) (labels.getD []) sample) +
          ((metrics.flatMap (Entry.pieces numerals)).filterMap
            (lineNumber numerals (totalOf name.text) (labels.getD []))).sum =
        sumOf (samples metrics) (fun sample => Asked (totalOf name.text) (labels.getD []) sample ∧
            ¬ Counted (totalOf name.text) (labels.getD []) sample) := by
  obtain ⟨sound, sums⟩ :=
    metricsText_lines numerals (labels.getD []) name metrics
  have exchange := sumOf_add_sumOf (Counted (totalOf name.text) (labels.getD []))
    (Asked (totalOf name.text) (labels.getD [])) (samples metrics)
  rw [parsePrometheusCounter, foldlM_addLine, sound, zero_add, sums]
  refine and_congr_right fun _ => ⟨fun returned => ?_, fun balanced => ?_⟩
  · refine add_right_cancel (b := sumOf (samples metrics)
      (Asked (totalOf name.text) (labels.getD []))) ?_
    rw [add_right_comm, ← exchange, add_right_comm, returned, add_comm]
  · refine add_right_cancel (b := sumOf (samples metrics) fun sample =>
      Asked (totalOf name.text) (labels.getD []) sample ∧
        ¬ Counted (totalOf name.text) (labels.getD []) sample) ?_
    rw [add_right_comm, exchange, add_right_comm, balanced, add_comm]

/-! ### A label name that ends as the filter's does -/

theorem isNameChar_of_digit {value : Nat} {c : Char} (mem : c ∈ Nat.toDigits 10 value) :
    (isNameChar c || c == ':') = true := by
  have digit : c.isDigit = true := Nat.isDigit_of_mem_toDigits (by decide) (by decide) mem
  have alphanum : (c.isAlpha || c.isDigit) = true := by
    rw [digit, Bool.or_true]
  have passes : (((c.isAlpha || c.isDigit) || c == '_') || c == ':') = true := by
    rw [alphanum, Bool.true_or, Bool.true_or]
  exact passes

/-- Whole numbers. -/
def wholeNumbers : Numerals Nat where
  float text :=
    let digits := if ['.', '0'] <:+ text then text.take (text.length - 2) else text
    if digits ≠ [] ∧ digits.all Char.isDigit then some (Nat.ofDigitChars 10 digits 0) else none
  floatToGoString value := Nat.toDigits 10 value ++ ['.', '0']
  nonempty value := by simp
  plain value c mem := by
    rcases List.mem_append.mp mem with isDigit | point
    · have bounds := isNameChar_bounds (isNameChar_of_digit isDigit)
      refine ⟨isSpace_of_bounds bounds, ?_⟩
      rintro rfl
      exact absurd bounds (by decide)
    · have all : (['.', '0'].all fun c => !isSpace c && c != '{') = true := rfl
      simpa using List.all_eq_true.mp all c point
  float_floatToGoString value := by
    have digits : ∀ c ∈ Nat.toDigits 10 value, c.isDigit = true := fun c mem =>
      Nat.isDigit_of_mem_toDigits (by decide) (by decide) mem
    simpa [Nat.toDigits_ne_nil, Nat.ofDigitChars_ten_toDigits] using digits

def requests : MetricName := ⟨"requests".toList, by decide⟩

/-- One sample, with the label `http_status`. -/
def oneRequest : List (Entry Nat) :=
  [.type requests .counter, .sample
    { name := ⟨totalOf requests.text, by decide⟩
      labels := [(⟨"http_status".toList, by decide⟩, "200".toList)]
      value := 1
      distinct := by simp }]

/-- **The filter `status="200"` finds the label `http_status`.** -/
theorem label_suffix_counted :
    parsePrometheusCounter wholeNumbers (metricsText wholeNumbers oneRequest) requests.text
        (some [("status".toList, "200".toList)]) = some 1 ∧
      sumOf (samples oneRequest)
        (Asked (totalOf requests.text) [("status".toList, "200".toList)]) = 0 := by
  decide

end ApiObservatory.Dashboard
