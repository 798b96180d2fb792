import ApiObservatory.Dashboard.MetricsParser
import Mathlib.Data.List.TakeWhile

/-
What the label filter of the dashboard's counters finds.

The filter looks for `k="v"` in the text of the labels. If neither holds a mark of that text, it finds
exactly the labels with the value `v` whose names end with `k` (`pairText_infix_iff`): the quote in front of
the value tells where a label begins, but nothing in front of `k` is looked at. So a counter is what it is
asked for where no other name ends as a key does (`parsePrometheusCounter_of_plain`).
-/

namespace ApiObservatory.Dashboard

open Foundation

/-! ### Escaped values -/

def Escaped (c : Char) : Prop := c = '\\' ∨ c = '\n' ∨ c = '"'

section Escapes

variable {c : Char} {value before after : List Char}

theorem escapeLabel_escaped (escaped : Escaped c) (value : List Char) :
    ∃ second, escapeLabel (c :: value) = '\\' :: second :: escapeLabel value := by
  rcases escaped with rfl | rfl | rfl
  · exact ⟨'\\', rfl⟩
  · exact ⟨'n', rfl⟩
  · exact ⟨'"', rfl⟩

theorem escapeLabel_other (other : ¬ Escaped c) : escapeLabel (c :: value) = c :: escapeLabel value := by
  simp only [Escaped, not_or] at other
  rw [escapeLabel, List.flatMap_cons, if_neg other.1, if_neg other.2.1, if_neg other.2.2]
  rfl

/-- A quote inside a value has a backslash in front of it. -/
theorem escapeLabel_quote (quote : escapeLabel value = before ++ '"' :: after) :
    ∃ front, before = front ++ ['\\'] := by
  induction value generalizing before with
  | nil => simp [escapeLabel] at quote
  | cons c value ih =>
    by_cases escaped : Escaped c
    · obtain ⟨second, written⟩ := escapeLabel_escaped escaped value
      rw [written] at quote
      rcases List.cons_eq_append_iff.mp quote with ⟨rfl, here⟩ | ⟨later, rfl, rest⟩
      · exact absurd (List.cons.inj here).1 (by decide)
      · rcases List.cons_eq_append_iff.mp rest with ⟨rfl, -⟩ | ⟨more, rfl, behind⟩
        · exact ⟨[], rfl⟩
        · obtain ⟨front, rfl⟩ := ih behind
          exact ⟨'\\' :: second :: front, rfl⟩
    · rw [escapeLabel_other escaped] at quote
      rcases List.cons_eq_append_iff.mp quote with ⟨rfl, here⟩ | ⟨later, rfl, rest⟩
      · exact absurd (.inr (.inr (List.cons.inj here).1.symm)) escaped
      · obtain ⟨front, rfl⟩ := ih rest
        exact ⟨c :: front, rfl⟩

/-- A value whose text has no backslash is written as it is. -/
theorem eq_of_escapeLabel (plain : '\\' ∉ escapeLabel value) : escapeLabel value = value := by
  induction value with
  | nil => rfl
  | cons c value ih =>
    by_cases escaped : Escaped c
    · obtain ⟨second, written⟩ := escapeLabel_escaped escaped value
      rw [written] at plain
      exact absurd List.mem_cons_self plain
    · rw [escapeLabel_other escaped] at plain ⊢
      rw [ih fun mem => plain (List.mem_cons_of_mem c mem)]

theorem escapeLabel_of_plain (plain : ∀ c ∈ value, ¬ Escaped c) : escapeLabel value = value := by
  induction value with
  | nil => rfl
  | cons c value ih =>
    obtain ⟨here, later⟩ := List.forall_mem_cons.mp plain
    rw [escapeLabel_other here, ih later]

end Escapes

/-! ### The text of the labels -/

theorem LabelName.plain (name : LabelName) : '"' ∉ name.text ∧ '=' ∉ name.text ∧ ',' ∉ name.text := by
  have chars := isName_all name.legal
  refine ⟨fun mem => ?_, fun mem => ?_, fun mem => ?_⟩
  · exact absurd (chars _ mem) (by decide)
  · exact absurd (chars _ mem) (by decide)
  · exact absurd (chars _ mem) (by decide)

/-- A label, and the others behind a comma. -/
theorem labelText_cons (label : LabelName × List Char) (labels : List (LabelName × List Char)) :
    ∃ tail, labelText (label :: labels) =
        (label.1.text ++ ['=']) ++ '"' :: (escapeLabel label.2 ++ '"' :: tail) ∧
      (tail = [] ∨ tail = ',' :: labelText labels) := by
  cases labels with
  | nil => exact ⟨[], by simp [labelText, pairText], .inl rfl⟩
  | cons other labels =>
    refine ⟨',' :: labelText (other :: labels), ?_, .inr rfl⟩
    simp [labelText, pairText, List.intercalate_cons_cons]

/-- **A quote behind `=`** opens the value of a label, or closes one that ends so. -/
theorem labelText_quote {labels : List (LabelName × List Char)} {rest back : List Char}
    (text : labelText labels = (rest ++ ['=']) ++ '"' :: back) :
    (∃ label ∈ labels, ∃ before after, rest = before ++ label.1.text ∧
        (before = [] ∨ ∃ more, before = more ++ [',']) ∧ back = escapeLabel label.2 ++ '"' :: after) ∨
      back = [] ∨ ∃ later, back = ',' :: later := by
  induction labels generalizing rest with
  | nil => simp [labelText] at text
  | cons label labels ih =>
    obtain ⟨tail, isText, isTail⟩ := labelText_cons label labels
    rw [isText] at text
    rcases mark_cases text with ⟨name, value⟩ | ⟨between, name, -⟩ | ⟨between, front, value⟩
    · -- The quote that opens the value of this label.
      obtain ⟨name, -⟩ := List.append_singleton_inj.mp name
      exact .inl ⟨label, List.mem_cons_self, [], tail, name.symm, .inl rfl, value.symm⟩
    · have inName : '"' ∈ label.1.text ++ ['='] := name ▸ by simp
      simp [label.1.plain.1] at inName
    · rcases mark_cases value with ⟨rfl, rfl⟩ | ⟨later, isValue, -⟩ | ⟨later, rfl, isTail'⟩
      · -- The quote that closes it.
        rcases isTail with rfl | rfl
        · exact .inr (.inl rfl)
        · exact .inr (.inr ⟨_, rfl⟩)
      · -- A quote inside it, and a backslash in front of that.
        obtain ⟨escaped, rfl⟩ := escapeLabel_quote isValue
        have ends : rest ++ ['='] =
            (label.1.text ++ ['='] ++ '"' :: escaped) ++ ['\\'] := by
          rw [front, List.append_assoc _ _ ['\\'], List.cons_append]
        exact absurd (List.append_singleton_inj.mp ends).2 (by decide)
      · -- A quote of another label.
        rcases isTail with rfl | rfl
        · simp at isTail'
        · rcases List.cons_eq_append_iff.mp isTail' with ⟨-, here⟩ | ⟨others, rfl, others_quote⟩
          · exact absurd (List.cons.inj here).1 (by decide)
          · obtain rfl | ⟨front_others, last, rfl⟩ := List.eq_nil_or_concat' others
            · have ends : rest ++ ['='] =
                  (label.1.text ++ ['='] ++ '"' :: (escapeLabel label.2 ++ ['"'])) ++ [','] := by
                rw [front]
                simp
              exact absurd (List.append_singleton_inj.mp ends).2 (by decide)
            · have ends : rest ++ ['='] = (label.1.text ++ ['='] ++
                  '"' :: (escapeLabel label.2 ++ '"' :: ',' :: front_others)) ++ [last] := by
                rw [front]
                simp
              obtain ⟨rfl, rfl⟩ := List.append_singleton_inj.mp ends
              rcases ih others_quote with ⟨other, mem, before, after, rfl, begins, rfl⟩ | closing
              · refine .inl ⟨other, List.mem_cons_of_mem _ mem, label.1.text ++ ['='] ++
                  '"' :: (escapeLabel label.2 ++ '"' :: ',' :: before), after, by simp, .inr ?_, rfl⟩
                rcases begins with rfl | ⟨more, rfl⟩
                · exact ⟨label.1.text ++ ['='] ++ '"' :: (escapeLabel label.2 ++ ['"']), by simp⟩
                · exact ⟨label.1.text ++ ['='] ++
                    '"' :: (escapeLabel label.2 ++ '"' :: ',' :: more), by simp⟩
              · exact .inr closing

/-! ### What the filter finds -/

/-- A pair of the filter without the marks of the text. -/
def PlainPair (label : List Char × List Char) : Prop :=
  ',' ∉ label.1 ∧ ',' ∉ label.2 ∧ ∀ c ∈ label.2, ¬ Escaped c

section Filter

variable {label : List Char × List Char} {labels : List (LabelName × List Char)}

/-- **A plain pair** is found at the labels with its value whose names end with its key. -/
theorem pairText_infix_iff (plain : PlainPair label) :
    pairText label <:+: labelText labels ↔
      ∃ pair ∈ labels, label.1 <:+ pair.1.text ∧ pair.2 = label.2 := by
  obtain ⟨key, value⟩ := label
  obtain ⟨oneKey, oneValue, unescaped⟩ := plain
  constructor
  · rintro ⟨pre, post, found⟩
    have text : labelText labels = ((pre ++ key) ++ ['=']) ++ '"' :: (value ++ '"' :: post) := by
      rw [← found]
      simp [pairText]
    rcases labelText_quote text with ⟨pair, mem, before, after, names, begins, values⟩ | closing
    · refine ⟨pair, mem, ?_, ?_⟩
      · -- The key does not reach over the comma in front of the name.
        rcases List.append_eq_append_iff.mp names with ⟨more, rfl, isKey⟩ | ⟨more, -, isName⟩
        · obtain rfl | ⟨front, last, rfl⟩ := List.eq_nil_or_concat' more
          · exact ⟨[], by simpa using isKey⟩
          · rcases begins with empty | ⟨others, ends⟩
            · simp at empty
            · rw [← List.append_assoc] at ends
              obtain ⟨-, rfl⟩ := List.append_singleton_inj.mp ends
              exact absurd (show ',' ∈ key by rw [isKey]; simp) oneKey
        · exact ⟨more, isName.symm⟩
      · rcases mark_cases values with ⟨same, -⟩ | ⟨between, longer, -⟩ | ⟨between, longer, -⟩
        · have unwritten : '\\' ∉ escapeLabel pair.2 := same ▸ fun mem => unescaped _ mem (.inl rfl)
          exact (eq_of_escapeLabel unwritten).symm.trans same.symm
        · exact absurd (.inr (.inr rfl)) (unescaped '"' (longer ▸ by simp))
        · obtain ⟨front, rfl⟩ := escapeLabel_quote longer
          exact absurd (.inl rfl) (unescaped '\\' (by simp))
    · rcases closing with none | ⟨later, comma⟩
      · simp at none
      · rcases List.append_eq_cons_iff.mp comma with ⟨rfl, here⟩ | ⟨more, rfl, -⟩
        · exact absurd (List.cons.inj here).1 (by decide)
        · exact absurd List.mem_cons_self oneValue
  · rintro ⟨pair, mem, ⟨more, name⟩, rfl⟩
    have inside : pairText (pair.1.text, escapeLabel pair.2) <:+: labelText labels :=
      infix_intercalate (List.mem_map_of_mem mem)
    rw [escapeLabel_of_plain unescaped, ← name] at inside
    exact List.IsInfix.trans ⟨more, [], by simp [pairText]⟩ inside

end Filter

section Counters

variable {Value : Type} {labels : List (List Char × List Char)} {sample : Sample Value}

/-- No label value has a closing brace. -/
def Sample.Unbraced (sample : Sample Value) : Prop := ∀ label ∈ sample.labels, '}' ∉ label.2

/-- Without a closing brace in a value, the label part is the whole text of the labels. -/
theorem Sample.Unbraced.takeWhile (unbraced : sample.Unbraced) :
    (labelText sample.labels).takeWhile (· ≠ '}') = labelText sample.labels := by
  refine List.takeWhile_eq_self_iff.mpr fun c mem => ?_
  suffices c ≠ '}' by simpa using this
  rintro rfl
  rcases mem_intercalate mem with comma | ⟨text, isText, inside⟩
  · exact absurd comma (by decide)
  · obtain ⟨label, isLabel, rfl⟩ := List.mem_map.mp isText
    rcases pairText_mem inside with inName | inValue | equals | quote
    · exact absurd (label.1.bounds inName) (by decide)
    · rcases escapeLabel_mem inValue with backslash | letter | quote | ⟨original, -⟩
      · exact absurd backslash (by decide)
      · exact absurd letter (by decide)
      · exact absurd quote (by decide)
      · exact unbraced label isLabel original
    · exact absurd equals (by decide)
    · exact absurd quote (by decide)

theorem paired_iff (plain : ∀ label ∈ labels, PlainPair label) (unbraced : sample.Unbraced) :
    Paired labels sample ↔
      ∀ label ∈ labels, ∃ pair ∈ sample.labels, label.1 <:+ pair.1.text ∧ pair.2 = label.2 := by
  rw [Paired, unbraced.takeWhile]
  constructor
  · rintro (rfl | ⟨-, found⟩) label mem
    · cases mem
    · exact (pairText_infix_iff (plain label mem)).mp (found label mem)
  · intro found
    refine or_iff_not_imp_left.mpr fun filtered => ⟨?_, fun label mem => ?_⟩
    · obtain ⟨label, mem⟩ := List.exists_mem_of_ne_nil labels filtered
      obtain ⟨pair, isIn, -⟩ := found label mem
      exact List.ne_nil_of_mem isIn
    · exact (pairText_infix_iff (plain label mem)).mpr (found label mem)

/-- No name of a label ends with a key of the filter and is longer. -/
def Apart (labels : List (List Char × List Char)) (sample : Sample Value) : Prop :=
  ∀ label ∈ labels, ∀ pair ∈ sample.labels, label.1 <:+ pair.1.text → pair.1.text = label.1

theorem paired_iff_of_apart (plain : ∀ label ∈ labels, PlainPair label) (unbraced : sample.Unbraced)
    (apart : Apart labels sample) :
    Paired labels sample ↔ ∀ label ∈ labels, label ∈ sample.pairs := by
  rw [paired_iff plain unbraced]
  refine forall₂_congr fun label mem => ?_
  rw [Sample.pairs, List.mem_map]
  refine exists_congr fun pair => and_congr_right fun isIn => ?_
  constructor
  · rintro ⟨ends, value⟩
    exact Prod.ext (apart label mem pair isIn ends) value
  · rintro rfl
    exact ⟨List.suffix_rfl, rfl⟩

/-- What is counted is then what is asked for. -/
theorem counted_iff_asked {start : List Char} (plain : ∀ label ∈ labels, PlainPair label)
    (whole : sample.Whole) (unbraced : sample.Unbraced)
    (named : Named start sample → sample.name.text = start) (apart : Apart labels sample) :
    Counted start labels sample ↔ Asked start labels sample := by
  rw [Counted, Asked, paired_iff_of_apart plain unbraced apart, and_iff_right whole]
  refine and_congr_left fun _ => ⟨named, ?_⟩
  rintro rfl
  refine ⟨List.prefix_rfl, fun longer => ?_⟩
  have shorter := longer.length_le
  rw [List.length_append, List.length_singleton] at shorter
  exact Nat.not_succ_le_self _ shorter

/-- **A counter of plain labels.** Where no line is cut, no label value has a closing brace, no name goes on
behind the one asked for, and no label name goes on in front of a key of the filter, the parser returns the
sum of the samples asked for. -/
theorem parsePrometheusCounter_of_plain [AddCancelCommMonoid Value] {numerals : Numerals Value}
    {metrics : List (Entry Value)} {name : MetricName} {labels : Option (List (List Char × List Char))}
    (plain : ∀ label ∈ labels.getD [], PlainPair label)
    (uncut : metrics.flatMap (Entry.pieces numerals) = [])
    (whole : ∀ sample ∈ samples metrics, sample.Whole ∧ sample.Unbraced)
    (named : ∀ sample ∈ samples metrics,
      Named (totalOf name.text) sample → sample.name.text = totalOf name.text)
    (apart : ∀ sample ∈ samples metrics, Apart (labels.getD []) sample) :
    parsePrometheusCounter numerals (metricsText numerals metrics) name.text labels =
      some (sumOf (samples metrics) (Asked (totalOf name.text) (labels.getD []))) := by
  obtain ⟨sound, sums⟩ := metricsText_lines numerals (labels.getD []) name metrics
  have same : ∀ sample ∈ samples metrics,
      (Counted (totalOf name.text) (labels.getD []) sample ↔
        Asked (totalOf name.text) (labels.getD []) sample) := fun sample mem =>
    counted_iff_asked plain (whole sample mem).1 (whole sample mem).2 (named sample mem)
      (apart sample mem)
  have counted : sumOf (samples metrics) (Counted (totalOf name.text) (labels.getD [])) =
      sumOf (samples metrics) (Asked (totalOf name.text) (labels.getD [])) := by
    rw [sumOf, sumOf, List.filter_congr fun sample mem => decide_eq_decide.mpr (same sample mem)]
  rw [uncut] at sound sums
  rw [parsePrometheusCounter, foldlM_addLine, sound, sums, counted]
  simp

end Counters

end ApiObservatory.Dashboard
