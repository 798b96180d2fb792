import Mathlib.Data.List.Dedup
import Mathlib.Data.List.Sort
import Mathlib.Data.Set.Basic
import Mathlib.Data.String.Basic

/-
Finite sets of words written as one text.

The words of a set are sorted and joined by a separator that none of them contains. Then the text
determines the set (`IsJoin.words_iff`), the set determines the text (`IsJoin.unique`), and the text
of a union is made from the two texts (`IsJoin.union`).
-/

namespace ApiObservatory.Foundation

/-- `text.split(separator)`. -/
def splitAt (separator : Char) (text : String) : List String :=
  (text.toList.splitOn separator).map String.ofList

/-- `separator.join(words)`. -/
def joinWith (separator : Char) (words : List String) : String :=
  (String.singleton separator).intercalate words

section Join

variable {separator : Char} {text text' word : String} {set set' : Set String}

/-- Words without the separator are read back from their join. -/
theorem splitAt_joinWith {words : List String} (nonempty : words ≠ [])
    (clean : ∀ word ∈ words, separator ∉ word.toList) :
    splitAt separator (joinWith separator words) = words := by
  have cleanLists : ∀ chars ∈ words.map String.toList, separator ∉ chars := by
    intro chars mem
    obtain ⟨word, isIn, rfl⟩ := List.mem_map.mp mem
    exact clean word isIn
  rw [splitAt, joinWith, String.toList_intercalate, String.toList_singleton,
    List.splitOn_intercalate separator cleanLists (by simpa using nonempty), List.map_map]
  simp [Function.comp_def]

variable (separator) in
/-- The text is the join of the sorted words of the set. -/
def IsJoin (text : String) (set : Set String) : Prop :=
  ∃ words : List String, words.Pairwise (· < ·) ∧ (∀ word, word ∈ words ↔ word ∈ set) ∧
    text = joinWith separator words

/-- The set determines the text. -/
theorem IsJoin.unique (join : IsJoin separator text set) (other : IsJoin separator text' set) :
    text = text' := by
  obtain ⟨words, sorted, mem, rfl⟩ := join
  obtain ⟨words', sorted', mem', rfl⟩ := other
  rw [List.Pairwise.eq_of_mem_iff sorted sorted' fun word => (mem word).trans (mem' word).symm]

theorem IsJoin.singleton (word : String) : IsJoin separator word {word} :=
  ⟨[word], List.pairwise_singleton _ _, by simp, by simp [joinWith]⟩

section Words

variable (join : IsJoin separator text set) (nonempty : set.Nonempty)
  (clean : ∀ word ∈ set, separator ∉ word.toList)

include join nonempty clean in
/-- The text determines the set. -/
theorem IsJoin.words_iff : word ∈ splitAt separator text ↔ word ∈ set := by
  obtain ⟨words, -, mem, rfl⟩ := join
  obtain ⟨first, isIn⟩ := nonempty
  rw [splitAt_joinWith (List.ne_nil_of_mem ((mem first).mpr isIn)) fun word here =>
    clean word ((mem word).mp here), mem]

include join nonempty clean in
/-- The text of a union. -/
theorem IsJoin.union (join' : IsJoin separator text' set') (nonempty' : set'.Nonempty)
    (clean' : ∀ word ∈ set', separator ∉ word.toList) :
    IsJoin separator (joinWith separator
      ((splitAt separator text ++ splitAt separator text').dedup.insertionSort (· ≤ ·)))
      (set ∪ set') := by
  set words := (splitAt separator text ++ splitAt separator text').dedup with words_eq
  have distinct : (words.insertionSort (· ≤ ·)).Nodup :=
    (List.perm_insertionSort _ _).nodup_iff.mpr (List.nodup_dedup _)
  refine ⟨_, ((List.pairwise_insertionSort (· ≤ ·) words).and distinct).imp fun pair =>
    lt_of_le_of_ne pair.1 pair.2, fun word => ?_, rfl⟩
  rw [List.mem_insertionSort, words_eq, List.mem_dedup, List.mem_append,
    join.words_iff nonempty clean, join'.words_iff nonempty' clean', Set.mem_union]

include join nonempty in
/-- A text without words is the text of no set of proper words. -/
theorem IsJoin.ne_empty (proper : ∀ word ∈ set, word ≠ "") : text ≠ "" := by
  obtain ⟨words, -, mem, rfl⟩ := join
  obtain ⟨first, isIn⟩ := nonempty
  cases words with
  | nil => cases (mem first).mpr isIn
  | cons word rest =>
    intro empty
    have chars := congrArg String.toList empty
    rw [joinWith, String.toList_intercalate] at chars
    have isEmpty : word.toList = [] := by
      cases rest with
      | nil => simpa using chars
      | cons => simp at chars
    exact proper word ((mem word).mp List.mem_cons_self) (String.toList_injective isEmpty)

end Words

end Join

end ApiObservatory.Foundation
