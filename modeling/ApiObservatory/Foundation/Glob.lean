import Mathlib.Data.List.Infix

/-
Glob-style patterns.

A pattern is a list of symbols in which some are marks: for any run, for any one symbol, for a set
of symbols, and for the escape of a mark. `IsGlob` says what a matcher makes of them, so that results
about patterns hold of every matcher; `globMatch` is one.
-/

namespace ApiObservatory.Foundation

universe u

/-- The marks of a pattern language. -/
structure GlobMarks (α : Type u) where
  many : α
  one : α
  opening : α
  closing : α
  negation : α
  range : α
  escape : α
  distinct : [many, one, opening, closing, negation, range, escape].Nodup

namespace GlobMarks

variable {α : Type u} (marks : GlobMarks α)

/-- A symbol that stands for itself. -/
def Ordinary (c : α) : Prop :=
  c ≠ marks.many ∧ c ≠ marks.one ∧ c ≠ marks.opening ∧ c ≠ marks.escape

/-- A symbol that stands for itself in a set. -/
def Listed (c : α) : Prop :=
  c ≠ marks.closing ∧ c ≠ marks.negation ∧ c ≠ marks.range ∧ c ≠ marks.escape

end GlobMarks

variable {α : Type u} {marks : GlobMarks α}

/-- What a matcher makes of a pattern. -/
structure IsGlob (marks : GlobMarks α) (glob : List α → List α → Bool) : Prop where
  nil : ∀ {text}, glob [] text = true ↔ text = []
  ordinary : ∀ {c pattern text}, marks.Ordinary c →
    (glob (c :: pattern) text = true ↔ ∃ rest, text = c :: rest ∧ glob pattern rest = true)
  one : ∀ {pattern text},
    glob (marks.one :: pattern) text = true ↔ ∃ c rest, text = c :: rest ∧ glob pattern rest = true
  many : ∀ {pattern text},
    glob (marks.many :: pattern) text = true ↔
      ∃ run rest, text = run ++ rest ∧ glob pattern rest = true
  escaped : ∀ {c pattern text},
    glob (marks.escape :: c :: pattern) text = true ↔
      ∃ rest, text = c :: rest ∧ glob pattern rest = true
  listed : ∀ {set pattern text}, (∀ c ∈ set, marks.Listed c) →
    (glob (marks.opening :: (set ++ marks.closing :: pattern)) text = true ↔
      ∃ c ∈ set, ∃ rest, text = c :: rest ∧ glob pattern rest = true)

namespace IsGlob

variable {glob : List α → List α → Bool} {front pattern rest set : List α} {c : α}

/-- The pattern of a text without sets and escapes matches the text. -/
theorem own_text (laws : IsGlob marks glob)
    (plain : ∀ c ∈ front, c ≠ marks.opening ∧ c ≠ marks.escape)
    (matched : glob pattern rest = true) : glob (front ++ pattern) (front ++ rest) = true := by
  induction front with
  | nil => exact matched
  | cons c front ih =>
    obtain ⟨here, later⟩ := List.forall_mem_cons.mp plain
    rw [List.cons_append, List.cons_append]
    by_cases run : c = marks.many
    · subst run
      exact laws.many.mpr ⟨[marks.many], front ++ rest, rfl, ih later⟩
    · by_cases single : c = marks.one
      · subst single
        exact laws.one.mpr ⟨marks.one, front ++ rest, rfl, ih later⟩
      · exact (laws.ordinary ⟨run, single, here⟩).mpr ⟨front ++ rest, rfl, ih later⟩

/-- Without runs, sets and escapes in front, the rest of the pattern meets the rest of the text. -/
theorem of_front (laws : IsGlob marks glob)
    (fixed : ∀ c ∈ front, c ≠ marks.many ∧ c ≠ marks.opening ∧ c ≠ marks.escape)
    (matched : glob (front ++ pattern) (front ++ rest) = true) : glob pattern rest = true := by
  induction front with
  | nil => exact matched
  | cons c front ih =>
    obtain ⟨here, later⟩ := List.forall_mem_cons.mp fixed
    rw [List.cons_append, List.cons_append] at matched
    by_cases single : c = marks.one
    · subst single
      obtain ⟨_, _, same, matched⟩ := laws.one.mp matched
      cases same
      exact ih later matched
    · obtain ⟨_, same, matched⟩ := (laws.ordinary ⟨here.1, single, here.2⟩).mp matched
      cases same
      exact ih later matched

/-- An escape is not matched by its own pattern, unless it escapes itself. -/
theorem escape_of_matched (laws : IsGlob marks glob)
    (matched : glob (marks.escape :: c :: pattern) (marks.escape :: rest) = true) :
    c = marks.escape := by
  obtain ⟨_, same, -⟩ := laws.escaped.mp matched
  exact (List.cons.inj same).1.symm

/-- The opening of a set is not matched by the set, unless it is listed. -/
theorem opening_mem_of_matched (laws : IsGlob marks glob) (listed : ∀ c ∈ set, marks.Listed c)
    (matched : glob (marks.opening :: (set ++ marks.closing :: pattern)) (marks.opening :: rest) =
      true) : marks.opening ∈ set := by
  obtain ⟨c, mem, _, same, -⟩ := (laws.listed listed).mp matched
  rwa [(List.cons.inj same).1]

end IsGlob

/-! ### A matcher -/

/-- One element of a pattern. -/
inductive Token (α : Type u) where
  | run
  | symbol (accepts : α → Bool)

/-- Whether the elements match the whole text. -/
def matchTokens : List (Token α) → List α → Bool
  | [], text => text.isEmpty
  | .run :: tokens, text => text.tails.any fun rest => matchTokens tokens rest
  | .symbol _ :: _, [] => false
  | .symbol accepts :: tokens, c :: rest => accepts c && matchTokens tokens rest

theorem matchTokens_symbol {accepts : α → Bool} {elements : List (Token α)} {text : List α} :
    matchTokens (.symbol accepts :: elements) text = true ↔
      ∃ c rest, text = c :: rest ∧ accepts c = true ∧ matchTokens elements rest = true := by
  cases text with
  | nil => simp [matchTokens]
  | cons c rest => simp [matchTokens]

theorem matchTokens_run {elements : List (Token α)} {text : List α} :
    matchTokens (.run :: elements) text = true ↔
      ∃ run rest, text = run ++ rest ∧ matchTokens elements rest = true := by
  rw [matchTokens, List.any_eq_true]
  constructor
  · rintro ⟨rest, mem, matched⟩
    obtain ⟨run, rfl⟩ := (List.mem_tails _ _).mp mem
    exact ⟨run, rest, rfl, matched⟩
  · rintro ⟨run, rest, rfl, matched⟩
    exact ⟨rest, (List.mem_tails _ _).mpr (List.suffix_append run rest), matched⟩

section Matcher

variable [DecidableEq α] [LE α] [DecidableLE α] (marks : GlobMarks α)

/-- A symbol between two ends, in either order. -/
def between (a b c : α) : Bool :=
  (decide (a ≤ c) && decide (c ≤ b)) || (decide (b ≤ c) && decide (c ≤ a))

/-- The symbols of a set, and the pattern after it. A set that is not closed goes to the end. -/
def readSet : List α → (α → Bool) × List α
  | [] => (fun _ => false, [])
  | c :: pattern =>
      if c = marks.closing then (fun _ => false, pattern)
      else
        match pattern with
        | d :: last :: after =>
            if c = marks.escape then
              let set := readSet (last :: after)
              (fun e => e == d || set.1 e, set.2)
            else if d = marks.range then
              let set := readSet after
              (fun e => between c last e || set.1 e, set.2)
            else
              let set := readSet (d :: last :: after)
              (fun e => e == c || set.1 e, set.2)
        | [d] =>
            if c = marks.escape then (fun e => e == d, [])
            else
              let set := readSet [d]
              (fun e => e == c || set.1 e, set.2)
        | [] => (fun e => e == c, [])

theorem length_readSet (pattern : List α) : (readSet marks pattern).2.length ≤ pattern.length := by
  fun_induction readSet marks pattern <;> grind

/-- The elements of a pattern. An escape at its end stands for itself. -/
def tokens (pattern : List α) : List (Token α) :=
  match pattern with
  | [] => []
  | c :: pattern =>
      if c = marks.many then .run :: tokens pattern
      else if c = marks.one then .symbol (fun _ => true) :: tokens pattern
      else if c = marks.opening then
        let negated := pattern.head? = some marks.negation
        let set := readSet marks (if negated then pattern.tail else pattern)
        .symbol (fun d => set.1 d != negated) :: tokens set.2
      else if c = marks.escape then
        match pattern with
        | [] => [.symbol fun d => d == c]
        | d :: pattern => .symbol (fun e => e == d) :: tokens pattern
      else .symbol (fun d => d == c) :: tokens pattern
termination_by pattern.length
decreasing_by all_goals grind [length_readSet]

/-- Whether the pattern matches the whole text. -/
def globMatch (pattern text : List α) : Bool := matchTokens (tokens marks pattern) text

theorem readSet_cons {c : α} {pattern : List α} (unclosed : c ≠ marks.closing)
    (unescaped : c ≠ marks.escape) (single : ∀ d ∈ pattern.head?, d ≠ marks.range) :
    readSet marks (c :: pattern) =
      (fun e => e == c || (readSet marks pattern).1 e, (readSet marks pattern).2) := by
  rcases pattern with - | ⟨d, - | ⟨last, after⟩⟩
  · simp [readSet, unclosed]
  · rw [readSet, if_neg unclosed]
    simp only [if_neg unescaped]
  · have here := single d rfl
    rw [readSet, if_neg unclosed]
    simp only [if_neg unescaped, if_neg here]

theorem readSet_listed {set : List α} (listed : ∀ c ∈ set, marks.Listed c) (pattern : List α) :
    (readSet marks (set ++ marks.closing :: pattern)).2 = pattern ∧
      ∀ c, (readSet marks (set ++ marks.closing :: pattern)).1 c = true ↔ c ∈ set := by
  induction set with
  | nil =>
    rw [List.nil_append, readSet.eq_def]
    simp
  | cons c set ih =>
    obtain ⟨⟨unclosed, -, -, unescaped⟩, later⟩ := List.forall_mem_cons.mp listed
    have single : ∀ d ∈ (set ++ marks.closing :: pattern).head?, d ≠ marks.range := by
      intro d head
      cases set with
      | nil =>
        cases head
        have := marks.distinct
        grind
      | cons first set =>
        have same : first = d := Option.some.inj head
        exact same ▸ (later first List.mem_cons_self).2.2.1
    obtain ⟨rest, members⟩ := ih later
    rw [List.cons_append, readSet_cons marks unclosed unescaped single]
    refine ⟨rest, fun d => ?_⟩
    simp [members d]

theorem tokens_cons (c : α) (pattern : List α) :
    tokens marks (c :: pattern) =
      if c = marks.many then .run :: tokens marks pattern
      else if c = marks.one then .symbol (fun _ => true) :: tokens marks pattern
      else if c = marks.opening then
        let negated := pattern.head? = some marks.negation
        let set := readSet marks (if negated then pattern.tail else pattern)
        .symbol (fun d => set.1 d != negated) :: tokens marks set.2
      else if c = marks.escape then
        match pattern with
        | [] => [.symbol fun d => d == c]
        | d :: pattern => .symbol (fun e => e == d) :: tokens marks pattern
      else .symbol (fun d => d == c) :: tokens marks pattern := by
  rw [tokens.eq_def]

/-- The matcher is one of the language. -/
theorem isGlob_globMatch : IsGlob marks (globMatch marks) where
  nil {text} := by simp [globMatch, tokens, matchTokens]
  ordinary {c pattern text} ordinary := by
    obtain ⟨run, single, set, escape⟩ := ordinary
    simp only [globMatch, tokens_cons, if_neg run, if_neg single, if_neg set, if_neg escape,
      matchTokens_symbol]
    simp
  one {pattern text} := by
    have apart : marks.one ≠ marks.many := by
      have := marks.distinct
      grind
    simp only [globMatch, tokens_cons, if_neg apart, if_true, matchTokens_symbol, true_and]
  many {pattern text} := by
    simp only [globMatch, tokens_cons, if_true, matchTokens_run]
  escaped {c pattern text} := by
    have apart : marks.escape ≠ marks.many ∧ marks.escape ≠ marks.one ∧
        marks.escape ≠ marks.opening := by
      have := marks.distinct
      grind
    simp only [globMatch, tokens_cons, if_neg apart.1, if_neg apart.2.1, if_neg apart.2.2, if_true,
      matchTokens_symbol]
    simp
  listed {set pattern text} listed := by
    have apart : marks.opening ≠ marks.many ∧ marks.opening ≠ marks.one ∧
        marks.closing ≠ marks.negation := by
      have := marks.distinct
      grind
    have positive : (set ++ marks.closing :: pattern).head? ≠ some marks.negation := by
      cases set with
      | nil => simpa using apart.2.2
      | cons c set => simpa using (listed c List.mem_cons_self).2.1
    obtain ⟨after, members⟩ := readSet_listed marks listed pattern
    simp only [globMatch, tokens_cons, if_neg apart.1, if_neg apart.2.1, if_true,
      matchTokens_symbol, positive, if_false, after, decide_false, Bool.bne_false, members]
    constructor
    · rintro ⟨c, rest, is, mem, matched⟩
      exact ⟨c, mem, rest, is, matched⟩
    · rintro ⟨c, mem, rest, is, matched⟩
      exact ⟨c, rest, is, mem, matched⟩

end Matcher

end ApiObservatory.Foundation
