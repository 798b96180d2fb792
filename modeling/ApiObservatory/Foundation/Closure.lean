import Mathlib.Logic.Relation

/-
The reflexive-transitive closure of a finite list of links, computed.

A path that uses a link can be cut to use it once, from its first to its last
use. So the closure of `(a, b) :: links` is the closure of `links` with at most
one passage from `a` to `b`, which `reaches` follows by recursion on the list.
-/

namespace ApiObservatory.Foundation

universe u

variable {α : Type u} [DecidableEq α]

/-- `y` can be reached from `x` along `links`. -/
def reaches : List (α × α) → α → α → Bool
  | [], x, y => x == y
  | (a, b) :: links, x, y => reaches links x y || (reaches links x a && reaches links b y)

attribute [local simp] reaches

@[simp] theorem reaches_refl (links : List (α × α)) (x : α) : reaches links x x = true := by
  induction links with
  | nil => simp
  | cons link links ih => simp [ih]

theorem reaches_cons {a b x y : α} {links : List (α × α)} :
    reaches ((a, b) :: links) x y = true ↔
      reaches links x y = true ∨ (reaches links x a = true ∧ reaches links b y = true) := by
  rw [reaches, Bool.or_eq_true, Bool.and_eq_true]

theorem reaches_of_mem {links : List (α × α)} {x y : α} (mem : (x, y) ∈ links) :
    reaches links x y = true := by
  induction links with
  | nil => cases mem
  | cons link links ih =>
    obtain ⟨a, b⟩ := link
    rw [reaches_cons]
    rcases List.mem_cons.mp mem with here | later
    · obtain ⟨rfl, rfl⟩ := Prod.mk.inj here
      exact Or.inr ⟨reaches_refl links x, reaches_refl links y⟩
    · exact Or.inl (ih later)

theorem reaches_trans {links : List (α × α)} {x y z : α} (first : reaches links x y = true)
    (second : reaches links y z = true) : reaches links x z = true := by
  induction links generalizing x y z with
  | nil =>
    rw [reaches, beq_iff_eq] at first
    exact first ▸ second
  | cons link links ih =>
    obtain ⟨a, b⟩ := link
    rw [reaches_cons] at first second ⊢
    rcases first with before | ⟨toLink, fromLink⟩
    · rcases second with after | ⟨toLink, fromLink⟩
      · exact Or.inl (ih before after)
      · exact Or.inr ⟨ih before toLink, fromLink⟩
    · rcases second with after | ⟨_, fromLink'⟩
      · exact Or.inr ⟨toLink, ih fromLink after⟩
      · exact Or.inr ⟨toLink, fromLink'⟩

/-- **The computed closure is the closure.** -/
theorem reaches_iff {links : List (α × α)} {x y : α} :
    reaches links x y = true ↔ Relation.ReflTransGen (fun a b => (a, b) ∈ links) x y := by
  constructor
  · intro reached
    induction links generalizing x y with
    | nil =>
      rw [reaches, beq_iff_eq] at reached
      exact reached ▸ .refl
    | cons link links ih =>
      obtain ⟨a, b⟩ := link
      have widen : ∀ {x y : α}, Relation.ReflTransGen (fun a b => (a, b) ∈ links) x y →
          Relation.ReflTransGen (fun c d => (c, d) ∈ (a, b) :: links) x y :=
        fun path => Relation.ReflTransGen.mono (fun _ _ mem => List.mem_cons_of_mem _ mem) _ _ path
      rcases reaches_cons.mp reached with before | ⟨toLink, fromLink⟩
      · exact widen (ih before)
      · exact ((widen (ih toLink)).tail List.mem_cons_self).trans (widen (ih fromLink))
  · intro path
    induction path with
    | refl => exact reaches_refl links x
    | tail _ mem ih => exact reaches_trans ih (reaches_of_mem mem)

/-- More links reach at least as much. -/
theorem reaches_mono {links links' : List (α × α)} (sub : ∀ link ∈ links, link ∈ links')
    {x y : α} (reached : reaches links x y = true) : reaches links' x y = true := by
  rw [reaches_iff] at reached ⊢
  exact Relation.ReflTransGen.mono (fun a b mem => sub (a, b) mem) _ _ reached

/-- The closure depends on which links there are only. -/
theorem reaches_congr {links links' : List (α × α)} (same : ∀ link, link ∈ links ↔ link ∈ links')
    (x y : α) : reaches links x y = reaches links' x y := by
  rw [Bool.eq_iff_iff]
  exact ⟨reaches_mono fun link mem => (same link).mp mem,
    reaches_mono fun link mem => (same link).mpr mem⟩

/-- Where a path leads that does not stay: along a first link. -/
theorem reaches_cases {links : List (α × α)} {x y : α} (reached : reaches links x y = true) :
    x = y ∨ ∃ z, (x, z) ∈ links ∧ reaches links z y = true := by
  rw [reaches_iff] at reached
  rcases reached.cases_head with same | ⟨z, first, rest⟩
  · exact Or.inl same
  · exact Or.inr ⟨z, first, reaches_iff.mpr rest⟩

/-- **One more link** changes the closure unless it joins two points that are joined already. -/
theorem reaches_cons_eq_iff (a b : α) (links : List (α × α)) :
    (∀ x y, reaches ((a, b) :: links) x y = reaches links x y) ↔ reaches links a b = true := by
  constructor
  · intro same
    rw [← same a b]
    exact reaches_of_mem List.mem_cons_self
  · intro joined x y
    rw [Bool.eq_iff_iff, reaches_cons]
    constructor
    · rintro (before | ⟨toLink, fromLink⟩)
      · exact before
      · exact reaches_trans toLink (reaches_trans joined fromLink)
    · exact Or.inl

end ApiObservatory.Foundation
