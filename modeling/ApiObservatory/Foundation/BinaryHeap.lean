import Mathlib.Data.List.Sort

/-
Binary heaps in a list, as Python's `heapq` keeps them: the children of index `i` are
`2 * i + 1` and `2 * i + 2`, and no entry has a smaller key than its parent.

An entry is sifted up by moving the smaller child up until a leaf is reached and then sifting
down from the leaf toward the root. During both the list is in order but for one index
(`Hole`): the edges that touch it may be wrong, and its parent is in order with its children.
All functions only permute the list.
-/

namespace ApiObservatory.Foundation.BinaryHeap

universe u v

variable {α : Type u} {κ : Type v} [LinearOrder κ] (key : α → κ)

/-- Exchange the entries at `i` and `j`. -/
def swap (l : List α) (i j : Nat) : List α :=
  match l[i]?, l[j]? with
  | some a, some b => (l.set i b).set j a
  | _, _ => l

/-- The entry at `i` has a smaller key than the entry at `j`. -/
def lessAt (l : List α) (i j : Nat) : Bool :=
  match l[i]?, l[j]? with
  | some a, some b => decide (key a < key b)
  | _, _ => false

/-- `_siftdown`: move the entry at `pos` toward the root, but not above `start`. -/
def siftDown (start : Nat) : Nat → List α → Nat → List α
  | 0, l, _ => l
  | fuel + 1, l, pos =>
    let parent := (pos - 1) / 2
    if start < pos && lessAt key l pos parent then siftDown start fuel (swap l pos parent) parent
    else l

/-- The smaller child of `pos`, the right one when they are equal. -/
def smallerChild (l : List α) (pos : Nat) : Nat :=
  let child := 2 * pos + 1
  let right := child + 1
  if right < l.length && !lessAt key l child right then right else child

/-- The loop of `_siftup`: move the smaller child up until `pos` is a leaf. -/
def descend : Nat → List α → Nat → List α × Nat
  | 0, l, pos => (l, pos)
  | fuel + 1, l, pos =>
    if 2 * pos + 1 < l.length then
      descend fuel (swap l pos (smallerChild key l pos)) (smallerChild key l pos)
    else (l, pos)

/-- `_siftup` -/
def siftUp (l : List α) (pos : Nat) : List α :=
  let (l', leaf) := descend key l.length l pos
  siftDown key pos leaf l' leaf

/-- `heappush` -/
def push (l : List α) (x : α) : List α := siftDown key 0 l.length (l ++ [x]) l.length

/-- `heappop`: the root, and the heap with the last entry sifted up from there. -/
def pop (l : List α) : Option (α × List α) :=
  match l.getLast? with
  | none => none
  | some last =>
    match l.dropLast with
    | [] => some (last, [])
    | root :: rest => some (root, siftUp key (last :: rest) 0)

/-- The loop of `heapify`: sift the entries below index `n` up, the last one first. -/
def heapifyFrom : Nat → List α → List α
  | 0, l => l
  | n + 1, l => heapifyFrom n (siftUp key l n)

/-- `heapify` -/
def heapify (l : List α) : List α := heapifyFrom key (l.length / 2) l

/-! ### Permutations -/

theorem swap_of_getElem? {l : List α} {i j : Nat} {a b : α} (first : l[i]? = some a)
    (second : l[j]? = some b) : swap l i j = (l.set i b).set j a := by
  rw [swap, first, second]

theorem swap_perm (l : List α) (i j : Nat) : (swap l i j).Perm l := by
  cases first : l[i]? with
  | none =>
    rw [swap, first]
  | some a =>
    cases second : l[j]? with
    | none =>
      rw [swap, first, second]
    | some b =>
      obtain ⟨boundI, rfl⟩ := List.getElem?_eq_some_iff.mp first
      obtain ⟨boundJ, rfl⟩ := List.getElem?_eq_some_iff.mp second
      rw [swap_of_getElem? first second]
      exact List.set_set_perm boundI boundJ

@[simp] theorem length_swap (l : List α) (i j : Nat) : (swap l i j).length = l.length :=
  (swap_perm l i j).length_eq

theorem siftDown_perm (start fuel : Nat) (l : List α) (pos : Nat) :
    (siftDown key start fuel l pos).Perm l := by
  induction fuel generalizing l pos with
  | zero => exact .refl l
  | succ fuel ih =>
    unfold siftDown
    dsimp only
    split
    · exact (ih _ _).trans (swap_perm l _ _)
    · exact .refl l

theorem descend_perm (fuel : Nat) (l : List α) (pos : Nat) : (descend key fuel l pos).1.Perm l := by
  induction fuel generalizing l pos with
  | zero => exact .refl l
  | succ fuel ih =>
    unfold descend
    split
    · exact (ih _ _).trans (swap_perm l _ _)
    · exact .refl l

theorem siftUp_perm (l : List α) (pos : Nat) : (siftUp key l pos).Perm l :=
  (siftDown_perm key _ _ _ _).trans (descend_perm key _ _ _)

/-- **Pushing adds the entry.** -/
theorem push_perm (l : List α) (x : α) : (push key l x).Perm (x :: l) :=
  (siftDown_perm key _ _ _ _).trans (List.perm_append_singleton x l)

theorem heapifyFrom_perm (n : Nat) (l : List α) : (heapifyFrom key n l).Perm l := by
  induction n generalizing l with
  | zero => exact .refl l
  | succ n ih => exact (ih _).trans (siftUp_perm key l n)

/-- **Heapify keeps the entries.** -/
theorem heapify_perm (l : List α) : (heapify key l).Perm l := heapifyFrom_perm key _ l

/-- **Popping removes the entry that it returns.** -/
theorem pop_perm {l l' : List α} {x : α} (popped : pop key l = some (x, l')) :
    (x :: l').Perm l := by
  unfold pop at popped
  cases ending : l.getLast? with
  | none => simp [ending] at popped
  | some last =>
    have split : l = l.dropLast ++ [last] := (List.dropLast_append_getLast? last ending).symm
    cases front : l.dropLast with
    | nil =>
      simp only [ending, front, Option.some.injEq, Prod.mk.injEq] at popped
      obtain ⟨rfl, rfl⟩ := popped
      rw [split, front]
      exact .refl _
    | cons root rest =>
      simp only [ending, front, Option.some.injEq, Prod.mk.injEq] at popped
      obtain ⟨rfl, rfl⟩ := popped
      rw [split, front]
      exact ((siftUp_perm key _ _).trans (List.perm_append_singleton last rest).symm).cons root

theorem pop_eq_none {l : List α} : pop key l = none ↔ l = [] := by
  constructor
  · intro empty
    unfold pop at empty
    cases ending : l.getLast? with
    | none => exact List.getLast?_eq_none_iff.mp ending
    | some last => cases front : l.dropLast <;> simp [ending, front] at empty
  · rintro rfl
    rfl

/-! ### The order -/

/-- `j` is a child of `i`. -/
def Child (i j : Nat) : Prop := j = 2 * i + 1 ∨ j = 2 * i + 2

/-- The entry at `j` has no smaller key than the entry at `i`, if both exist. -/
def Ordered (l : List α) (i j : Nat) : Prop :=
  ∀ a b, l[i]? = some a → l[j]? = some b → key a ≤ key b

/-- The order holds below every index from `start` on. -/
def HeapFrom (start : Nat) (l : List α) : Prop :=
  ∀ i j, start ≤ i → Child i j → Ordered key l i j

def IsHeap (l : List α) : Prop := HeapFrom key 0 l

/-- Index `pos` lies in the subtree of `start`. -/
inductive InSubtree (start : Nat) : Nat → Prop where
  | root : InSubtree start start
  | child {i j : Nat} : InSubtree start i → Child i j → InSubtree start j

variable {key}

theorem Child.lt {i j : Nat} (child : Child i j) : i < j := by
  unfold Child at child
  omega

theorem Child.eq_parent {i j : Nat} (child : Child i j) : i = (j - 1) / 2 := by
  unfold Child at child
  omega

theorem child_parent {pos : Nat} (positive : 0 < pos) : Child ((pos - 1) / 2) pos := by
  unfold Child
  omega

theorem InSubtree.le {start pos : Nat} (inside : InSubtree start pos) : start ≤ pos := by
  induction inside with
  | root => exact Nat.le_refl start
  | child _ child ih => exact Nat.le_trans ih (Nat.le_of_lt child.lt)

theorem InSubtree.parent {start pos : Nat} (inside : InSubtree start pos) (below : start < pos) :
    InSubtree start ((pos - 1) / 2) := by
  cases inside with
  | root => exact absurd below (Nat.lt_irrefl start)
  | child inside child => exact child.eq_parent ▸ inside

theorem inSubtree_zero (pos : Nat) : InSubtree 0 pos := by
  induction pos using Nat.strongRecOn with
  | ind pos ih =>
    rcases Nat.eq_zero_or_pos pos with rfl | positive
    · exact .root
    · exact .child (ih ((pos - 1) / 2) (by omega)) (child_parent positive)

theorem ordered_iff {l : List α} {i j : Nat} (boundI : i < l.length) (boundJ : j < l.length) :
    Ordered key l i j ↔ key l[i] ≤ key l[j] := by
  simp [Ordered, boundI, boundJ]

theorem ordered_of_length_le {l : List α} {i j : Nat} (outside : l.length ≤ j) :
    Ordered key l i j := by
  intro a b _ there
  rw [List.getElem?_eq_none outside] at there
  cases there

/-- A way through an index that exists. -/
theorem Ordered.trans {l : List α} {i j k : Nat} (bound : j < l.length)
    (first : Ordered key l i j) (second : Ordered key l j k) : Ordered key l i k := by
  intro a b here there
  have middle := List.getElem?_eq_getElem bound
  exact le_trans (first a _ here middle) (second _ b middle there)

theorem ordered_of_lessAt {l : List α} {i j : Nat} (less : lessAt key l i j = true) :
    Ordered key l i j := by
  intro a b here there
  simp only [lessAt, here, there, decide_eq_true_eq] at less
  exact le_of_lt less

theorem ordered_of_not_lessAt {l : List α} {i j : Nat} (notLess : lessAt key l i j = false) :
    Ordered key l j i := by
  intro a b here there
  simp only [lessAt, here, there, decide_eq_false_iff_not, not_lt] at notLess
  exact notLess

/-- The indices of the list before an exchange that the indices after it stand for. -/
def exchange (i j k : Nat) : Nat := if k = i then j else if k = j then i else k

theorem getElem?_swap {l : List α} {i j : Nat} (boundI : i < l.length) (boundJ : j < l.length)
    (k : Nat) : (swap l i j)[k]? = l[exchange i j k]? := by
  rw [swap_of_getElem? (List.getElem?_eq_getElem boundI) (List.getElem?_eq_getElem boundJ),
    exchange]
  by_cases atJ : k = j
  · subst atJ
    by_cases atI : k = i
    · subst atI
      simp [boundI]
    · simp [boundI, boundJ, atI]
  · by_cases atI : k = i
    · subst atI
      simp [boundI, boundJ, Ne.symm atJ]
    · simp [atI, atJ, Ne.symm atI, Ne.symm atJ]

theorem ordered_swap {l : List α} {i j : Nat} (boundI : i < l.length) (boundJ : j < l.length)
    (m n : Nat) :
    Ordered key (swap l i j) m n ↔ Ordered key l (exchange i j m) (exchange i j n) := by
  unfold Ordered
  simp only [getElem?_swap boundI boundJ]

/-! ### One index out of order -/

/-- Below `start` the order holds but for the edges at `pos`, and the parent of `pos` is in
order with the children of `pos`. -/
structure Hole (key : α → κ) (start : Nat) (l : List α) (pos : Nat) : Prop where
  inside : InSubtree start pos
  edges : ∀ i j, start ≤ i → Child i j → i ≠ pos → j ≠ pos → Ordered key l i j
  bridge : ∀ i j, start ≤ i → Child i pos → Child pos j → Ordered key l i j

/-- The entry at `pos` is in order with its children. -/
def Settled (key : α → κ) (l : List α) (pos : Nat) : Prop := ∀ j, Child pos j → Ordered key l pos j

variable {start pos : Nat} {l : List α}

/-- Only the entry at `start` is out of order. -/
theorem HeapFrom.hole (heap : HeapFrom key (start + 1) l) : Hole key start l start where
  inside := .root
  edges i j above child notI _ := heap i j (by omega) child
  bridge i j above child _ := absurd child.lt (Nat.not_lt.mpr above)

/-- A hole whose two sides are in order is none. -/
theorem Hole.heapFrom (hole : Hole key start l pos) (settled : Settled key l pos)
    (parent : ∀ i, start ≤ i → Child i pos → Ordered key l i pos) : HeapFrom key start l := by
  intro i j above child
  by_cases atI : i = pos
  · exact atI ▸ settled j (atI ▸ child)
  · by_cases atJ : j = pos
    · exact atJ ▸ parent i above (atJ ▸ child)
    · exact hole.edges i j above child atI atJ

/-- Exchanged with its parent, an entry that is smaller is in order with its children, and the
hole is one level up. -/
theorem Hole.siftDown_step (hole : Hole key start l pos) (bound : pos < l.length)
    (below : start < pos) (less : lessAt key l pos ((pos - 1) / 2) = true) :
    Hole key start (swap l pos ((pos - 1) / 2)) ((pos - 1) / 2) ∧
      Settled key (swap l pos ((pos - 1) / 2)) ((pos - 1) / 2) := by
  have up := hole.inside.parent below
  have childPos : Child ((pos - 1) / 2) pos := child_parent (by omega)
  generalize (pos - 1) / 2 = parent at *
  have parentBound : parent < l.length := Nat.lt_trans childPos.lt bound
  have smaller : Ordered key l pos parent := ordered_of_lessAt less
  have unique : ∀ {i}, Child i pos → i = parent := fun child => by
    rw [child.eq_parent, ← childPos.eq_parent]
  have distinct : parent ≠ pos := Nat.ne_of_lt childPos.lt
  refine ⟨⟨up, ?_, ?_⟩, ?_⟩
  · intro i j above child notI notJ
    rw [ordered_swap bound parentBound]
    have notPos : j ≠ pos := fun same => notI (unique (same ▸ child))
    rw [exchange, exchange, if_neg notPos, if_neg notJ, if_neg notI]
    by_cases atPos : i = pos
    · rw [if_pos atPos]
      exact hole.bridge parent j up.le childPos (atPos ▸ child)
    · rw [if_neg atPos]
      exact hole.edges i j above child atPos notPos
  · intro i j above child child'
    rw [ordered_swap bound parentBound]
    have notPos : i ≠ pos := Nat.ne_of_lt (Nat.lt_trans child.lt childPos.lt)
    have down : Ordered key l i parent := hole.edges i parent above child notPos distinct
    rw [exchange, exchange, if_neg notPos, if_neg (Nat.ne_of_lt child.lt)]
    by_cases atPos : j = pos
    · rw [if_pos atPos]
      exact down
    · rw [if_neg atPos, if_neg (Nat.ne_of_gt child'.lt)]
      exact down.trans parentBound (hole.edges parent j up.le child' distinct atPos)
  · intro j child
    rw [ordered_swap bound parentBound]
    rw [exchange, exchange, if_neg distinct, if_pos rfl]
    by_cases atPos : j = pos
    · rw [if_pos atPos]
      exact smaller
    · rw [if_neg atPos, if_neg (Nat.ne_of_gt child.lt)]
      exact smaller.trans parentBound (hole.edges parent j up.le child distinct atPos)

/-- Sifting down from a settled hole closes it. -/
theorem Hole.siftDown {fuel : Nat} (enough : pos ≤ fuel) (bound : pos < l.length)
    (hole : Hole key start l pos) (settled : Settled key l pos) :
    HeapFrom key start (siftDown key start fuel l pos) := by
  induction fuel generalizing l pos with
  | zero =>
    obtain rfl : pos = 0 := Nat.le_zero.mp enough
    exact hole.heapFrom settled fun i _ child => absurd child.lt (Nat.not_lt_zero i)
  | succ fuel ih =>
    unfold BinaryHeap.siftDown
    dsimp only
    split
    · rename_i moves
      obtain ⟨below, less⟩ := Bool.and_eq_true_iff.mp moves
      have below := of_decide_eq_true below
      obtain ⟨hole', settled'⟩ := hole.siftDown_step bound below less
      exact ih (by omega) (by rw [length_swap]; omega) hole' settled'
    · rename_i stays
      refine hole.heapFrom settled fun i above child => ?_
      have below : start < pos := Nat.lt_of_le_of_lt above child.lt
      simp only [below, decide_true, Bool.true_and, Bool.not_eq_true] at stays
      rw [child.eq_parent]
      exact ordered_of_not_lessAt stays

variable (key) in
/-- The smaller child is a child and in order with its sibling. -/
theorem smallerChild_spec (inner : 2 * pos + 1 < l.length) :
    Child pos (smallerChild key l pos) ∧ smallerChild key l pos < l.length ∧
      ∀ j, Child pos j → Ordered key l (smallerChild key l pos) j := by
  unfold smallerChild
  dsimp only
  have self : ∀ {i}, i < l.length → Ordered key l i i :=
    fun bound => (ordered_iff bound bound).mpr (le_refl _)
  by_cases right : (decide (2 * pos + 1 + 1 < l.length) &&
      !lessAt key l (2 * pos + 1) (2 * pos + 1 + 1)) = true
  · rw [if_pos right]
    rw [Bool.and_eq_true, Bool.not_eq_true'] at right
    obtain ⟨two, notLess⟩ := right
    have two := of_decide_eq_true two
    refine ⟨.inr rfl, two, ?_⟩
    rintro j (rfl | rfl)
    · exact ordered_of_not_lessAt notLess
    · exact self two
  · rw [if_neg right]
    refine ⟨.inl rfl, inner, ?_⟩
    rintro j (rfl | rfl)
    · exact self inner
    · by_cases two : 2 * pos + 1 + 1 < l.length
      · rw [decide_eq_true two, Bool.true_and, Bool.not_eq_true', Bool.not_eq_false] at right
        exact ordered_of_lessAt right
      · exact ordered_of_length_le (Nat.not_lt.mp two)

/-- Exchanged with its smaller child, the hole is one level down. -/
theorem Hole.descend_step (hole : Hole key start l pos) (inner : 2 * pos + 1 < l.length) :
    Hole key start (swap l pos (smallerChild key l pos)) (smallerChild key l pos) := by
  obtain ⟨childPos, bound, smallest⟩ := smallerChild_spec key inner
  generalize smallerChild key l pos = c at *
  have posBound : pos < l.length := Nat.lt_trans childPos.lt bound
  have unique : ∀ {i}, Child i c → i = pos := fun child => by
    rw [child.eq_parent, ← childPos.eq_parent]
  refine ⟨hole.inside.child childPos, ?_, ?_⟩
  · intro i j above child notI notJ
    rw [ordered_swap posBound bound, exchange, exchange, if_neg notI, if_neg notJ]
    by_cases atI : i = pos
    · have notPos : j ≠ pos := fun same => Nat.ne_of_lt child.lt (atI.trans same.symm)
      rw [if_pos atI, if_neg notPos]
      exact smallest j (atI ▸ child)
    · rw [if_neg atI]
      by_cases atJ : j = pos
      · rw [if_pos atJ]
        exact hole.bridge i c above (atJ ▸ child) childPos
      · rw [if_neg atJ]
        exact hole.edges i j above child atI atJ
  · intro i j above child child'
    obtain rfl := unique child
    have notC : j ≠ c := Nat.ne_of_gt child'.lt
    have notI : j ≠ i := Nat.ne_of_gt (Nat.lt_trans child.lt child'.lt)
    rw [ordered_swap posBound bound, exchange, exchange, if_pos rfl, if_neg notI, if_neg notC]
    exact hole.edges c j (Nat.le_trans above (Nat.le_of_lt child.lt)) child'
      (Nat.ne_of_gt child.lt) notI

/-- The loop ends with the hole at a leaf. -/
theorem Hole.descend {fuel : Nat} (enough : l.length ≤ pos + fuel) (bound : pos < l.length)
    (hole : Hole key start l pos) :
    Hole key start (descend key fuel l pos).1 (descend key fuel l pos).2 ∧
      (descend key fuel l pos).2 < l.length ∧
      l.length ≤ 2 * (descend key fuel l pos).2 + 1 := by
  induction fuel generalizing l pos with
  | zero => exact absurd bound (by omega)
  | succ fuel ih =>
    unfold BinaryHeap.descend
    split
    · rename_i inner
      obtain ⟨childPos, childBound, -⟩ := smallerChild_spec key inner
      have lower := childPos.lt
      have result := ih (by rw [length_swap]; omega) (by rwa [length_swap])
        (hole.descend_step inner)
      rwa [length_swap] at result
    · rename_i leaf
      exact ⟨hole, bound, Nat.not_lt.mp leaf⟩

/-- **Sifting up.** An entry above two heaps is sifted to its place. -/
theorem HeapFrom.siftUp (heap : HeapFrom key (start + 1) l) (bound : start < l.length) :
    HeapFrom key start (siftUp key l start) := by
  obtain ⟨hole, leafBound, leaf⟩ := heap.hole.descend (Nat.le_add_left _ start) bound
  have length := (descend_perm key l.length l start).length_eq
  refine hole.siftDown (Nat.le_refl _) (by rwa [length]) fun j child => ?_
  refine ordered_of_length_le ?_
  rw [length]
  unfold Child at child
  omega

/-! ### The operations -/

theorem HeapFrom.heapifyFrom {n : Nat} (heap : HeapFrom key n l) (bound : n ≤ l.length) :
    IsHeap key (heapifyFrom key n l) := by
  induction n generalizing l with
  | zero => exact heap
  | succ n ih =>
    refine ih (heap.siftUp bound) ?_
    rw [(siftUp_perm key l n).length_eq]
    exact Nat.le_of_succ_le bound

variable (key) in
/-- **Heapify makes a heap**, whatever the list was. -/
theorem isHeap_heapify (l : List α) : IsHeap key (heapify key l) := by
  refine HeapFrom.heapifyFrom (fun i j above child => ?_) (Nat.div_le_self _ _)
  refine ordered_of_length_le ?_
  unfold Child at child
  omega

/-- **Pushing keeps a heap.** -/
theorem IsHeap.push (heap : IsHeap key l) (x : α) : IsHeap key (push key l x) := by
  have length : (l ++ [x]).length = l.length + 1 := by simp
  have childless : ∀ {j}, Child l.length j → (l ++ [x]).length ≤ j := fun child => by
    rw [length]
    exact child.lt
  refine Hole.siftDown (Nat.le_refl _) (by omega) ⟨inSubtree_zero _, ?_, ?_⟩ ?_
  · intro i j above child notI notJ a b here there
    have boundJ : j < l.length := by
      have := (List.getElem?_eq_some_iff.mp there).1
      omega
    have boundI : i < l.length := Nat.lt_trans child.lt boundJ
    rw [List.getElem?_append_left boundI] at here
    rw [List.getElem?_append_left boundJ] at there
    exact heap i j above child a b here there
  · exact fun i j _ _ child => ordered_of_length_le (childless child)
  · exact fun j child => ordered_of_length_le (childless child)

/-- **The root of a heap is its minimum.** -/
theorem IsHeap.root_le {root : α} {rest : List α} (heap : IsHeap key (root :: rest)) :
    ∀ x ∈ rest, key root ≤ key x := by
  have all : ∀ pos, Ordered key (root :: rest) 0 pos := by
    intro pos
    induction pos using Nat.strongRecOn with
    | ind pos ih =>
      rcases Nat.eq_zero_or_pos pos with rfl | positive
      · exact (ordered_iff (by simp) (by simp)).mpr (le_refl _)
      · by_cases bound : pos < (root :: rest).length
        · exact (ih ((pos - 1) / 2) (by omega)).trans (by omega)
            (heap _ _ (Nat.zero_le _) (child_parent positive))
        · exact ordered_of_length_le (Nat.not_lt.mp bound)
  intro x mem
  obtain ⟨pos, there⟩ := List.getElem?_of_mem mem
  exact all (pos + 1) root x rfl there

/-- **Popping** returns a minimum and keeps a heap. -/
theorem IsHeap.pop {l' : List α} {x : α} (heap : IsHeap key l)
    (popped : pop key l = some (x, l')) : IsHeap key l' ∧ ∀ y ∈ l', key x ≤ key y := by
  cases l with
  | nil => cases popped
  | cons root rest =>
    have least := heap.root_le
    have entries := pop_perm key popped
    -- the entry that is returned is the root
    have front : x = root ∧ IsHeap key l' := by
      unfold BinaryHeap.pop at popped
      cases ending : (root :: rest).getLast? with
      | none => simp at ending
      | some last =>
        have split := List.dropLast_append_getLast? last ending
        cases rest with
        | nil =>
          simp only [List.getLast?_singleton, List.dropLast_singleton, Option.some.injEq,
            Prod.mk.injEq] at popped
          obtain ⟨rfl, rfl⟩ := popped
          exact ⟨rfl, fun i j _ _ => ordered_of_length_le (Nat.zero_le j)⟩
        | cons second rest =>
          rw [List.dropLast_cons_cons, List.cons_append] at split
          simp only [ending, List.dropLast_cons_cons, Option.some.injEq, Prod.mk.injEq] at popped
          obtain ⟨rfl, rfl⟩ := popped
          refine ⟨rfl, HeapFrom.siftUp (fun i j above child a b here there => ?_) (by simp)⟩
          -- below the root the entries are those of the heap
          have same : ∀ {k : Nat} {c : α}, 1 ≤ k →
              (last :: (second :: rest).dropLast)[k]? = some c →
              (root :: second :: rest)[k]? = some c := by
            intro k c positive found
            obtain ⟨k, rfl⟩ := Nat.exists_eq_add_of_le' positive
            rw [← split]
            rw [List.getElem?_cons_succ] at found ⊢
            exact List.getElem?_append_left (List.getElem?_eq_some_iff.mp found).1 ▸ found
          exact heap i j (Nat.zero_le i) child a b (same above here)
            (same (Nat.le_of_lt (Nat.lt_of_le_of_lt above child.lt)) there)
    obtain ⟨rfl, heap'⟩ := front
    exact ⟨heap', fun y mem => least y (entries.cons_inv.subset mem)⟩

end ApiObservatory.Foundation.BinaryHeap
