import Mathlib.Data.List.Chain
import Mathlib.Data.List.Nodup
import Mathlib.Logic.Function.Basic

/-
Doubly linked lists over addresses.

A list is a path through the links on which every node and its successor point at each
other. Taking an inner node out and putting a node behind the first one keep the path.
-/

namespace ApiObservatory.Foundation

universe u

/-- What the two pointers of every node hold. -/
structure Links (Address : Type u) where
  next : Address → Option Address
  prev : Address → Option Address

variable {Address : Type u} {links changed : Links Address} {a b node first last : Address}
  {path before after : List Address}

namespace Links

/-- Two nodes that point at each other. -/
def Joined (links : Links Address) (a b : Address) : Prop :=
  links.next a = some b ∧ links.prev b = some a

/-- A path of distinct nodes, each joined with the next one. -/
structure Linked (links : Links Address) (path : List Address) : Prop where
  chain : path.IsChain links.Joined
  distinct : path.Nodup

/-- A path is as it was where the pointers along it are. -/
theorem isChain_congr (next : ∀ a ∈ path.dropLast, changed.next a = links.next a)
    (prev : ∀ b ∈ path.tail, changed.prev b = links.prev b)
    (chain : path.IsChain links.Joined) : path.IsChain changed.Joined := by
  induction path with
  | nil => exact .nil
  | cons a rest ih =>
    cases rest with
    | nil => exact .singleton a
    | cons b rest =>
      obtain ⟨joined, chain⟩ := List.isChain_cons_cons.mp chain
      refine List.isChain_cons_cons.mpr ⟨⟨?_, ?_⟩, ih ?_ ?_ chain⟩
      · rw [next a (by simp), joined.1]
      · rw [prev b (by simp), joined.2]
      · exact fun c mem => next c (by simp [mem])
      · exact fun c mem => prev c (by simp [List.mem_of_mem_tail mem])

/-- Neighbours on a path point at each other. -/
theorem Linked.joined (linked : links.Linked (before ++ a :: b :: after)) : links.Joined a b :=
  (List.isChain_append_cons_cons.mp linked.chain).2.1

theorem Linked.joined_head (linked : links.Linked (a :: b :: after)) : links.Joined a b :=
  (List.isChain_cons_cons.mp linked.chain).1

/-- Every node but the last has a successor. -/
theorem Linked.successor (linked : links.Linked path) (mem : a ∈ path.dropLast) :
    ∃ b ∈ path.tail, links.Joined a b := by
  obtain ⟨before, after, split⟩ := List.mem_iff_append.mp mem
  have whole : path ≠ [] := by
    rintro rfl
    simp at mem
  have path_eq := List.dropLast_append_getLast whole
  rw [split, List.append_assoc, List.cons_append] at path_eq
  cases rest : after ++ [path.getLast whole] with
  | nil => simp at rest
  | cons b later =>
    rw [rest] at path_eq
    rw [← path_eq] at linked
    refine ⟨b, ?_, linked.joined⟩
    rw [← path_eq]
    cases before <;> simp

/-- Every node but the first has a predecessor. -/
theorem Linked.predecessor (linked : links.Linked path) (mem : b ∈ path.tail) :
    ∃ a ∈ path.dropLast, links.Joined a b := by
  cases path with
  | nil => cases mem
  | cons first rest =>
    obtain ⟨before, after, split⟩ := List.mem_iff_append.mp mem
    simp only [List.tail_cons] at split
    subst split
    rcases List.eq_nil_or_concat (first :: before) with none | ⟨earlier, a, some⟩
    · cases none
    · have path_eq : first :: (before ++ b :: after) = earlier ++ a :: b :: after := by
        rw [← List.cons_append, some]
        simp
      rw [path_eq] at linked
      refine ⟨a, ?_, linked.joined⟩
      rw [path_eq]
      simp [List.dropLast_append_of_ne_nil]

/-- Along a path `prev` is the inverse of `next`. -/
theorem Linked.next_eq_iff (linked : links.Linked path) (ha : a ∈ path.dropLast)
    (hb : b ∈ path.tail) : links.next a = some b ↔ links.prev b = some a := by
  constructor
  · intro points
    obtain ⟨c, -, joined⟩ := linked.successor ha
    cases joined.1.symm.trans points
    exact joined.2
  · intro points
    obtain ⟨c, -, joined⟩ := linked.predecessor hb
    cases joined.2.symm.trans points
    exact joined.1

/-! ### Following the pointers -/

variable [DecidableEq Address]

/-- The nodes behind a node up to `last`, if that is reached within some steps. -/
def walk (links : Links Address) (last : Address) : Nat → Address → Option (List Address)
  | 0, _ => none
  | steps + 1, node =>
      match links.next node with
      | none => none
      | some after => if after = last then some [] else (links.walk last steps after).map (after :: ·)

/-- A walk along a path meets its inner nodes, in order. -/
theorem Linked.walk (linked : links.Linked (first :: path ++ [last])) :
    links.walk last (path.length + 1) first = some path := by
  induction path generalizing first with
  | nil =>
    have joined : links.Joined first last := linked.joined_head
    simp [Links.walk, joined.1]
  | cons node rest ih =>
    have joined : links.Joined first node := linked.joined_head
    have behind : links.Linked (node :: rest ++ [last]) :=
      ⟨(List.isChain_cons_cons.mp linked.chain).2, (List.nodup_cons.mp linked.distinct).2⟩
    have differs : node ≠ last := by
      rintro rfl
      simpa using (List.nodup_cons.mp behind.distinct).1
    rw [List.length_cons, Links.walk, joined.1]
    simp only [if_neg differs, ih behind, Option.map_some]

/-! ### Taking a node out -/

/-- The neighbours of a node are made to point at each other. -/
def splice (links : Links Address) (node : Address) : Links Address where
  next :=
    match links.prev node with
    | none => links.next
    | some a => Function.update links.next a (links.next node)
  prev :=
    match links.next node with
    | none => links.prev
    | some b => Function.update links.prev b (links.prev node)

theorem Linked.splice_between (linked : links.Linked (before ++ a :: node :: b :: after)) :
    (links.splice node).Linked (before ++ a :: b :: after) := by
  obtain ⟨left, into, right⟩ := List.isChain_append_cons_cons.mp linked.chain
  obtain ⟨out, right⟩ := List.isChain_cons_cons.mp right
  have next_eq : (links.splice node).next = Function.update links.next a (some b) := by
    simp [Links.splice, into.2, out.1]
  have prev_eq : (links.splice node).prev = Function.update links.prev b (some a) := by
    simp [Links.splice, into.2, out.1]
  have distinct : (before ++ a :: b :: after).Nodup := linked.distinct.sublist (by simp)
  obtain ⟨a_before, a_after, b_before, b_after⟩ :
      a ∉ before ∧ a ∉ b :: after ∧ b ∉ before ++ [a] ∧ b ∉ after := by
    grind [List.nodup_append, List.nodup_cons]
  refine ⟨List.isChain_append_cons_cons.mpr ⟨isChain_congr ?_ ?_ left, ?_,
    isChain_congr ?_ ?_ right⟩, distinct⟩
  · intro c mem
    rw [List.dropLast_concat] at mem
    rw [next_eq, Function.update_of_ne (ne_of_mem_of_not_mem mem a_before)]
  · intro c mem
    rw [prev_eq, Function.update_of_ne (ne_of_mem_of_not_mem (List.mem_of_mem_tail mem) b_before)]
  · simp [Joined, next_eq, prev_eq]
  · intro c mem
    rw [next_eq, Function.update_of_ne
      (ne_of_mem_of_not_mem (List.dropLast_subset _ mem) a_after)]
  · intro c mem
    rw [prev_eq, Function.update_of_ne (ne_of_mem_of_not_mem mem b_after)]

theorem Linked.splice (linked : links.Linked (before ++ node :: after)) (left : before ≠ [])
    (right : after ≠ []) : (links.splice node).Linked (before ++ after) := by
  obtain ⟨earlier, a, rfl⟩ := (List.eq_nil_or_concat before).resolve_left left
  obtain ⟨b, later, rfl⟩ := List.exists_cons_of_ne_nil right
  rw [List.concat_eq_append, List.append_assoc] at linked ⊢
  exact linked.splice_between

/-! ### Putting a node in -/

/-- A node is put behind another one. -/
def insertAfter (links : Links Address) (first node : Address) : Links Address where
  next := Function.update (Function.update links.next node (links.next first)) first (some node)
  prev :=
    match links.next first with
    | none => Function.update links.prev node (some first)
    | some b => Function.update (Function.update links.prev node (some first)) b (some node)

theorem Linked.insertAfter (linked : links.Linked (first :: path)) (inner : path ≠ [])
    (new : node ∉ first :: path) :
    (links.insertAfter first node).Linked (first :: node :: path) := by
  obtain ⟨b, after, rfl⟩ := List.exists_cons_of_ne_nil inner
  obtain ⟨joined, right⟩ := List.isChain_cons_cons.mp linked.chain
  have next_eq : (links.insertAfter first node).next =
      Function.update (Function.update links.next node (some b)) first (some node) := by
    simp [Links.insertAfter, joined.1]
  have prev_eq : (links.insertAfter first node).prev =
      Function.update (Function.update links.prev node (some first)) b (some node) := by
    simp [Links.insertAfter, joined.1]
  have distinct : (first :: node :: b :: after).Nodup := by
    grind [List.nodup_cons, linked.distinct]
  obtain ⟨node_first, node_b, first_after, node_after, b_after⟩ :
      node ≠ first ∧ node ≠ b ∧ first ∉ b :: after ∧ node ∉ b :: after ∧ b ∉ after := by
    grind [List.nodup_cons]
  refine ⟨List.isChain_cons_cons.mpr ⟨?_, List.isChain_cons_cons.mpr ⟨?_,
    isChain_congr ?_ ?_ right⟩⟩, distinct⟩
  · simp [Joined, next_eq, prev_eq, node_b]
  · simp [Joined, next_eq, prev_eq, node_first]
  · intro c mem
    have mem := List.dropLast_subset _ mem
    rw [next_eq, Function.update_of_ne (ne_of_mem_of_not_mem mem first_after),
      Function.update_of_ne (ne_of_mem_of_not_mem mem node_after)]
  · intro c mem
    rw [prev_eq, Function.update_of_ne (ne_of_mem_of_not_mem mem b_after),
      Function.update_of_ne (ne_of_mem_of_not_mem (List.mem_cons_of_mem b mem) node_after)]

end Links

end ApiObservatory.Foundation
