import ApiObservatory.Platform.LruObservationCache

/-
The LRU cache of observations is the list of its entries in the order of their last use:
the walk through the nodes shows that list, and every call keeps both the shape of the nodes
and the agreement.
-/

namespace ApiObservatory

open Foundation

namespace Nodes

variable {Value : Type} {nodes : Nodes Value} {node : NodeRef}

/-! ### The links of the nodes -/

def links (nodes : Nodes Value) : Links NodeRef where
  next node := (nodes node).next
  prev node := (nodes node).prev

@[simp] theorem key_setPrev (nodes : Nodes Value) (node : NodeRef) (target : Option NodeRef)
    (other : NodeRef) : (nodes.setPrev node target other).key = (nodes other).key := by
  by_cases here : other = node <;> simp [setPrev, here]

@[simp] theorem value_setPrev (nodes : Nodes Value) (node : NodeRef) (target : Option NodeRef)
    (other : NodeRef) : (nodes.setPrev node target other).value = (nodes other).value := by
  by_cases here : other = node <;> simp [setPrev, here]

@[simp] theorem key_setNext (nodes : Nodes Value) (node : NodeRef) (target : Option NodeRef)
    (other : NodeRef) : (nodes.setNext node target other).key = (nodes other).key := by
  by_cases here : other = node <;> simp [setNext, here]

@[simp] theorem value_setNext (nodes : Nodes Value) (node : NodeRef) (target : Option NodeRef)
    (other : NodeRef) : (nodes.setNext node target other).value = (nodes other).value := by
  by_cases here : other = node <;> simp [setNext, here]

@[simp] theorem key_setValue (nodes : Nodes Value) (node : NodeRef) (value : Option Value)
    (other : NodeRef) : (nodes.setValue node value other).key = (nodes other).key := by
  by_cases here : other = node <;> simp [setValue, here]

@[simp] theorem links_setPrev (nodes : Nodes Value) (node : NodeRef) (target : Option NodeRef) :
    (nodes.setPrev node target).links =
      { nodes.links with prev := Function.update nodes.links.prev node target } := by
  simp only [links, setPrev, Links.mk.injEq]
  constructor <;> funext other <;> by_cases here : other = node <;> simp [here]

@[simp] theorem links_setNext (nodes : Nodes Value) (node : NodeRef) (target : Option NodeRef) :
    (nodes.setNext node target).links =
      { nodes.links with next := Function.update nodes.links.next node target } := by
  simp only [links, setNext, Links.mk.injEq]
  constructor <;> funext other <;> by_cases here : other = node <;> simp [here]

@[simp] theorem links_setValue (nodes : Nodes Value) (node : NodeRef) (value : Option Value) :
    (nodes.setValue node value).links = nodes.links := by
  simp only [links, setValue, Links.mk.injEq]
  constructor <;> funext other <;> by_cases here : other = node <;> simp [here]

/-- The keys and the values of the nodes. -/
def pair (nodes : Nodes Value) (node : NodeRef) : Int × Option Value :=
  ((nodes node).key, (nodes node).value)

@[simp] theorem pair_remove (nodes : Nodes Value) (node : NodeRef) :
    (nodes.remove node).pair = nodes.pair := by
  funext other
  unfold remove
  cases (nodes node).prev <;> cases (nodes node).next <;> simp [pair]

@[simp] theorem pair_prepend (nodes : Nodes Value) (node : NodeRef) :
    (nodes.prepend node).pair = nodes.pair := by
  funext other
  simp only [prepend]
  split <;> simp [pair]

/-- The entry of the dictionary that refers to a node. -/
def entry (nodes : Nodes Value) (node : NodeRef) : Σ _ : Int, NodeRef := ⟨(nodes node).key, node⟩

theorem entry_eq (nodes : Nodes Value) :
    nodes.entry = fun node => ⟨(nodes.pair node).1, node⟩ := rfl

/-- A write to a node that is not in the list changes no key and no value of the list. -/
theorem map_pair_update {path : List NodeRef} (new : node ∉ path) (value : LruNode Value) :
    path.map (pair (Function.update nodes node value)) = path.map nodes.pair := by
  refine List.map_congr_left fun other mem => ?_
  simp [pair, ne_of_mem_of_not_mem mem new]

theorem map_entry_update {path : List NodeRef} (new : node ∉ path) (value : LruNode Value) :
    path.map (entry (Function.update nodes node value)) = path.map nodes.entry := by
  refine List.map_congr_left fun other mem => ?_
  simp [entry, ne_of_mem_of_not_mem mem new]

@[simp] theorem entry_remove (nodes : Nodes Value) (node : NodeRef) :
    (nodes.remove node).entry = nodes.entry := by
  rw [entry_eq, pair_remove, entry_eq]

@[simp] theorem entry_prepend (nodes : Nodes Value) (node : NodeRef) :
    (nodes.prepend node).entry = nodes.entry := by
  rw [entry_eq, pair_prepend, entry_eq]

/-- `_remove` takes a node out of the list. -/
theorem links_remove (nodes : Nodes Value) (node : NodeRef) :
    (nodes.remove node).links = nodes.links.splice node := by
  unfold remove Links.splice
  have prev_eq : nodes.links.prev node = (nodes node).prev := rfl
  have next_eq : nodes.links.next node = (nodes node).next := rfl
  rw [prev_eq, next_eq]
  cases (nodes node).prev <;> cases (nodes node).next <;> simp

/-- `_prepend` puts a node behind the sentinel. -/
theorem links_prepend (nodes : Nodes Value) (node : NodeRef) :
    (nodes.prepend node).links = nodes.links.insertAfter head node := by
  have before_eq : ((nodes.setPrev node (some head)) head).next = nodes.links.next head :=
    congrFun (congrArg Links.next (links_setPrev nodes node (some head))) head
  have next_eq : (((nodes.setPrev node (some head)).setNext node (nodes.links.next head))
      head).next = nodes.links.next head := by
    by_cases here : head = node
    · simp [setNext, here]
    · simpa [setNext, here] using before_eq
  simp only [prepend, before_eq, next_eq, Links.insertAfter]
  cases nodes.links.next head <;> simp

/-- The nodes of the list between the sentinels. -/
def ends (path : List NodeRef) : List NodeRef := head :: path ++ [tail]

variable {path before after : List NodeRef}

theorem linked_remove (linked : nodes.links.Linked (ends (before ++ node :: after))) :
    (nodes.remove node).links.Linked (ends (before ++ after)) := by
  have split : ends (before ++ node :: after) = (head :: before) ++ node :: (after ++ [tail]) := by
    simp [ends]
  rw [split] at linked
  rw [links_remove]
  simpa [ends] using linked.splice (List.cons_ne_nil _ _) (by simp)

theorem linked_prepend (linked : nodes.links.Linked (ends path)) (new : node ∉ ends path) :
    (nodes.prepend node).links.Linked (ends (node :: path)) := by
  rw [links_prepend]
  exact Links.Linked.insertAfter linked (by simp) new

/-- A node that is not in the list can be written freely. -/
theorem linked_update (linked : nodes.links.Linked (ends path)) (new : node ∉ ends path)
    (value : LruNode Value) :
    (show Nodes Value from Function.update nodes node value).links.Linked (ends path) := by
  refine ⟨Links.isChain_congr ?_ ?_ linked.chain, linked.distinct⟩
  · intro other mem
    have differs : other ≠ node := ne_of_mem_of_not_mem (List.dropLast_subset _ mem) new
    simp [links, differs]
  · intro other mem
    have differs : other ≠ node := ne_of_mem_of_not_mem (List.mem_of_mem_tail mem) new
    simp [links, differs]

/-- Taking a node out and putting it behind the sentinel moves it to the front. -/
theorem linked_promote (linked : nodes.links.Linked (ends (before ++ node :: after))) :
    ((nodes.remove node).prepend node).links.Linked (ends (node :: (before ++ after))) := by
  refine linked_prepend (linked_remove linked) ?_
  have distinct := linked.distinct
  simp only [ends, List.mem_append, List.mem_cons, List.cons_append, List.append_assoc] at distinct ⊢
  grind [List.nodup_cons, List.nodup_append]

end Nodes

namespace LruObservationCache

variable {Value : Type} {cache : LruObservationCache Value} {capacity : Nat}
  {reference : Lru Int (Option Value) capacity} {path before after : List NodeRef}
  {node : NodeRef} {key observationId : Int}

open Nodes

/-! ### The shape of the nodes -/

/-- The list between the sentinels is a path through the nodes of the dictionary. -/
structure Shaped (cache : LruObservationCache Value) (path : List NodeRef) : Prop where
  linked : cache.nodes.links.Linked (ends path)
  allocated : ∀ node ∈ ends path, node < cache.fresh
  map : cache.map.entries.Perm (path.map cache.nodes.entry)

theorem Shaped.size_eq (shaped : Shaped cache path) : cache.size = path.length := by
  rw [size, shaped.map.length_eq, List.length_map]

theorem Shaped.lookup_iff (shaped : Shaped cache path) :
    cache.map.lookup key = some node ↔ node ∈ path ∧ (cache.nodes node).key = key := by
  rw [← Option.mem_def, AList.mem_lookup_iff, shaped.map.mem_iff]
  constructor
  · intro mem
    obtain ⟨other, there, same⟩ := List.mem_map.mp mem
    cases same
    exact ⟨there, rfl⟩
  · rintro ⟨there, rfl⟩
    exact List.mem_map.mpr ⟨node, there, rfl⟩

theorem Shaped.fresh_not_mem (shaped : Shaped cache path) : cache.fresh ∉ path :=
  fun mem => lt_irrefl _ (shaped.allocated _ (by simp [ends, mem]))

/-- The keys of the nodes differ. -/
theorem Shaped.keys_nodup (shaped : Shaped cache path) :
    (path.map fun node => (cache.nodes node).key).Nodup := by
  have keys := (shaped.map.map Sigma.fst).nodup_iff.mp cache.map.nodupKeys
  rwa [List.map_map] at keys

/-- A node can be dropped from the list and the dictionary. -/
theorem Shaped.drop (shaped : Shaped cache (before ++ node :: after)) :
    Shaped { cache with
      nodes := cache.nodes.remove node
      map := cache.map.erase (cache.nodes node).key } (before ++ after) where
  linked := linked_remove shaped.linked
  allocated other mem := shaped.allocated other (by simp only [ends] at mem ⊢; grind)
  map := by
    have keys := shaped.keys_nodup
    have absent : (cache.nodes node).key ∉ (before.map cache.nodes.entry).keys := by
      simp only [List.map_append, List.map_cons, List.nodup_append] at keys
      intro mem
      simp only [List.keys, List.map_map] at mem
      exact keys.2.2 _ mem _ List.mem_cons_self rfl
    have erased := shaped.map.kerase (a := (cache.nodes node).key) cache.map.nodupKeys
    have here : List.kerase (cache.nodes node).key
        (cache.nodes.entry node :: after.map cache.nodes.entry) = after.map cache.nodes.entry :=
      List.kerase_cons_eq rfl
    rw [List.map_append, List.map_cons, List.kerase_append_right absent, here,
      ← List.map_append] at erased
    simp only [entry_remove]
    exact erased

/-- A node of the list can be moved to the front, with another value perhaps. -/
theorem Shaped.promote (shaped : Shaped cache (before ++ node :: after)) {nodes : Nodes Value}
    (links : nodes.links = cache.nodes.links) (entries : nodes.entry = cache.nodes.entry)
    (hits : Nat) :
    Shaped { cache with nodes := (nodes.remove node).prepend node, hits }
      (node :: (before ++ after)) where
  linked := linked_promote (links ▸ shaped.linked)
  allocated other mem := shaped.allocated other (by simp only [ends] at mem ⊢; grind)
  map := by
    simp only [entry_prepend, entry_remove, entries]
    exact shaped.map.trans (List.perm_middle.map _)

/-- A new node comes to the front. -/
theorem Shaped.insert (shaped : Shaped cache path) (absent : cache.map.lookup observationId = none)
    (value : Option Value) :
    Shaped { cache with
      map := cache.map.insert observationId cache.fresh
      nodes := prepend
        (Function.update cache.nodes cache.fresh { key := observationId, value }) cache.fresh
      fresh := cache.fresh + 1 } (cache.fresh :: path) where
  linked := by
    have new : cache.fresh ∉ ends path := fun mem => lt_irrefl _ (shaped.allocated _ mem)
    exact linked_prepend (linked_update shaped.linked new _) new
  allocated other mem := by
    have there : other = cache.fresh ∨ other ∈ ends path := by
      simp only [ends] at mem ⊢
      grind
    rcases there with rfl | there
    · exact Nat.lt_succ_self _
    · exact Nat.lt_succ_of_lt (shaped.allocated other there)
  map := by
    have new : observationId ∉ cache.map := AList.lookup_eq_none.mp absent
    simp only [AList.entries_insert_of_notMem new, entry_prepend, List.map_cons]
    have front : entry (Function.update cache.nodes cache.fresh { key := observationId, value })
        cache.fresh = ⟨observationId, cache.fresh⟩ := by
      simp [entry]
    rw [front, map_entry_update shaped.fresh_not_mem]
    exact shaped.map.cons _

/-- A cache without room drops the last node of the list. -/
theorem Shaped.evict_eq (shaped : Shaped cache (before ++ [node]))
    (full : cache.capacity < cache.size) :
    evict cache = some { cache with
      nodes := cache.nodes.remove node
      map := cache.map.erase (cache.nodes node).key } := by
  have linked := shaped.linked
  have last : ends (before ++ [node]) = (head :: before) ++ node :: tail :: [] := by
    simp [ends]
  rw [last] at linked
  have prev_eq : (cache.nodes tail).prev = some node := linked.joined.2
  have inner : node ≠ head := by
    rintro rfl
    simpa using linked.distinct
  have key_eq : (cache.nodes.remove node node).key = (cache.nodes node).key :=
    congrArg Prod.fst (congrFun (pair_remove cache.nodes node) node)
  have there : cache.map.lookup (cache.nodes.remove node node).key = some node :=
    shaped.lookup_iff.mpr ⟨by simp, key_eq.symm⟩
  rw [evict, if_pos full, prev_eq]
  simp only [if_neg inner, there, key_eq]

/-- At most one node is over the capacity, and it goes. -/
theorem Shaped.evict (shaped : Shaped cache path) (most : path.length ≤ cache.capacity + 1) :
    ∃ after, evict cache = some after ∧ Shaped after (path.take cache.capacity) ∧
      after.capacity = cache.capacity ∧ after.nodes.pair = cache.nodes.pair := by
  by_cases room : path.length ≤ cache.capacity
  · refine ⟨cache, if_neg ?_, ?_, rfl, rfl⟩
    · rw [shaped.size_eq]
      exact Nat.not_lt.mpr room
    · rwa [List.take_of_length_le room]
  · have whole : path ≠ [] := by
      rintro rfl
      exact room (Nat.zero_le _)
    obtain ⟨before, node, rfl⟩ := (List.eq_nil_or_concat path).resolve_left whole
    rw [List.concat_eq_append] at shaped most room ⊢
    have full : cache.capacity < cache.size := by
      rw [shaped.size_eq]
      exact Nat.not_le.mp room
    have length_eq : before.length = cache.capacity := by
      simp only [List.length_append, List.length_cons, List.length_nil] at most room
      omega
    refine ⟨_, shaped.evict_eq full, ?_, rfl, pair_remove _ _⟩
    rw [List.take_left' length_eq]
    exact List.append_nil before ▸ shaped.drop

/-! ### The entries -/

/-- The walk through the nodes shows the entries in the order of their last use. -/
structure Represents (cache : LruObservationCache Value) (path : List NodeRef)
    (reference : Lru Int (Option Value) capacity) : Prop extends Shaped cache path where
  capacity : cache.capacity = capacity
  contents : reference.entries = path.map cache.nodes.pair

theorem Represents.new (Value : Type) (capacity : Nat) :
    Represents (new capacity : LruObservationCache Value) [] (.empty : Lru Int _ capacity) where
  linked := ⟨List.isChain_cons_cons.mpr ⟨⟨rfl, rfl⟩, .singleton tail⟩, by decide⟩
  allocated := by
    show ∀ node ∈ [head, tail], node < 2
    decide
  map := .nil
  capacity := rfl
  contents := rfl

/-- A key that the dictionary holds, among the entries. -/
theorem Represents.split_of_lookup (represents : Represents cache path reference)
    (found : cache.map.lookup key = some node) :
    ∃ before after, path = before ++ node :: after ∧ (cache.nodes node).key = key ∧
      reference.entries = before.map cache.nodes.pair ++
        (key, (cache.nodes node).value) :: after.map cache.nodes.pair := by
  obtain ⟨mem, rfl⟩ := represents.lookup_iff.mp found
  obtain ⟨before, after, rfl⟩ := List.mem_iff_append.mp mem
  refine ⟨before, after, rfl, rfl, ?_⟩
  rw [represents.contents, List.map_append, List.map_cons]
  rfl

/-- A key that the dictionary lacks is under no entry. -/
theorem Represents.absent_of_lookup (represents : Represents cache path reference)
    (missing : cache.map.lookup key = none) : key ∉ reference.entries.map Prod.fst := by
  rw [represents.contents, List.map_map]
  intro mem
  obtain ⟨node, there, same⟩ := List.mem_map.mp mem
  have found : cache.map.lookup key = some node := represents.lookup_iff.mpr ⟨there, same⟩
  rw [missing] at found
  cases found

/-- Moving an entry to the front is storing it again. -/
theorem Represents.promote (represents : Represents cache (before ++ node :: after) reference)
    {nodes : Nodes Value} (links : nodes.links = cache.nodes.links)
    (entries : nodes.entry = cache.nodes.entry)
    (others : ∀ other, other ≠ node → nodes.pair other = cache.nodes.pair other) (hits : Nat) :
    Represents { cache with nodes := (nodes.remove node).prepend node, hits }
      (node :: (before ++ after))
      (reference.put (cache.nodes node).key (nodes node).value) where
  toShaped := represents.toShaped.promote links entries hits
  capacity := represents.capacity
  contents := by
    have split : reference.entries = before.map cache.nodes.pair ++
        ((cache.nodes node).key, (cache.nodes node).value) :: after.map cache.nodes.pair := by
      rw [represents.contents, List.map_append, List.map_cons]
      rfl
    have key_eq : (nodes node).key = (cache.nodes node).key :=
      congrArg Sigma.fst (congrFun entries node)
    have apart : node ∉ before ++ after := by
      have distinct := represents.linked.distinct
      simp only [ends] at distinct
      grind [List.nodup_cons, List.nodup_append]
    have rest : (before ++ after).map nodes.pair = (before ++ after).map cache.nodes.pair :=
      List.map_congr_left fun other mem => others other (ne_of_mem_of_not_mem mem apart)
    rw [Lru.put_of_split split, pair_prepend, pair_remove, List.map_cons, rest, List.map_append]
    exact congrArg (fun key => (key, (nodes node).value) :: _) key_eq.symm

/-- `get` answers as the list does, and moves the entry to the front. -/
theorem Represents.get (represents : Represents cache path reference) (observationId : Int) :
    (cache.get observationId).1 = (reference.get observationId).1.join ∧
      ∃ path, Represents (cache.get observationId).2 path (reference.get observationId).2 := by
  unfold LruObservationCache.get Lru.get
  cases found : cache.map.lookup observationId with
  | none =>
    rw [Lru.lookup_of_absent (represents.absent_of_lookup found)]
    exact ⟨rfl, path, { represents with }⟩
  | some node =>
    obtain ⟨before, after, rfl, rfl, split⟩ := represents.split_of_lookup found
    rw [Lru.lookup_of_split split]
    have value_eq : ((cache.nodes.remove node).prepend node node).value =
        (cache.nodes node).value := by
      have pair_eq : ((cache.nodes.remove node).prepend node).pair = cache.nodes.pair := by
        rw [pair_prepend, pair_remove]
      exact congrArg Prod.snd (congrFun pair_eq node)
    exact ⟨value_eq, _, represents.promote rfl rfl (fun _ _ => rfl) (cache.hits + 1)⟩

/-- `invalidate` drops the entry from both. -/
theorem Represents.invalidate (represents : Represents cache path reference)
    (observationId : Int) :
    ∃ path, Represents (cache.invalidate observationId) path
      (reference.invalidate observationId) := by
  unfold LruObservationCache.invalidate
  cases found : cache.map.lookup observationId with
  | none =>
    refine ⟨path, { represents with contents := ?_ }⟩
    rw [← represents.contents]
    exact Lru.others_of_absent (represents.absent_of_lookup found)
  | some node =>
    obtain ⟨before, after, rfl, rfl, split⟩ := represents.split_of_lookup found
    refine ⟨before ++ after, { represents.toShaped.drop with
      capacity := represents.capacity
      contents := ?_ }⟩
    rw [pair_remove, List.map_append]
    exact Lru.others_of_split split

/-- `clear` leaves the two sentinels. -/
theorem Represents.clear (represents : Represents cache path reference) :
    Represents cache.clear [] (.empty : Lru Int (Option Value) capacity) where
  linked := by
    refine ⟨List.isChain_cons_cons.mpr ⟨⟨?_, ?_⟩, .singleton tail⟩, by decide⟩
    · simp [LruObservationCache.clear]
    · simp [LruObservationCache.clear]
  allocated node mem := by
    refine represents.allocated node ?_
    simp only [ends] at mem ⊢
    grind
  map := .nil
  capacity := represents.capacity
  contents := rfl

/-- What the list of entries is after a new one. -/
theorem Represents.contents_insert (represents : Represents cache path reference)
    (missing : cache.map.lookup observationId = none) (value : Option Value) :
    (reference.put observationId value).entries =
      ((cache.fresh :: path).map (pair (prepend (Function.update cache.nodes cache.fresh
        { key := observationId, value }) cache.fresh))).take capacity := by
  rw [Lru.put_of_absent (represents.absent_of_lookup missing), pair_prepend, List.map_cons,
    map_pair_update represents.fresh_not_mem, represents.contents]
  simp [pair]

/-- `put` stores the value in both; where the dictionary would hold too much, both drop the
entry that was used last. -/
theorem Represents.put (represents : Represents cache path reference) (observationId : Int)
    (value : Option Value) :
    ∃ after path, cache.put observationId value = some after ∧
      Represents after path (reference.put observationId value) := by
  unfold LruObservationCache.put
  cases found : cache.map.lookup observationId with
  | some node =>
    obtain ⟨before, after, rfl, rfl, -⟩ := represents.split_of_lookup found
    have entries : (cache.nodes.setValue node value).entry = cache.nodes.entry := by
      funext other
      simp [entry]
    have others : ∀ other, other ≠ node →
        (cache.nodes.setValue node value).pair other = cache.nodes.pair other := by
      intro other differs
      simp [pair, setValue, differs]
    have promoted := represents.promote (links_setValue _ _ _) entries others cache.hits
    have stored : (cache.nodes.setValue node value node).value = value := by simp [setValue]
    rw [stored] at promoted
    exact ⟨_, _, rfl, promoted⟩
  | none =>
    have shaped := represents.toShaped.insert found value
    have contents := represents.contents_insert found value
    have most : (cache.fresh :: path).length ≤ cache.capacity + 1 := by
      have bounded := reference.bounded
      rw [represents.contents, List.length_map] at bounded
      rw [represents.capacity]
      exact Nat.succ_le_succ bounded
    obtain ⟨after, evicted, shaped, capacity_eq, pair_eq⟩ := shaped.evict most
    refine ⟨after, _, evicted,
      { shaped with capacity := capacity_eq.trans represents.capacity, contents := ?_ }⟩
    rw [contents, pair_eq, ← represents.capacity, List.map_take]

/-! ### Every run -/

/-- A call answers as the list does, and leaves the nodes and the list in agreement. -/
theorem Represents.perform (represents : Represents cache path reference)
    (operation : LruOperation Value) :
    ∃ after path, operation.perform cache = some ((operation.performReference reference).1, after) ∧
      Represents after path (operation.performReference reference).2 := by
  cases operation with
  | get observationId =>
    obtain ⟨answer, path, after⟩ := represents.get observationId
    exact ⟨_, path, congrArg some (Prod.ext answer rfl), after⟩
  | put observationId value =>
    obtain ⟨after, path, put_eq, stored⟩ := represents.put observationId value
    exact ⟨after, path, congrArg (Option.map _) put_eq, stored⟩
  | invalidate observationId =>
    obtain ⟨path, after⟩ := represents.invalidate observationId
    exact ⟨_, path, rfl, after⟩
  | clear => exact ⟨_, [], rfl, represents.clear⟩

theorem Represents.performAll (represents : Represents cache path reference)
    (operations : List (LruOperation Value)) :
    ∃ after path, LruOperation.performAll cache operations =
        some ((LruOperation.performAllReference reference operations).1, after) ∧
      Represents after path (LruOperation.performAllReference reference operations).2 := by
  induction operations generalizing cache path reference with
  | nil => exact ⟨cache, path, rfl, represents⟩
  | cons operation rest ih =>
    obtain ⟨middle, _, first, represents⟩ := represents.perform operation
    obtain ⟨after, path, others, represents⟩ := ih represents
    refine ⟨after, path, ?_, represents⟩
    simp only [LruOperation.performAll, first, others, LruOperation.performAllReference]

/-- The shape of the nodes: the walk from the first sentinel meets every node of the
dictionary once and ends at the other one. -/
structure Wellformed (cache : LruObservationCache Value) (path : List NodeRef) : Prop where
  walk : cache.nodes.links.walk tail (cache.size + 1) head = some path
  once : path.Nodup
  nodes : ∀ node, node ∈ path ↔ ∃ key, cache.map.lookup key = some node
  inverse : ∀ a ∈ head :: path, ∀ b ∈ path ++ [tail],
    (cache.nodes a).next = some b ↔ (cache.nodes b).prev = some a
  keys : ∀ key node, cache.map.lookup key = some node → (cache.nodes node).key = key
  size_le : cache.size ≤ cache.capacity

theorem Represents.wellformed (represents : Represents cache path reference) :
    Wellformed cache path where
  walk := represents.size_eq ▸ represents.linked.walk
  once := by
    have distinct := represents.linked.distinct
    simp only [ends] at distinct
    grind [List.nodup_cons, List.nodup_append]
  nodes node :=
    ⟨fun mem => ⟨_, represents.lookup_iff.mpr ⟨mem, rfl⟩⟩,
      fun ⟨_, found⟩ => (represents.lookup_iff.mp found).1⟩
  inverse a ha b hb := by
    refine represents.linked.next_eq_iff ?_ ?_
    · rwa [ends, List.dropLast_concat]
    · simpa [ends] using hb
  keys _ _ found := (represents.lookup_iff.mp found).2
  size_le := by
    have bounded := reference.bounded
    rw [represents.contents, List.length_map] at bounded
    rw [represents.size_eq, represents.capacity]
    exact bounded

/-- Every run on the nodes keeps their shape, raises nothing, and answers and holds what the
list in the order of the last use does. -/
theorem lru_refines (capacity : Nat) (operations : List (LruOperation Value)) :
    ∃ cache path,
      LruOperation.performAll (new capacity) operations =
        some ((LruOperation.performAllReference (.empty : Lru Int (Option Value) capacity)
          operations).1, cache) ∧
      Wellformed cache path ∧
      path.map cache.nodes.pair =
        (LruOperation.performAllReference (.empty : Lru Int (Option Value) capacity)
          operations).2.entries := by
  obtain ⟨cache, path, run, represents⟩ :=
    (Represents.new Value capacity).performAll operations
  exact ⟨cache, path, run, represents.wellformed, represents.contents.symm⟩

end LruObservationCache

end ApiObservatory
