import ApiObservatory.Foundation.DoublyLinked
import ApiObservatory.Foundation.Lru
import Mathlib.Data.List.AList

/-
The LRU cache of observations as it is built (`services/ingestor/cache.py`): a dictionary of
nodes and a doubly linked list through them, between two sentinels.

The nodes are objects that the dictionary and the list refer to. A new node gets the next
address; what a dropped node still holds is kept, as the object would keep it.
-/

namespace ApiObservatory

open Foundation

/-- A reference to an `_LruNode`. -/
abbrev NodeRef := Nat

/-- `_LruNode`. A missing value is `None`. -/
structure LruNode (Value : Type) where
  key : Int
  value : Option Value
  prev : Option NodeRef := none
  next : Option NodeRef := none

/-- The objects that the references stand for. -/
abbrev Nodes (Value : Type) := NodeRef → LruNode Value

namespace Nodes

variable {Value : Type} (nodes : Nodes Value) (node : NodeRef)

/-- `node.prev = …`. -/
def setPrev (target : Option NodeRef) : Nodes Value :=
  Function.update nodes node { nodes node with prev := target }

/-- `node.next = …`. -/
def setNext (target : Option NodeRef) : Nodes Value :=
  Function.update nodes node { nodes node with next := target }

/-- `node.value = …`. -/
def setValue (value : Option Value) : Nodes Value :=
  Function.update nodes node { nodes node with value }

/-- The sentinel `_head`. -/
def head : NodeRef := 0

/-- The sentinel `_tail`. -/
def tail : NodeRef := 1

/-- `_remove`. -/
def remove : Nodes Value :=
  let prev := (nodes node).prev
  let nxt := (nodes node).next
  let nodes :=
    match prev with
    | some prev => nodes.setNext prev nxt
    | none => nodes
  match nxt with
  | some nxt => nodes.setPrev nxt prev
  | none => nodes

/-- `_prepend`. -/
def prepend : Nodes Value :=
  let nodes := nodes.setPrev node (some head)
  let nodes := nodes.setNext node (nodes head).next
  let nodes :=
    match (nodes head).next with
    | some first => nodes.setPrev first (some node)
    | none => nodes
  nodes.setNext head (some node)

end Nodes

structure LruObservationCache (Value : Type) where
  capacity : Nat
  map : AList fun _ : Int => NodeRef
  nodes : Nodes Value
  /-- The address of the next node. -/
  fresh : NodeRef
  hits : Nat
  misses : Nat

namespace LruObservationCache

variable {Value : Type}

open Nodes

/-- `__init__`. -/
def new (capacity : Nat) : LruObservationCache Value where
  capacity
  map := ∅
  nodes node :=
    if node = head then { key := -1, value := none, next := some tail }
    else { key := -2, value := none, prev := some head }
  fresh := 2
  hits := 0
  misses := 0

variable (cache : LruObservationCache Value) (observationId : Int)

/-- `size`. -/
def size : Nat := cache.map.entries.length

def get : Option Value × LruObservationCache Value :=
  match cache.map.lookup observationId with
  | none => (none, { cache with misses := cache.misses + 1 })
  | some node =>
      let nodes := (cache.nodes.remove node).prepend node
      ((nodes node).value, { cache with nodes, hits := cache.hits + 1 })

/-- The end of `put`, where the entry that was used last is dropped. Deleting a key that the
dictionary lacks raises a `KeyError`. -/
def evict : Option (LruObservationCache Value) :=
  if cache.size > cache.capacity then
    match (cache.nodes tail).prev with
    | none => some cache
    | some lru =>
        if lru = head then some cache
        else
          let nodes := cache.nodes.remove lru
          match cache.map.lookup (nodes lru).key with
          | none => none
          | some _ => some { cache with nodes, map := cache.map.erase (nodes lru).key }
  else some cache

def put (value : Option Value) : Option (LruObservationCache Value) :=
  match cache.map.lookup observationId with
  | some node =>
      some { cache with nodes := ((cache.nodes.setValue node value).remove node).prepend node }
  | none =>
      let node := cache.fresh
      let nodes : Nodes Value := Function.update cache.nodes node { key := observationId, value }
      evict
        { cache with
          map := cache.map.insert observationId node
          nodes := nodes.prepend node
          fresh := cache.fresh + 1 }

def invalidate : LruObservationCache Value :=
  match cache.map.lookup observationId with
  | none => cache
  | some node =>
      { cache with map := cache.map.erase observationId, nodes := cache.nodes.remove node }

def clear : LruObservationCache Value :=
  { cache with
    map := ∅
    nodes := (cache.nodes.setNext head (some tail)).setPrev tail (some head)
    hits := 0
    misses := 0 }

end LruObservationCache

/-! ### Runs -/

inductive LruOperation (Value : Type) where
  | get (observationId : Int)
  | put (observationId : Int) (value : Option Value)
  | invalidate (observationId : Int)
  | clear

namespace LruOperation

variable {Value : Type} {capacity : Nat}

/-- What a call returns, and the cache after it; nothing if the call raises. -/
def perform (cache : LruObservationCache Value) :
    LruOperation Value → Option (Option Value × LruObservationCache Value)
  | .get observationId => some (cache.get observationId)
  | .put observationId value => (cache.put observationId value).map (none, ·)
  | .invalidate observationId => some (none, cache.invalidate observationId)
  | .clear => some (none, cache.clear)

def performAll (cache : LruObservationCache Value) :
    List (LruOperation Value) → Option (List (Option Value) × LruObservationCache Value)
  | [] => some ([], cache)
  | operation :: rest =>
      match operation.perform cache with
      | none => none
      | some (result, cache) =>
          match performAll cache rest with
          | none => none
          | some (results, cache) => some (result :: results, cache)

/-- The same on the entries in the order of their last use. -/
def performReference (cache : Lru Int (Option Value) capacity) :
    LruOperation Value → Option Value × Lru Int (Option Value) capacity
  | .get observationId => ((cache.get observationId).1.join, (cache.get observationId).2)
  | .put observationId value => (none, cache.put observationId value)
  | .invalidate observationId => (none, cache.invalidate observationId)
  | .clear => (none, .empty)

def performAllReference (cache : Lru Int (Option Value) capacity) :
    List (LruOperation Value) → List (Option Value) × Lru Int (Option Value) capacity
  | [] => ([], cache)
  | operation :: rest =>
      let (result, cache) := operation.performReference cache
      let (results, cache) := performAllReference cache rest
      (result :: results, cache)

end LruOperation

end ApiObservatory
