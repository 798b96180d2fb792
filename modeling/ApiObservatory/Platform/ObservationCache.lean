import ApiObservatory.Foundation.Lru
import ApiObservatory.Time

/-
The read cache of observations (`services/ingestor/cache.py`): an LRU cache in the
process in front of Redis.

Both layers keep the response under the id of the observation alone. A call of Redis
that fails, or a client that is missing, is a flag of the request: every function fails
open.
-/

namespace ApiObservatory

open Foundation

/-- The capacity of `LruObservationCache`. -/
def lruCapacity : Nat := 256

/-- `CACHE_TTL_OBSERVATION`. -/
def cacheTtlObservation : Int := 3600

structure Caches (Response : Type) where
  lru : Lru Nat Response lruCapacity
  redis : Nat → Option (Response × Int)

/-- The calls of Redis that fail. -/
structure RedisFaults where
  get : Bool := false
  setex : Bool := false
  delete : Bool := false
deriving DecidableEq

namespace Caches

variable {Response : Type}

def empty : Caches Response where
  lru := Lru.empty
  redis _ := none

variable (caches : Caches Response) (observationId : Nat) (now : Int) (faults : RedisFaults)

/-- `get_observation`. -/
def getObservation : Option Response :=
  if faults.get then none
  else
    match caches.redis observationId with
    | none => none
    | some (response, expires) => if now < expires then some response else none

/-- `get_observation_with_lru`. -/
def getObservationWithLru : Option Response × Caches Response :=
  match caches.lru.get observationId with
  | (some response, lru) => (some response, { caches with lru })
  | (none, _) =>
      match caches.getObservation observationId now faults with
      | none => (none, caches)
      | some response =>
          (some response, { caches with lru := caches.lru.put observationId response })

/-- `set_observation`; the LRU cache is not filled. -/
def setObservation (response : Response) : Caches Response :=
  if faults.setex then caches
  else
    { caches with
      redis := Function.update caches.redis observationId
        (some (response, now + seconds cacheTtlObservation)) }

/-- `invalidate_observation_all_layers`. -/
def invalidateObservationAllLayers : Caches Response where
  lru := caches.lru.invalidate observationId
  redis := if faults.delete then caches.redis else Function.update caches.redis observationId none

/-- What a read finds in the two layers. -/
def found : Option Response :=
  (caches.lru.lookup observationId).or (caches.getObservation observationId now faults)

variable {caches observationId now faults}

/-- A hit in Redis is an entry that is there. -/
theorem getObservation_eq_some {response : Response}
    (hit : caches.getObservation observationId now faults = some response) :
    ∃ expires, caches.redis observationId = some (response, expires) := by
  unfold getObservation at hit
  split at hit
  · cases hit
  · cases entry : caches.redis observationId with
    | none => rw [entry] at hit; cases hit
    | some stored =>
      obtain ⟨kept, expires⟩ := stored
      rw [entry] at hit
      simp only at hit
      split at hit
      · exact ⟨expires, by rw [Option.some.inj hit]⟩
      · cases hit

theorem getObservationWithLru_fst :
    (caches.getObservationWithLru observationId now faults).1 =
      caches.found observationId now faults := by
  unfold getObservationWithLru found
  rw [← caches.lru.get_fst]
  cases caches.lru.get observationId with
  | mk answer lru =>
    cases answer with
    | some response => rfl
    | none => cases caches.getObservation observationId now faults <;> rfl

end Caches

end ApiObservatory
