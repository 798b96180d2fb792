import ApiObservatory.Foundation.Noninterference
import ApiObservatory.Platform.ObservationCache
import ApiObservatory.Repositories.Observations

/-
The observation routes (`services/ingestor/api/routes/observations.py`) that read one
observation or write some, with row-level security and the read cache.

A request carries the context of its caller, the clock and the calls of Redis that
fail; its caller has passed the guards. `validate` stands for
`ObservationResponse.model_validate`.
-/

namespace ApiObservatory.Observations

open Foundation

inductive Action where
  | create (requests : List ObservationRequest)
  | get (observationId : Nat)
  | update (observationId : Nat) (request : UpdateObservationRequest)
  | process (observationId : Nat)
  | archive (observationId : Nat)
  | delete (observationId : Nat)
deriving DecidableEq

structure Request where
  tenantId : Option Int
  userRole : Option String := some "user"
  now : Int := 0
  faults : RedisFaults := {}
  action : Action
deriving DecidableEq

/-- The session `get_db` opens, with `rls_enabled`. -/
def Request.session (request : Request) : Session where
  tenantId := request.tenantId
  userRole := request.userRole
  rlsEnabled := true

structure State (Response : Type) where
  db : ObservationDb
  caches : Caches Response

inductive Answer (Response : Type) where
  | ok (response : Response)
  | created
  | noContent
  | notFound
  | failed (error : ObservationError)
deriving DecidableEq

section Routes

variable {Response : Type} (validate : Nat → Observation → Response) (state : State Response)
  (session : Session) (observationId : Nat) (now : Int) (faults : RedisFaults)

/-- `create_observation_endpoint` and `create_observations_batch_endpoint`. -/
def createObservationEndpoint (requests : List ObservationRequest) :
    State Response × Answer Response :=
  let (db, result) := createObservations session state.db requests now
  match result with
  | .ok () => ({ state with db }, .created)
  | .error error => ({ state with db }, .failed error)

/-- `get_observation`. -/
def getObservationEndpoint : State Response × Answer Response :=
  match state.caches.getObservationWithLru observationId now faults with
  | (some response, caches) => ({ state with caches }, .ok response)
  | (none, caches) =>
      match getObservation session state.db observationId with
      | none => ({ state with caches }, .notFound)
      | some row =>
          let response := validate observationId row
          ({ state with caches := caches.setObservation observationId now faults response },
            .ok response)

/-- `update_observation_endpoint`. -/
def updateObservationEndpoint (request : UpdateObservationRequest) :
    State Response × Answer Response :=
  match updateObservation session state.db observationId request now with
  | .error error => (state, .failed error)
  | .ok (db, none) => ({ state with db }, .notFound)
  | .ok (db, some row) => ({ state with db }, .ok (validate observationId row))

/-- `process_observation`. -/
def processObservation : State Response × Answer Response :=
  match markProcessed session state.db observationId now with
  | (db, none) => ({ state with db }, .notFound)
  | (db, some row) =>
      ({ db, caches := state.caches.invalidateObservationAllLayers observationId faults },
        .ok (validate observationId row))

/-- `archive_observation`. -/
def archiveObservation : State Response × Answer Response :=
  match softDeleteObservation session state.db observationId now with
  | (db, none) => ({ state with db }, .notFound)
  | (db, some row) => ({ state with db }, .ok (validate observationId row))

/-- `delete_observation`. -/
def deleteObservationEndpoint : State Response × Answer Response :=
  match deleteObservation session state.db observationId with
  | (db, none) => ({ state with db }, .notFound)
  | (db, some _) =>
      ({ db, caches := state.caches.invalidateObservationAllLayers observationId faults },
        .noContent)

end Routes

/-- One request. -/
def handle {Response : Type} (validate : Nat → Observation → Response) (state : State Response)
    (request : Request) : State Response × Answer Response :=
  match request.action with
  | .create requests =>
      createObservationEndpoint state request.session request.now requests
  | .get observationId =>
      getObservationEndpoint validate state request.session observationId request.now request.faults
  | .update observationId patch =>
      updateObservationEndpoint validate state request.session observationId request.now patch
  | .process observationId =>
      processObservation validate state request.session observationId request.now request.faults
  | .archive observationId =>
      archiveObservation validate state request.session observationId request.now
  | .delete observationId =>
      deleteObservationEndpoint state request.session observationId request.faults

end ApiObservatory.Observations
