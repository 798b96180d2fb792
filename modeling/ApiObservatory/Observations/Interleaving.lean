import ApiObservatory.Foundation.Run
import ApiObservatory.Foundation.Tasks
import ApiObservatory.Models.Observations

/-
GET, process and delete of one observation, interleaved in one process
(`services/ingestor/api/routes/observations.py` and `services/ingestor/cache.py`).

A task runs from one `await` to the next. A statement or a command takes effect on its
server at one moment, and the task goes on later; where it then does nothing that another
task could see before its next statement, one step stands for both. Row-level security is
off, and a call of Redis may fail.

`readings`, `settled`, the versions of the copies and the `since` of a GET are of the proof
only: no step looks at them.
-/

namespace ApiObservatory.ObservationCalls

open Foundation

/-- A response that a layer holds, and how many changes its row had seen. -/
structure Copy (Response : Type) where
  response : Response
  version : Nat
deriving DecidableEq

inductive Write where
  | process
  | delete
deriving DecidableEq

/-- Where a request stands. `change` is the number of the change it has committed, or zero;
`since` is the newest change whose invalidation had returned when the GET came. -/
inductive Task (Response : Type) where
  /-- The GET of Redis is under way. -/
  | lookup (since : Nat)
  /-- Redis has answered with a copy. -/
  | hit (since : Nat) (copy : Copy Response)
  /-- The SELECT is under way. -/
  | select (since : Nat)
  /-- The SETEX is under way. -/
  | setex (since : Nat) (copy : Copy Response)
  | answered (since : Nat) (answer : Option Response) (version : Nat)
  /-- `session.get` is under way. -/
  | load (write : Write)
  /-- `session.commit` is under way. -/
  | commit (write : Write) (loaded : Observation)
  /-- `session.refresh` is under way. -/
  | refresh (change : Nat)
  /-- The session is done; `invalidate_observation_all_layers` comes next. -/
  | invalidate (change : Nat)
  /-- The DEL is under way. -/
  | del (change : Nat)
  /-- The DEL is done. -/
  | returning (change : Nat)
  /-- `invalidate_observation_all_layers` has returned. -/
  | returned (change : Nat)
  /-- The writer answers 404 or fails. -/
  | refused
deriving DecidableEq

structure State (Response : Type) where
  row : Option Observation
  lru : Option (Copy Response) := none
  redis : Option (Copy Response) := none
  tasks : List (Task Response) := []
  /-- What a read of the table gave after each change, from the start on. -/
  readings : List (Option Response)
  /-- The newest change whose invalidation has returned. -/
  settled : Nat := 0
deriving DecidableEq

inductive Label where
  | get
  | write (write : Write)
  /-- The next step of a task, with the clock and whether Redis answers. -/
  | step (task : Nat) (now : Int := 0) (answers : Bool := true)
  /-- Redis drops the copy: its time has run out. -/
  | expire
  /-- The LRU cache drops the copy: it was used last. -/
  | evict
deriving DecidableEq

section Steps

variable {Response : Type} (validate : Observation → Response) (state : State Response)

/-- What `get_observation` of the repository finds. -/
def read (row : Option Observation) : Option Response :=
  (row.filter (·.deletedAt.isNone)).map validate

/-- The number of changes. -/
def State.version : Nat := state.readings.length - 1

/-- A committed change of the row. -/
def State.change (row : Option Observation) : State Response :=
  { state with row, readings := state.readings ++ [read validate row] }

/-- The first step of `get_observation`: the LRU cache. -/
def arrive : Task Response :=
  match state.lru with
  | some copy => .answered state.settled (some copy.response) copy.version
  | none => .lookup state.settled

/-- `mark_processed` has something to write. -/
def dirty (loaded : Observation) : Bool := !loaded.processed || loaded.processedAt.isNone

/-- The UPDATE of `mark_processed`: the attributes of the loaded row that it has set. -/
def processed (loaded current : Observation) (now : Int) : Observation :=
  { current with
    processed := current.processed || !loaded.processed
    processedAt := if loaded.processedAt.isNone then some now else current.processedAt
    updatedAt := some now }

/-- A step of a task, and where the task stands then. -/
def advance (now : Int) (answers : Bool) :
    Task Response → Option (State Response × Task Response)
  | .lookup since =>
      match if answers then state.redis else none with
      | some copy => some (state, .hit since copy)
      | none => some (state, .select since)
  | .hit since copy =>
      some ({ state with lru := some copy }, .answered since (some copy.response) copy.version)
  | .select since =>
      match read validate state.row with
      | none => some (state, .answered since none state.version)
      | some response => some (state, .setex since { response, version := state.version })
  | .setex since copy =>
      some ({ state with redis := if answers then some copy else state.redis },
        .answered since (some copy.response) copy.version)
  | .load write =>
      match state.row with
      | none => some (state, .refused)
      | some loaded => some (state, .commit write loaded)
  | .commit .process loaded =>
      if dirty loaded then
        match state.row with
        | none => some (state, .refused)
        | some current =>
            some (state.change validate (some (processed loaded current now)),
              .refresh state.readings.length)
      else some (state, .refresh 0)
  | .commit .delete _ =>
      match state.row with
      | none => some (state, .invalidate 0)
      | some _ => some (state.change validate none, .invalidate state.readings.length)
  | .refresh change =>
      match state.row with
      | none => some (state, .refused)
      | some _ => some (state, .invalidate change)
  | .invalidate change => some ({ state with lru := none }, .del change)
  | .del change =>
      some ({ state with redis := if answers then none else state.redis }, .returning change)
  | .returning change =>
      some ({ state with settled := max state.settled change }, .returned change)
  | .answered .. | .returned _ | .refused => none

def next : Label → Option (State Response)
  | .get => some { state with tasks := state.tasks ++ [arrive state] }
  | .write write => some { state with tasks := state.tasks ++ [.load write] }
  | .step task now answers =>
      match state.tasks[task]? with
      | none => none
      | some before =>
          match advance validate state now answers before with
          | none => none
          | some (state, after) => some { state with tasks := state.tasks.set task after }
  | .expire => some { state with redis := none }
  | .evict => some { state with lru := none }

/-- No copy and no request. -/
def start (row : Option Observation) : State Response where
  row
  readings := [read validate row]

end Steps

end ApiObservatory.ObservationCalls
