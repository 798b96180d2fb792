import ApiObservatory.Foundation.Json
import ApiObservatory.Time

/-
Processed events: the row of `services/ingestor/models/events.py` and the operations of
`services/ingestor/storage/events.py`.

A session keeps the objects it has loaded (`expire_on_commit` is off), and `session.get` gives
such an object without asking the database. An UPDATE sets the columns in which the object
differs from what was loaded, whatever the row holds by then. So a worker acts on a copy, and
each of load, commit and refresh is a step of its own; a row is locked from its UPDATE, or
from the claim's `FOR UPDATE`, until the commit.
-/

namespace ApiObservatory.EventStorage

open Foundation

inductive EventStatus where
  | pending | processing | completed | failed | deadLetter
deriving DecidableEq, Repr

/-- What the consumer knows of a message; no operation changes it. -/
structure KafkaRecord where
  kafkaTopic : String
  kafkaPartition : Int
  kafkaOffset : Int
  idempotencyKey : String
  eventType : String
  payload : Json
deriving DecidableEq

structure ProcessedEvent extends KafkaRecord where
  status : EventStatus := .pending
  processingAttempts : Nat := 0
  errorMessage : Option String := none
  errorDetails : Option Json := none
  deadLetterQueue : Bool := false
  dlqReason : Option String := none
  processedAt : Option Int := none
deriving DecidableEq

/-- The row that `create_processed_event` inserts. -/
def KafkaRecord.row (record : KafkaRecord) : ProcessedEvent := { record with }

/-! ### Changes of a loaded object -/

section Marks

variable (event : ProcessedEvent)

def markProcessing : ProcessedEvent :=
  { event with status := .processing, processingAttempts := event.processingAttempts + 1 }

def markCompleted (now : Int) : ProcessedEvent :=
  { event with status := .completed, processedAt := some now }

def markFailed (errorMessage : String) (errorDetails : Option Json) : ProcessedEvent :=
  { event with status := .failed, errorMessage := some errorMessage, errorDetails := errorDetails }

def markDlq (reason : String) : ProcessedEvent :=
  { event with status := .deadLetter, deadLetterQueue := true, dlqReason := some reason }

end Marks

/-- The four operations `mark_event_...`. -/
inductive Mark where
  | processing
  | completed
  | failed (errorMessage : String) (errorDetails : Option Json)
  | dlq (reason : String)
deriving DecidableEq

def Mark.apply (now : Int) (event : ProcessedEvent) : Mark → ProcessedEvent
  | .processing => markProcessing event
  | .completed => markCompleted event now
  | .failed errorMessage errorDetails => markFailed event errorMessage errorDetails
  | .dlq reason => markDlq event reason

/-- The texts fit their columns; otherwise the UPDATE is an error. -/
def Mark.fits : Mark → Bool
  | .failed errorMessage _ => decide (errorMessage.length ≤ 500)
  | .dlq reason => decide (reason.length ≤ 500)
  | _ => true

def KafkaRecord.fits (record : KafkaRecord) : Bool :=
  decide (record.kafkaTopic.length ≤ 255 ∧ record.idempotencyKey.length ≤ 255 ∧
    record.eventType.length ≤ 100)

/-- The UPDATE of the session: `stored` is the row that it finds. -/
def flush (loaded changed stored : ProcessedEvent) : ProcessedEvent :=
  { stored with
    status := columnUpdate loaded.status changed.status stored.status
    processingAttempts := columnUpdate loaded.processingAttempts changed.processingAttempts
      stored.processingAttempts
    errorMessage := columnUpdate loaded.errorMessage changed.errorMessage stored.errorMessage
    errorDetails := columnUpdate loaded.errorDetails changed.errorDetails stored.errorDetails
    deadLetterQueue := columnUpdate loaded.deadLetterQueue changed.deadLetterQueue
      stored.deadLetterQueue
    dlqReason := columnUpdate loaded.dlqReason changed.dlqReason stored.dlqReason
    processedAt := columnUpdate loaded.processedAt changed.processedAt stored.processedAt }

/-! ### The table and the sessions -/

structure State where
  /-- The committed rows; the id of a row is its index. -/
  events : List ProcessedEvent := []
  /-- The object that the session of a worker holds of an event. -/
  held : Nat → Nat → Option ProcessedEvent := fun _ _ => none

/-- The session of `worker` holds `copy` of `event`. -/
def State.hold (s : State) (worker event : Nat) (copy : Option ProcessedEvent) :
    Nat → Nat → Option ProcessedEvent :=
  fun w e => if w = worker ∧ e = event then copy else s.held w e

/-- A rollback expires what the session of `worker` holds. -/
def State.expired (s : State) (worker : Nat) : Nat → Nat → Option ProcessedEvent :=
  fun w e => if w = worker then none else s.held w e

inductive Label where
  /-- `create_processed_event` -/
  | create (worker : Nat) (record : KafkaRecord)
  /-- `session.get` -/
  | get (worker event : Nat)
  /-- The assignments and the commit of a `mark_event_...`. -/
  | mark (worker event : Nat) (mark : Mark) (now : Int)
  /-- `session.refresh` -/
  | refresh (worker event : Nat)
  /-- `claim_pending_events`, which locks the rows `claimed`; rows locked by others are
  skipped. -/
  | claim (worker batchSize : Nat) (claimed : List Nat)
  /-- The session gives an object up: it is closed or rolled back, or nothing refers to it. -/
  | expire (worker event : Nat)
deriving DecidableEq

/-- A row with this key is returned, a new one is inserted otherwise. -/
def create (s : State) (worker : Nat) (record : KafkaRecord) : State :=
  if !record.fits then { s with held := s.expired worker }
  else
    match s.events.findIdx? fun event => event.idempotencyKey == record.idempotencyKey with
    | some event =>
      let rolledBack := { s with held := s.expired worker }
      { rolledBack with held := rolledBack.hold worker event s.events[event]? }
    | none =>
      { events := s.events ++ [record.row]
        held := s.hold worker s.events.length (some record.row) }

def mark (s : State) (worker event : Nat) (mark : Mark) (now : Int) : Option State :=
  match s.held worker event, s.events[event]? with
  | some loaded, some stored =>
    if mark.fits then
      let changed := mark.apply now loaded
      some { events := s.events.set event (flush loaded changed stored)
             held := s.hold worker event (some changed) }
    else some { s with held := s.expired worker }
  | _, _ => none

/-- The object that the claim gets for a row: the one that the session holds, if there is one. -/
def State.object (s : State) (worker event : Nat) (stored : ProcessedEvent) : ProcessedEvent :=
  (s.held worker event).getD stored

def claim (s : State) (worker batchSize : Nat) (claimed : List Nat) : Option State :=
  if claimed.length ≤ batchSize ∧
      claimed.all fun event => (s.events[event]?).any fun row => row.status == .pending then
    some
      { events := s.events.mapIdx fun event stored =>
          if event ∈ claimed then
            flush (s.object worker event stored) (markProcessing (s.object worker event stored))
              stored
          else stored
        held := fun w e =>
          if w = worker ∧ e ∈ claimed then
            (s.events[e]?).map fun stored => markProcessing (s.object worker e stored)
          else s.held w e }
  else none

def next (s : State) : Label → Option State
  | .create worker record => some (create s worker record)
  | .get worker event =>
    match s.held worker event with
    | some _ => some s
    | none => some { s with held := s.hold worker event s.events[event]? }
  | .mark worker event m now => mark s worker event m now
  | .refresh worker event => some { s with held := s.hold worker event s.events[event]? }
  | .claim worker batchSize claimed => claim s worker batchSize claimed
  | .expire worker event => some { s with held := s.hold worker event none }

end ApiObservatory.EventStorage
