import ApiObservatory.Foundation.Rows
import ApiObservatory.Models.Events

/-
Outbox repository helpers (`services/ingestor/repositories/messaging.py`).

The functions here compute on rows: what a statement selects and what the
session's unit of work does to the loaded object. When a statement sees what,
and when a change reaches the table, is decided by the modules that run these
steps under READ COMMITTED.
-/

namespace ApiObservatory

open Foundation

variable {Payload : Type}

/-! ### Row changes -/

namespace OutboxEvent

/-- The `WHERE` clause of `claim_pending_outbox_events`. Without `event_types`
every type qualifies. -/
def claimable (eventTypes : Option (List String)) (now : Int) (event : OutboxEvent Payload) :
    Bool :=
  event.publishedAt.isNone && event.deletedAt.isNone &&
    (event.nextAttemptAt.isNone || atOrBefore event.nextAttemptAt now) &&
    (event.leaseExpiresAt.isNone || atOrBefore event.leaseExpiresAt now) &&
    (match eventTypes with
      | none => true
      | some types => types.contains event.eventType)

/-- The loop body of `claim_pending_outbox_events`. -/
def claim (token : String) (leaseSeconds now : Int) (event : OutboxEvent Payload) :
    OutboxEvent Payload :=
  { event with
    publishAttempts := event.publishAttempts + 1
    claimToken := some token
    leaseExpiresAt := some (now + seconds leaseSeconds) }

/-- The fence of the two mark functions. Without a token every row passes. -/
def fence (claimToken : Option String) (event : OutboxEvent Payload) : Bool :=
  match claimToken with
  | none => true
  | some token => event.claimToken == some token

/-- The assignments of `mark_outbox_published`. -/
def markPublished (publishedAt : Int) (event : OutboxEvent Payload) : OutboxEvent Payload :=
  { event with
    publishedAt := some publishedAt
    lastError := none
    nextAttemptAt := none
    leaseExpiresAt := none
    claimToken := none }

/-- The assignments of `mark_outbox_publish_failed`. -/
def markPublishFailed (errorMessage : String) (nextAttemptAt : Option Int)
    (event : OutboxEvent Payload) : OutboxEvent Payload :=
  { event with
    lastError := some (truncate 512 errorMessage)
    publishedAt := none
    nextAttemptAt := nextAttemptAt
    leaseExpiresAt := none
    claimToken := none }

/-- The row left by the `UPDATE` of a mark function: the columns in which
`changed` differs from the loaded object. -/
def update (loaded changed stored : OutboxEvent Payload) : OutboxEvent Payload :=
  { stored with
    publishedAt := columnUpdate loaded.publishedAt changed.publishedAt stored.publishedAt
    lastError := columnUpdate loaded.lastError changed.lastError stored.lastError
    nextAttemptAt := columnUpdate loaded.nextAttemptAt changed.nextAttemptAt stored.nextAttemptAt
    leaseExpiresAt :=
      columnUpdate loaded.leaseExpiresAt changed.leaseExpiresAt stored.leaseExpiresAt
    claimToken := columnUpdate loaded.claimToken changed.claimToken stored.claimToken }

end OutboxEvent

/-- The rows `claim_pending_outbox_events` selects. `locked` are the ids other
transactions hold. -/
def pendingOutboxEvents (outbox : Rows (OutboxEvent Payload)) (eventTypes : Option (List String))
    (limit : Nat) (now : Int) (locked : List Nat) : List (Nat × OutboxEvent Payload) :=
  (outbox.select fun id event =>
    event.claimable eventTypes now && !locked.contains id).take limit

/-! ### Insertion -/

/-- The stored event under an idempotency key. -/
def outboxByKey (outbox : Rows (OutboxEvent Payload)) (key : String) :
    Option (Nat × OutboxEvent Payload) :=
  (outbox.select fun _ event => event.idempotencyKey == key).head?

/-- `add_outbox_event`: insert unless the key is taken, and return the row that
stands under the key. The caller's transaction owns the commit. -/
def addOutboxEvent (outbox : Rows (OutboxEvent Payload)) (event : OutboxEvent Payload) :
    (Nat × OutboxEvent Payload) × Rows (OutboxEvent Payload) :=
  match outboxByKey outbox event.idempotencyKey with
  | some existing => (existing, outbox)
  | none => ((outbox.nextId, event), outbox.insert event)

theorem outboxByKey_eq_some {outbox : Rows (OutboxEvent Payload)} {key : String} {id : Nat}
    {event : OutboxEvent Payload} (found : outboxByKey outbox key = some (id, event)) :
    outbox.get id = some event ∧ event.idempotencyKey = key := by
  obtain ⟨stored, same⟩ := Rows.mem_select.mp (List.mem_of_head? found)
  exact ⟨stored, beq_iff_eq.mp same⟩

theorem outboxByKey_eq_none {outbox : Rows (OutboxEvent Payload)} {key : String} :
    outboxByKey outbox key = none ↔
      ∀ {id event}, outbox.get id = some event → event.idempotencyKey ≠ key := by
  rw [outboxByKey, List.head?_eq_none_iff]
  constructor
  · intro absent id event stored same
    have mem : (id, event) ∈ outbox.select fun _ event => event.idempotencyKey == key :=
      Rows.mem_select.mpr ⟨stored, beq_iff_eq.mpr same⟩
    rw [absent] at mem
    cases mem
  · intro free
    exact Rows.select_eq_nil fun stored same => free stored (beq_iff_eq.mp same)

/-- A stored event stays, and the key is taken from then on. -/
theorem addOutboxEvent_keeps {outbox : Rows (OutboxEvent Payload)} {new : OutboxEvent Payload}
    {id : Nat} {event : OutboxEvent Payload} (stored : outbox.get id = some event) :
    (addOutboxEvent outbox new).2.get id = some event := by
  unfold addOutboxEvent
  split
  · exact stored
  · exact Rows.get_insert_of_some stored

theorem addOutboxEvent_stored (outbox : Rows (OutboxEvent Payload)) (new : OutboxEvent Payload) :
    ∃ id event, (addOutboxEvent outbox new).2.get id = some event ∧
      event.idempotencyKey = new.idempotencyKey := by
  unfold addOutboxEvent
  split
  · rename_i existing found
    exact ⟨existing.1, existing.2, outboxByKey_eq_some found⟩
  · exact ⟨outbox.nextId, new, Rows.get_insert_self outbox new, rfl⟩

/-- An event under a free key is inserted. -/
theorem addOutboxEvent_of_free {outbox : Rows (OutboxEvent Payload)} {new : OutboxEvent Payload}
    (free : ∀ {id event}, outbox.get id = some event → event.idempotencyKey ≠ new.idempotencyKey) :
    (addOutboxEvent outbox new).2 = outbox.insert new := by
  rw [addOutboxEvent, outboxByKey_eq_none.mpr free]

end ApiObservatory
