import ApiObservatory.Contracts.Events

/-
Inbox, delivery and outbox rows (`services/ingestor/models/events.py`).

The primary key is not a field: a row is stored under its id
(`Foundation.Rows`). `created_at` and `updated_at` are left out, since no
modelled statement reads them.
-/

namespace ApiObservatory

inductive InboxStatus where
  | processing | completed | completedWithDeadLetters | deadLetter
deriving DecidableEq, Repr

/-- Membership in `_INBOX_TERMINAL_STATUSES`. -/
def InboxStatus.terminal : InboxStatus → Bool
  | .processing => false
  | .completed => true
  | .completedWithDeadLetters => true
  | .deadLetter => true

inductive DeliveryStatus where
  | pending | processing | retryScheduled | delivered | deadLetter
deriving DecidableEq, Repr

/-- Membership in `_DELIVERY_TERMINAL_STATUSES`. -/
def DeliveryStatus.terminal : DeliveryStatus → Bool
  | .pending => false
  | .processing => false
  | .retryScheduled => false
  | .delivered => true
  | .deadLetter => true

/-- Inbox deduplication row, keyed by `(consumer_name, message_id)`. -/
structure InboxConsumption where
  consumerName : String
  messageId : String
  eventType : String
  payload : NotificationDeliveryRequestedV1
  status : InboxStatus
  leaseExpiresAt : Option Int
  processedAt : Option Int
  lastErrorCategory : Option NotificationErrorCategory
  lastErrorCode : Option String
  lastErrorDetail : Option String
deriving DecidableEq

/-- Per-channel delivery, retry and terminal outcome state. -/
structure NotificationDelivery where
  inboxConsumptionId : Nat
  messageId : String
  incidentId : Nat
  sourceId : Nat
  tenantId : Option Nat
  eventType : String
  severity : String
  channel : NotificationChannel
  status : DeliveryStatus
  attemptCount : Nat
  nextAttemptAt : Option Int := none
  leaseExpiresAt : Option Int := none
  claimToken : Option String := none
  firstAttemptAt : Option Int := none
  lastAttemptAt : Option Int := none
  deliveredAt : Option Int := none
  deadLetteredAt : Option Int := none
  providerReference : Option String := none
  lastErrorCategory : Option NotificationErrorCategory := none
  lastErrorCode : Option String := none
  lastErrorDetail : Option String := none
  deletedAt : Option Int := none
deriving DecidableEq, Repr

/-- Transactional outbox row. The column defaults are those of the model. -/
structure OutboxEvent (Payload : Type) where
  aggregateType : String
  aggregateId : String
  eventType : String
  payload : Payload
  idempotencyKey : String
  tenantId : Option Nat
  publishedAt : Option Int := none
  publishAttempts : Nat := 0
  lastError : Option String := none
  nextAttemptAt : Option Int := none
  leaseExpiresAt : Option Int := none
  claimToken : Option String := none
  deletedAt : Option Int := none
deriving DecidableEq

end ApiObservatory
