import ApiObservatory.Time

/-
Shared event contracts (`libs/contracts/events.py`).

The pydantic models check their fields when they are built, so a value that
breaks a bound does not exist. The checks are the `Valid` predicate of the raw
fields, the model is a structure that carries its proof, and `validate` is the
constructor: `none` stands for a `ValidationError`.
-/

namespace ApiObservatory

def eventNotificationDeliveryRequestedV1 : String := "notification.delivery_requested.v1"

def eventNotificationDeliveryDeadLetteredV1 : String := "notification.delivery_dead_lettered.v1"

def topicNotificationDeliveryRequestsV1 : String := "notifications.delivery.requests.v1"

def topicNotificationDeliveryDlqV1 : String := "notifications.delivery.dlq.v1"

inductive NotificationChannel where
  | slack | telegram | webhook | email
deriving DecidableEq, Repr

inductive NotificationTriggerType where
  | availability | latency | drift
deriving DecidableEq, Repr

inductive NotificationErrorCategory where
  | malformed | configuration | unsupported | transport | rateLimit | provider | unknown
deriving DecidableEq, Repr

/-- `Field(..., min_length=lo, max_length=hi)` on a string. -/
def LengthBetween (lo hi : Nat) (text : String) : Prop := lo ≤ text.length ∧ text.length ≤ hi

instance (lo hi : Nat) (text : String) : Decidable (LengthBetween lo hi text) := by
  unfold LengthBetween; infer_instance

/-- `Field(default=None, ge=1)`. -/
def PositiveOrNone (id : Option Nat) : Prop := ∀ n ∈ id, 1 ≤ n

instance (id : Option Nat) : Decidable (PositiveOrNone id) := by
  unfold PositiveOrNone; infer_instance

/-! ### The delivery request -/

/-- The fields of `NotificationDeliveryRequestedV1` and of its payload. -/
structure DeliveryRequestFields where
  messageId : String
  occurredAt : Int
  incidentId : Nat
  sourceId : Nat
  tenantId : Option Nat
  severity : String
  summary : String
  triggerType : NotificationTriggerType
  occurrenceCount : Nat
  guidance : String
  channels : List NotificationChannel
deriving DecidableEq, Repr

/-- The bounds of the request models, with `channels_are_unique` last. -/
def DeliveryRequestFields.Valid (f : DeliveryRequestFields) : Prop :=
  LengthBetween 1 255 f.messageId ∧ 1 ≤ f.incidentId ∧ 1 ≤ f.sourceId ∧
    PositiveOrNone f.tenantId ∧ LengthBetween 1 32 f.severity ∧
    LengthBetween 1 1024 f.summary ∧ 1 ≤ f.occurrenceCount ∧
    LengthBetween 1 2048 f.guidance ∧ 1 ≤ f.channels.length ∧ f.channels.length ≤ 4 ∧
    f.channels.Nodup

instance (f : DeliveryRequestFields) : Decidable f.Valid := by
  unfold DeliveryRequestFields.Valid; infer_instance

/-- The versioned request the notification worker consumes. -/
structure NotificationDeliveryRequestedV1 extends DeliveryRequestFields where
  valid : toDeliveryRequestFields.Valid
deriving DecidableEq

namespace NotificationDeliveryRequestedV1

def validate (f : DeliveryRequestFields) : Option NotificationDeliveryRequestedV1 :=
  if h : f.Valid then some ⟨f, h⟩ else none

/-- A request never names a channel twice. -/
theorem channels_nodup (event : NotificationDeliveryRequestedV1) : event.channels.Nodup :=
  event.valid.2.2.2.2.2.2.2.2.2.2

/-- A request names at least one channel. -/
theorem channels_ne_nil (event : NotificationDeliveryRequestedV1) : event.channels ≠ [] := by
  have len : 1 ≤ event.channels.length := event.valid.2.2.2.2.2.2.2.2.1
  intro h
  rw [h] at len
  exact absurd len (by decide)

end NotificationDeliveryRequestedV1

/-! ### The dead-letter event -/

/-- The fields of `NotificationDeliveryDeadLetteredV1` and of its payload. -/
structure DeadLetterFields where
  messageId : String
  occurredAt : Int
  deliveryId : Nat
  requestMessageId : String
  incidentId : Nat
  sourceId : Nat
  tenantId : Option Nat
  channel : NotificationChannel
  attemptCount : Nat
  errorCategory : NotificationErrorCategory
  errorCode : Option String
  firstAttemptAt : Int
  lastAttemptAt : Int
deriving DecidableEq, Repr

/-- The bounds of the dead-letter models, with `attempt_timestamps_are_ordered`
last. -/
def DeadLetterFields.Valid (f : DeadLetterFields) : Prop :=
  LengthBetween 1 255 f.messageId ∧ 1 ≤ f.deliveryId ∧ LengthBetween 1 255 f.requestMessageId ∧
    1 ≤ f.incidentId ∧ 1 ≤ f.sourceId ∧ PositiveOrNone f.tenantId ∧
    1 ≤ f.attemptCount ∧ f.attemptCount ≤ 3 ∧
    (∀ code ∈ f.errorCode, code.length ≤ 64) ∧ f.firstAttemptAt ≤ f.lastAttemptAt

instance (f : DeadLetterFields) : Decidable f.Valid := by
  unfold DeadLetterFields.Valid; infer_instance

/-- The sanitized terminal event published through the outbox. -/
structure NotificationDeliveryDeadLetteredV1 extends DeadLetterFields where
  valid : toDeadLetterFields.Valid
deriving DecidableEq

namespace NotificationDeliveryDeadLetteredV1

def validate (f : DeadLetterFields) : Option NotificationDeliveryDeadLetteredV1 :=
  if h : f.Valid then some ⟨f, h⟩ else none

theorem validate_some {f : DeadLetterFields} {event : NotificationDeliveryDeadLetteredV1}
    (h : validate f = some event) : event.toDeadLetterFields = f := by
  unfold validate at h
  split at h
  · rw [← Option.some.inj h]
  · cases h

end NotificationDeliveryDeadLetteredV1

/-- What an outbox row of the notification flow carries. The stored JSON is
the dump of one of the two event models, kept here as the model value. -/
inductive NotificationEvent where
  | deliveryRequested (event : NotificationDeliveryRequestedV1)
  | deadLettered (event : NotificationDeliveryDeadLetteredV1)
deriving DecidableEq

end ApiObservatory
