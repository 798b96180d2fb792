import ApiObservatory.Repositories.Messaging

/-
Inbox and per-channel delivery transitions
(`services/ingestor/repositories/notification_delivery.py`).

Each repository function is one transaction: it returns the database it
commits, or the error it raises, in which case the session is discarded and
nothing is committed. The row changes have names of their own
(`NotificationDelivery.claim`, `.markDelivered`, …), because the
statement-level model of the same functions applies the same changes.
-/

namespace ApiObservatory

open Foundation

def consumerName : String := "notification-delivery-v1"

def maxDeliveryAttempts : Nat := 3

/-- What a repository function raises. -/
inductive RepositoryError where
  | runtimeError (message : String)
  | valueError (message : String)
  | validationError
deriving DecidableEq, Repr

/-- The three tables of the notification flow. -/
structure Db where
  inbox : Rows InboxConsumption
  deliveries : Rows NotificationDelivery
  outbox : Rows (OutboxEvent NotificationEvent)

/-! ### Row changes -/

namespace NotificationDelivery

def clearDeliveryClaim (d : NotificationDelivery) : NotificationDelivery :=
  { d with claimToken := none, leaseExpiresAt := none }

def clearDeliveryError (d : NotificationDelivery) : NotificationDelivery :=
  { d with lastErrorCategory := none, lastErrorCode := none, lastErrorDetail := none }

def setDeliveryError (category : NotificationErrorCategory) (code : Option String)
    (detail : String) (d : NotificationDelivery) : NotificationDelivery :=
  { d with
    lastErrorCategory := some category
    lastErrorCode := code.map (truncate 64)
    lastErrorDetail := some (truncate 512 detail) }

/-- `due_unclaimed_work` of `claim_due_deliveries`. -/
def dueUnclaimedWork (now : Int) (d : NotificationDelivery) : Bool :=
  decide (d.attemptCount < maxDeliveryAttempts) &&
    (d.status == .pending || (d.status == .retryScheduled && atOrBefore d.nextAttemptAt now)) &&
    (d.leaseExpiresAt.isNone || atOrBefore d.leaseExpiresAt now)

/-- `abandoned_work` of `claim_due_deliveries`. -/
def abandonedWork (now : Int) (d : NotificationDelivery) : Bool :=
  d.status == .processing && atOrBefore d.leaseExpiresAt now

/-- The `WHERE` clause of `claim_due_deliveries`. -/
def claimable (now : Int) (d : NotificationDelivery) : Bool :=
  d.deletedAt.isNone && (d.dueUnclaimedWork now || d.abandonedWork now)

/-- The loop body of `claim_due_deliveries`. An abandoned attempt is taken over
without counting again. -/
def claim (token : String) (leaseSeconds : Int) (now : Int) (d : NotificationDelivery) :
    NotificationDelivery :=
  { d with
    status := .processing
    attemptCount := if d.status == .processing then d.attemptCount else d.attemptCount + 1
    claimToken := some token
    leaseExpiresAt := some (now + seconds leaseSeconds)
    nextAttemptAt := none
    firstAttemptAt := some (d.firstAttemptAt.getD now)
    lastAttemptAt := some now }

/-- The `WHERE` clause of `_get_claimed_delivery`. -/
def claimedBy (token : String) (d : NotificationDelivery) : Bool :=
  d.status == .processing && d.claimToken == some token

def markDelivered (providerReference : Option String) (now : Int) (d : NotificationDelivery) :
    NotificationDelivery :=
  { d with
    status := .delivered
    deliveredAt := some now
    nextAttemptAt := none
    providerReference := providerReference.map (truncate 255) }
  |>.clearDeliveryClaim |>.clearDeliveryError

def scheduleRetry (nextAttemptAt : Int) (category : NotificationErrorCategory)
    (code : Option String) (detail : String) (d : NotificationDelivery) : NotificationDelivery :=
  { d with status := .retryScheduled, nextAttemptAt := some nextAttemptAt }
  |>.clearDeliveryClaim |>.setDeliveryError category code detail

def deadLetter (category : NotificationErrorCategory) (code : Option String) (detail : String)
    (now : Int) (d : NotificationDelivery) : NotificationDelivery :=
  { d with
    status := .deadLetter
    deadLetteredAt := some now
    nextAttemptAt := none
    firstAttemptAt := some (d.firstAttemptAt.getD now)
    lastAttemptAt := some (d.lastAttemptAt.getD now) }
  |>.clearDeliveryClaim |>.setDeliveryError category code detail

end NotificationDelivery

/-- The row change at the end of `_refresh_inbox_status`, from the statuses of
the inbox row's live deliveries. -/
def InboxConsumption.refreshed (statuses : List DeliveryStatus) (now : Int)
    (inbox : InboxConsumption) : InboxConsumption :=
  if statuses.isEmpty || !statuses.all DeliveryStatus.terminal then
    { inbox with status := .processing }
  else
    { inbox with
      status :=
        if statuses.all (· == .delivered) then .completed
        else if statuses.all (· == .deadLetter) then .deadLetter
        else .completedWithDeadLetters
      leaseExpiresAt := none
      processedAt := some now }

/-! ### The dead-letter event -/

def dlqMessageId (deliveryId : Nat) : String := s!"notification-delivery-dlq:{deliveryId}"

/-- Different deliveries have different dead-letter keys. -/
theorem dlqMessageId_inj {a b : Nat} (h : dlqMessageId a = dlqMessageId b) : a = b := by
  have keys : "notification-delivery-dlq:" ++ Nat.repr a =
      "notification-delivery-dlq:" ++ Nat.repr b := h
  have digits : Nat.toDigits 10 a = Nat.toDigits 10 b := by
    rw [← Nat.toList_repr, ← Nat.toList_repr, (String.append_right_inj _).mp keys]
  rw [← Nat.ofDigitChars_ten_toDigits (n := a), digits, Nat.ofDigitChars_ten_toDigits]

/-- The event fields `dead_letter_delivery` passes to the model, read from the
row after its in-memory change. -/
def deadLetterFields (deliveryId : Nat) (category : NotificationErrorCategory)
    (code : Option String) (now : Int) (d : NotificationDelivery) : DeadLetterFields where
  messageId := dlqMessageId deliveryId
  occurredAt := now
  deliveryId := deliveryId
  requestMessageId := d.messageId
  incidentId := d.incidentId
  sourceId := d.sourceId
  tenantId := d.tenantId
  channel := d.channel
  attemptCount := d.attemptCount
  errorCategory := category
  errorCode := code.map (truncate 64)
  firstAttemptAt := d.firstAttemptAt.getD now
  lastAttemptAt := d.lastAttemptAt.getD now

/-- The outbox row of a dead-lettered delivery. -/
def deadLetterOutbox (deliveryId : Nat) (d : NotificationDelivery)
    (event : NotificationDeliveryDeadLetteredV1) : OutboxEvent NotificationEvent where
  aggregateType := "notification_delivery"
  aggregateId := toString deliveryId
  eventType := eventNotificationDeliveryDeadLetteredV1
  payload := .deadLettered event
  idempotencyKey := dlqMessageId deliveryId
  tenantId := d.tenantId

/-! ### Intake -/

/-- The inbox row of a message for this consumer. -/
def inboxByMessage (inbox : Rows InboxConsumption) (messageId : String) :
    Option (Nat × InboxConsumption) :=
  (inbox.select fun _ row => row.consumerName == consumerName && row.messageId == messageId).head?

/-- `claim_notification_request`: the inbox row, whether it was claimed, and
the committed database. A fresh insert or an expired lease claims; a terminal
row or a live lease does not. -/
def claimNotificationRequest (db : Db) (event : NotificationDeliveryRequestedV1)
    (leaseSeconds : Int) (now : Int) : (Nat × InboxConsumption) × Bool × Db :=
  match inboxByMessage db.inbox event.messageId with
  | none =>
      let row : InboxConsumption :=
        { consumerName := consumerName
          messageId := event.messageId
          eventType := eventNotificationDeliveryRequestedV1
          payload := event
          status := .processing
          leaseExpiresAt := some (now + seconds leaseSeconds)
          processedAt := none
          lastErrorCategory := none
          lastErrorCode := none
          lastErrorDetail := none }
      ((db.inbox.nextId, row), true, { db with inbox := db.inbox.insert row })
  | some (id, row) =>
      if row.status.terminal then ((id, row), false, db)
      else if row.leaseExpiresAt.isSome && !atOrBefore row.leaseExpiresAt now then
        ((id, row), false, db)
      else
        let reclaimed : InboxConsumption :=
          { row with
            status := .processing
            leaseExpiresAt := some (now + seconds leaseSeconds)
            eventType := eventNotificationDeliveryRequestedV1
            payload := event
            processedAt := none
            lastErrorCategory := none
            lastErrorCode := none
            lastErrorDetail := none }
        ((id, reclaimed), true, { db with inbox := db.inbox.modify id fun _ => reclaimed })

/-- The row `add_channel_deliveries` inserts for one channel. -/
def channelDelivery (inboxId : Nat) (event : NotificationDeliveryRequestedV1)
    (channel : NotificationChannel) : NotificationDelivery where
  inboxConsumptionId := inboxId
  messageId := event.messageId
  incidentId := event.incidentId
  sourceId := event.sourceId
  tenantId := event.tenantId
  eventType := eventNotificationDeliveryRequestedV1
  severity := event.severity
  channel := channel
  status := .pending
  attemptCount := 0

/-- The deliveries of one `(message_id, channel)`, the columns of the unique
constraint. -/
def deliveriesOf (deliveries : Rows NotificationDelivery) (messageId : String)
    (channel : NotificationChannel) : List (Nat × NotificationDelivery) :=
  deliveries.select fun _ d => d.messageId == messageId && d.channel == channel

/-- One `INSERT … ON CONFLICT DO NOTHING` of `add_channel_deliveries`. -/
def addChannelDelivery (inboxId : Nat) (event : NotificationDeliveryRequestedV1)
    (deliveries : Rows NotificationDelivery) (channel : NotificationChannel) :
    Rows NotificationDelivery :=
  if (deliveriesOf deliveries event.messageId channel).isEmpty then
    deliveries.insert (channelDelivery inboxId event channel)
  else deliveries

/-- `add_channel_deliveries`, with the caller's commit. -/
def addChannelDeliveries (db : Db) (inboxId : Nat) (event : NotificationDeliveryRequestedV1) :
    Db :=
  { db with deliveries := event.channels.foldl (addChannelDelivery inboxId event) db.deliveries }

/-! ### Delivery -/

/-- The rows `claim_due_deliveries` selects. `locked` are the ids other
transactions hold, which `SKIP LOCKED` leaves out. -/
def dueDeliveries (deliveries : Rows NotificationDelivery) (limit : Nat) (now : Int)
    (locked : List Nat) : List (Nat × NotificationDelivery) :=
  (deliveries.select fun id d => d.claimable now && !locked.contains id).take limit

/-- `claim_due_deliveries`: the claimed rows and the committed database. -/
def claimDueDeliveries (db : Db) (limit : Nat) (token : String) (leaseSeconds : Int) (now : Int)
    (locked : List Nat) : List (Nat × NotificationDelivery) × Db :=
  let due := dueDeliveries db.deliveries limit now locked
  (due.map fun entry => (entry.1, entry.2.claim token leaseSeconds now),
    { db with
      deliveries := db.deliveries.modifyAll (due.map Prod.fst) (·.claim token leaseSeconds now) })

/-- `_get_claimed_delivery`. -/
def getClaimedDelivery (db : Db) (deliveryId : Nat) (token : String) :
    Option NotificationDelivery :=
  (db.deliveries.get deliveryId).filter (·.claimedBy token)

/-- The statuses `_refresh_inbox_status` reads. -/
def inboxDeliveryStatuses (deliveries : Rows NotificationDelivery) (inboxId : Nat) :
    List DeliveryStatus :=
  (deliveries.select fun _ d => d.inboxConsumptionId == inboxId && d.deletedAt.isNone).map
    fun entry => entry.2.status

/-- `_refresh_inbox_status` in a transaction that runs alone. -/
def refreshInboxStatus (db : Db) (inboxId : Nat) (now : Int) : Except RepositoryError Db :=
  match db.inbox.get inboxId with
  | none => .error (.runtimeError s!"Inbox consumption {inboxId} is missing.")
  | some _ =>
      .ok { db with
        inbox := db.inbox.modify inboxId
          (·.refreshed (inboxDeliveryStatuses db.deliveries inboxId) now) }

/-- `mark_delivery_delivered`. -/
def markDeliveryDelivered (db : Db) (deliveryId : Nat) (token : String)
    (providerReference : Option String) (now : Int) :
    Except RepositoryError (Option NotificationDelivery × Db) :=
  match getClaimedDelivery db deliveryId token with
  | none => .ok (none, db)
  | some delivery =>
      let delivery := delivery.markDelivered providerReference now
      let flushed := { db with deliveries := db.deliveries.modify deliveryId fun _ => delivery }
      (refreshInboxStatus flushed delivery.inboxConsumptionId now).map (some delivery, ·)

/-- `schedule_delivery_retry`. -/
def scheduleDeliveryRetry (db : Db) (deliveryId : Nat) (token : String) (nextAttemptAt : Int)
    (category : NotificationErrorCategory) (code : Option String) (detail : String) :
    Except RepositoryError (Option NotificationDelivery × Db) :=
  match getClaimedDelivery db deliveryId token with
  | none => .ok (none, db)
  | some delivery =>
      if maxDeliveryAttempts ≤ delivery.attemptCount then
        .error (.valueError "Delivery attempt budget is exhausted.")
      else
        let delivery := delivery.scheduleRetry nextAttemptAt category code detail
        .ok (some delivery,
          { db with deliveries := db.deliveries.modify deliveryId fun _ => delivery })

/-- `dead_letter_delivery`. -/
def deadLetterDelivery (db : Db) (deliveryId : Nat) (token : String)
    (category : NotificationErrorCategory) (code : Option String) (detail : String) (now : Int) :
    Except RepositoryError (Option (NotificationDelivery × OutboxEvent NotificationEvent) × Db) :=
  match getClaimedDelivery db deliveryId token with
  | none => .ok (none, db)
  | some delivery =>
      let delivery := delivery.deadLetter category code detail now
      match NotificationDeliveryDeadLetteredV1.validate
          (deadLetterFields deliveryId category code now delivery) with
      | none => .error .validationError
      | some event =>
          let (outbox, outboxRows) :=
            addOutboxEvent db.outbox (deadLetterOutbox deliveryId delivery event)
          let flushed :=
            { db with
              deliveries := db.deliveries.modify deliveryId fun _ => delivery
              outbox := outboxRows }
          (refreshInboxStatus flushed delivery.inboxConsumptionId now).map
            (some (delivery, outbox.2), ·)

/-! ### What each transaction commits -/

/-- A mapped result is normal only when the result is. -/
theorem exceptMap_ok {ε α β : Type} {f : α → β} {x : Except ε α} {b : β}
    (h : x.map f = .ok b) : ∃ a, x = .ok a ∧ f a = b := by
  cases x with
  | error e => cases h
  | ok a => cases h; exact ⟨a, rfl, rfl⟩

theorem getClaimedDelivery_some {db : Db} {deliveryId : Nat} {token : String}
    {d : NotificationDelivery} (h : getClaimedDelivery db deliveryId token = some d) :
    db.deliveries.get deliveryId = some d ∧ d.claimedBy token = true :=
  Option.filter_eq_some_iff.mp h

theorem claimedBy_iff {token : String} {d : NotificationDelivery} :
    d.claimedBy token = true ↔ d.status = .processing ∧ d.claimToken = some token := by
  simp [NotificationDelivery.claimedBy]

/-- A call that needs the claim commits nothing without it. -/
theorem commit_of_claimed {α : Type} {db db' : Db} {deliveryId : Nat} {token : String}
    {commit : NotificationDelivery → Except RepositoryError (Option α × Db)} {result : Option α}
    (h : (match getClaimedDelivery db deliveryId token with
      | none => Except.ok (none, db)
      | some delivery => commit delivery) = .ok (result, db')) :
    db' = db ∨ ∃ d, db.deliveries.get deliveryId = some d ∧ d.claimedBy token = true ∧
      commit d = .ok (result, db') := by
  cases claimed : getClaimedDelivery db deliveryId token with
  | none =>
    rw [claimed] at h
    cases h
    exact Or.inl rfl
  | some d =>
    obtain ⟨stored, owned⟩ := getClaimedDelivery_some claimed
    rw [claimed] at h
    exact Or.inr ⟨d, stored, owned, h⟩

/-- A refresh leaves deliveries and outbox as they are. -/
theorem refreshInboxStatus_ok {db db' : Db} {inboxId : Nat} {now : Int}
    (h : refreshInboxStatus db inboxId now = .ok db') :
    db'.deliveries = db.deliveries ∧ db'.outbox = db.outbox ∧
      db'.inbox = db.inbox.modify inboxId
        (·.refreshed (inboxDeliveryStatuses db.deliveries inboxId) now) := by
  unfold refreshInboxStatus at h
  split at h
  · cases h
  · cases h
    exact ⟨rfl, rfl, rfl⟩

theorem markDeliveryDelivered_ok {db db' : Db} {deliveryId : Nat} {token : String}
    {reference : Option String} {now : Int} {result : Option NotificationDelivery}
    (h : markDeliveryDelivered db deliveryId token reference now = .ok (result, db')) :
    db' = db ∨ ∃ d, db.deliveries.get deliveryId = some d ∧ d.claimedBy token = true ∧
      db'.deliveries = db.deliveries.modify deliveryId (fun _ => d.markDelivered reference now) ∧
      db'.outbox = db.outbox ∧ ∃ statuses,
        db'.inbox = db.inbox.modify d.inboxConsumptionId (·.refreshed statuses now) := by
  refine (commit_of_claimed h).imp_right ?_
  rintro ⟨d, stored, owned, committed⟩
  obtain ⟨flushed, refreshed, same⟩ := exceptMap_ok committed
  cases same
  obtain ⟨deliveries, outbox, inbox⟩ := refreshInboxStatus_ok refreshed
  exact ⟨d, stored, owned, deliveries, outbox, _, inbox⟩

theorem scheduleDeliveryRetry_ok {db db' : Db} {deliveryId : Nat} {token : String}
    {nextAttemptAt : Int} {category : NotificationErrorCategory} {code : Option String}
    {detail : String} {result : Option NotificationDelivery}
    (h : scheduleDeliveryRetry db deliveryId token nextAttemptAt category code detail =
      .ok (result, db')) :
    db' = db ∨ ∃ d, db.deliveries.get deliveryId = some d ∧ d.claimedBy token = true ∧
      d.attemptCount < maxDeliveryAttempts ∧
      db'.deliveries = db.deliveries.modify deliveryId
        (fun _ => d.scheduleRetry nextAttemptAt category code detail) ∧
      db'.outbox = db.outbox ∧ db'.inbox = db.inbox := by
  refine (commit_of_claimed h).imp_right ?_
  rintro ⟨d, stored, owned, committed⟩
  split at committed
  · cases committed
  · rename_i budget
    cases committed
    exact ⟨d, stored, owned, Nat.lt_of_not_le budget, rfl, rfl, rfl⟩

theorem deadLetterDelivery_ok {db db' : Db} {deliveryId : Nat} {token : String}
    {category : NotificationErrorCategory} {code : Option String} {detail : String} {now : Int}
    {result : Option (NotificationDelivery × OutboxEvent NotificationEvent)}
    (h : deadLetterDelivery db deliveryId token category code detail now = .ok (result, db')) :
    db' = db ∨ ∃ d event, db.deliveries.get deliveryId = some d ∧ d.claimedBy token = true ∧
      NotificationDeliveryDeadLetteredV1.validate (deadLetterFields deliveryId category code now
        (d.deadLetter category code detail now)) = some event ∧
      db'.deliveries = db.deliveries.modify deliveryId
        (fun _ => d.deadLetter category code detail now) ∧
      db'.outbox = (addOutboxEvent db.outbox
        (deadLetterOutbox deliveryId (d.deadLetter category code detail now) event)).2 ∧
      ∃ statuses,
        db'.inbox = db.inbox.modify d.inboxConsumptionId (·.refreshed statuses now) := by
  refine (commit_of_claimed h).imp_right ?_
  rintro ⟨d, stored, owned, committed⟩
  dsimp only at committed
  split at committed
  · cases committed
  · rename_i event valid
    obtain ⟨flushed, refreshed, same⟩ := exceptMap_ok committed
    cases same
    obtain ⟨deliveries, outbox, inbox⟩ := refreshInboxStatus_ok refreshed
    exact ⟨d, event, stored, owned, valid, deliveries, outbox, _, inbox⟩

end ApiObservatory
