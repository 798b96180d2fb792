import ApiObservatory.Notification.Lifecycle

/-
From the broker to the delivery rows.

`run_notification_delivery_worker` reads a partition, stores each request and
commits its offset. `accept_notification_request` is two transactions: the
inbox claim with a 30 second lease, and the channel rows. The worker can die
between any two steps and starts again at the committed offset; the delivery
transactions of this and of other workers run at any time in between.

When a worker dies between the two transactions and the record is redelivered
while the lease is live, the second claim is refused, the worker takes the
request for stored and commits its offset: `request_lost` is such a run.
`strandsChannels` is the refused claim. Without one, a committed offset covers
stored requests only.
-/

namespace ApiObservatory.Notification.Intake

open Foundation

/-! ### The worker and its partition -/

/-- One partition of the request topic. `decode` is `json.loads` followed by the
model validation, and `none` where either raises. -/
structure Partition (Value : Type) where
  log : List Value
  decode : Value → Option NotificationDeliveryRequestedV1
  sameContent : ∀ v ∈ log, ∀ v' ∈ log, ∀ event event', decode v = some event →
    decode v' = some event' → event.messageId = event'.messageId → event = event'

variable {Value : Type}

/-- The valid request at an offset. -/
def Partition.request (p : Partition Value) (offset : Nat) :
    Option NotificationDeliveryRequestedV1 :=
  p.log[offset]?.bind p.decode

/-- Where the worker stands. A polled batch is the offsets from the current one
up to `stop`. -/
inductive Phase where
  | down
  | idle (position : Nat)
  | record (offset stop : Nat)
  | claimed (offset stop inboxId : Nat) (event : NotificationDeliveryRequestedV1)
  | accepted (offset stop : Nat)

structure State where
  db : Db
  clock : Int
  committedOffset : Nat
  phase : Phase

inductive Label where
  | start
  | poll (count : Nat)
  | claimRequest (now : Int)
  | addDeliveries (now : Int)
  | commitOffset
  | crash
  | deliver (call : Call)

/-- The first transaction of a record. A value that does not decode raises and
ends the process. -/
def claimRequest (p : Partition Value) (s : State) (offset stop : Nat) (now : Int) : State :=
  match p.request offset with
  | none => { s with clock := now, phase := .down }
  | some event =>
      let result := claimNotificationRequest s.db event 30 now
      { s with
        db := result.2.2
        clock := now
        phase :=
          if result.2.1 then .claimed offset stop result.1.1 event else .accepted offset stop }

def next (p : Partition Value) (s : State) (label : Label) : Option State :=
  match s.phase, label with
  | .down, .start => some { s with phase := .idle s.committedOffset }
  | .idle position, .poll count =>
      if position + count ≤ p.log.length then
        some { s with
          phase := if count = 0 then .idle position else .record position (position + count) }
      else none
  | .record offset stop, .claimRequest now =>
      if s.clock ≤ now then some (claimRequest p s offset stop now) else none
  | .claimed offset stop inboxId event, .addDeliveries now =>
      if s.clock ≤ now then
        some { s with
          db := addChannelDeliveries s.db inboxId event
          clock := now
          phase := .accepted offset stop }
      else none
  | .accepted offset stop, .commitOffset =>
      some { s with
        committedOffset := offset + 1
        phase := if offset + 1 < stop then .record (offset + 1) stop else .idle stop }
  | _, .deliver call =>
      if call.isIntake = false ∧ s.clock ≤ call.now then
        some { s with db := call.apply s.db, clock := call.now }
      else none
  | .down, .crash => none
  | _, .crash => some { s with phase := .down }
  | _, _ => none

/-! ### What is stored for a request -/

/-- `row` is the inbox row of the message for this consumer. -/
def InboxOf (row : InboxConsumption) (messageId : String) : Prop :=
  row.consumerName = consumerName ∧ row.messageId = messageId

def HasInbox (db : Db) (event : NotificationDeliveryRequestedV1) : Prop :=
  ∃ id row, db.inbox.get id = some row ∧ InboxOf row event.messageId

/-- Some delivery row serves the message. -/
def HasDelivery (db : Db) (messageId : String) : Prop :=
  ∃ id d, db.deliveries.get id = some d ∧ d.messageId = messageId

def HasChannel (deliveries : Rows NotificationDelivery) (messageId : String)
    (channel : NotificationChannel) : Prop :=
  ∃ id d, deliveries.get id = some d ∧ d.messageId = messageId ∧ d.channel = channel

def HasChannels (db : Db) (event : NotificationDeliveryRequestedV1) : Prop :=
  ∀ channel ∈ event.channels, HasChannel db.deliveries event.messageId channel

theorem hasChannel_iff {deliveries : Rows NotificationDelivery} {messageId : String}
    {channel : NotificationChannel} :
    HasChannel deliveries messageId channel ↔
      (deliveriesOf deliveries messageId channel).isEmpty = false := by
  rw [List.isEmpty_eq_false_iff_exists_mem]
  simp only [Prod.exists, deliveriesOf, Rows.mem_select, Bool.and_eq_true, beq_iff_eq]
  rfl

/-- The request is stored: its inbox row and a row for each of its channels. -/
def Stored (db : Db) (event : NotificationDeliveryRequestedV1) : Prop :=
  HasInbox db event ∧ HasChannels db event

/-- The unique constraints and the foreign key of the two tables. -/
structure Schema (db : Db) : Prop where
  inboxUnique : ∀ id id' row row', db.inbox.get id = some row → db.inbox.get id' = some row' →
    row.consumerName = row'.consumerName → row.messageId = row'.messageId → id = id'
  channelUnique : ∀ id id' d d', db.deliveries.get id = some d → db.deliveries.get id' = some d' →
    d.messageId = d'.messageId → d.channel = d'.channel → id = id'
  linked : ∀ id d, db.deliveries.get id = some d →
    ∃ row, db.inbox.get d.inboxConsumptionId = some row ∧ row.messageId = d.messageId

/-- The channel rows of a request come together, and before its inbox row is
terminal. -/
structure RequestOk (db : Db) (event : NotificationDeliveryRequestedV1) : Prop where
  together : HasDelivery db event.messageId → HasChannels db event
  terminal : ∀ id row, db.inbox.get id = some row → InboxOf row event.messageId →
    row.status.terminal = true → HasDelivery db event.messageId

/-- Rows are kept, under the same keys. -/
structure Grows (db db' : Db) : Prop where
  inbox : ∀ id row, db.inbox.get id = some row →
    ∃ row', db'.inbox.get id = some row' ∧ row'.consumerName = row.consumerName ∧
      row'.messageId = row.messageId
  deliveries : ∀ id d, db.deliveries.get id = some d →
    ∃ d', db'.deliveries.get id = some d' ∧ SameRequest d d'

theorem Grows.refl (db : Db) : Grows db db where
  inbox _ row stored := ⟨row, stored, rfl, rfl⟩
  deliveries _ d stored := ⟨d, stored, rfl, rfl, rfl, rfl⟩

theorem Grows.hasInbox {db db' : Db} {event : NotificationDeliveryRequestedV1}
    (grows : Grows db db') (h : HasInbox db event) : HasInbox db' event := by
  obtain ⟨id, row, stored, consumer, message⟩ := h
  obtain ⟨row', stored', consumer', message'⟩ := grows.inbox id row stored
  exact ⟨id, row', stored', consumer'.trans consumer, message'.trans message⟩

theorem Grows.hasDelivery {db db' : Db} {messageId : String} (grows : Grows db db')
    (h : HasDelivery db messageId) : HasDelivery db' messageId := by
  obtain ⟨id, d, stored, message⟩ := h
  obtain ⟨d', stored', same⟩ := grows.deliveries id d stored
  exact ⟨id, d', stored', same.messageId.trans message⟩

theorem Grows.hasChannels {db db' : Db} {event : NotificationDeliveryRequestedV1}
    (grows : Grows db db') (h : HasChannels db event) : HasChannels db' event := by
  intro channel mem
  obtain ⟨id, d, stored, message, same⟩ := h channel mem
  obtain ⟨d', stored', request⟩ := grows.deliveries id d stored
  exact ⟨id, d', stored', request.messageId.trans message, request.channel.trans same⟩

theorem Grows.stored {db db' : Db} {event : NotificationDeliveryRequestedV1}
    (grows : Grows db db') (h : Stored db event) : Stored db' event :=
  ⟨grows.hasInbox h.1, grows.hasChannels h.2⟩

/-! ### The delivery transactions -/

section Deliver

variable {db : Db} {call : Call}

theorem delivery_before (other : call.isIntake = false) {id : Nat} {d' : NotificationDelivery}
    (stored' : (call.apply db).deliveries.get id = some d') :
    ∃ d, db.deliveries.get id = some d ∧ SameRequest d d' := by
  cases stored : db.deliveries.get id with
  | none =>
    rw [apply_absent other stored] at stored'
    cases stored'
  | some d =>
    obtain ⟨d'', stored'', step, -⟩ := apply_row call stored
    rw [stored''] at stored'
    cases stored'
    exact ⟨d, rfl, step.sameRequest⟩

theorem inbox_before {id : Nat} {row' : InboxConsumption}
    (stored' : (call.apply db).inbox.get id = some row') :
    ∃ row, db.inbox.get id = some row ∧ InboxStep db id row row' := by
  have moved := @apply_inbox db call id
  cases stored : db.inbox.get id with
  | none =>
    rw [stored] at moved
    rw [moved] at stored'
    cases stored'
  | some row =>
    rw [stored] at moved
    obtain ⟨row'', stored'', step⟩ := moved
    rw [stored''] at stored'
    cases stored'
    exact ⟨row, rfl, step⟩

/-- A refresh keeps the key of the inbox row. -/
theorem InboxStep.key {id : Nat} {row row' : InboxConsumption} (step : InboxStep db id row row') :
    row'.consumerName = row.consumerName ∧ row'.messageId = row.messageId := by
  cases step with
  | keep => exact ⟨rfl, rfl⟩
  | refresh statuses now _ _ =>
    unfold InboxConsumption.refreshed
    split <;> exact ⟨rfl, rfl⟩

theorem grows_apply (call : Call) : Grows db (call.apply db) where
  inbox id row stored := by
    have moved := @apply_inbox db call id
    rw [stored] at moved
    obtain ⟨row', stored', step⟩ := moved
    exact ⟨row', stored', InboxStep.key step⟩
  deliveries id d stored := by
    obtain ⟨d', stored', step, -⟩ := apply_row call stored
    exact ⟨d', stored', step.sameRequest⟩

theorem Schema.apply (schema : Schema db) (other : call.isIntake = false) :
    Schema (call.apply db) where
  inboxUnique id id' row row' stored stored' consumer message := by
    obtain ⟨r, before, step⟩ := inbox_before stored
    obtain ⟨r', before', step'⟩ := inbox_before stored'
    rw [(InboxStep.key step).1, (InboxStep.key step').1] at consumer
    rw [(InboxStep.key step).2, (InboxStep.key step').2] at message
    exact schema.inboxUnique id id' r r' before before' consumer message
  channelUnique id id' d d' stored stored' message channel := by
    obtain ⟨r, before, same⟩ := delivery_before other stored
    obtain ⟨r', before', same'⟩ := delivery_before other stored'
    rw [same.messageId, same'.messageId] at message
    rw [same.channel, same'.channel] at channel
    exact schema.channelUnique id id' r r' before before' message channel
  linked id d stored := by
    obtain ⟨r, before, same⟩ := delivery_before other stored
    obtain ⟨row, inbox, message⟩ := schema.linked id r before
    obtain ⟨row', inbox', -, message'⟩ := (grows_apply call).inbox _ row inbox
    exact ⟨row', by rw [same.inboxConsumptionId, inbox'],
      by rw [message', message, same.messageId]⟩

/-- An inbox row becomes terminal only through one of its deliveries. -/
theorem RequestOk.apply {event : NotificationDeliveryRequestedV1} (ok : RequestOk db event)
    (schema : Schema db) (other : call.isIntake = false) : RequestOk (call.apply db) event where
  together h := by
    obtain ⟨id, d', stored', message⟩ := h
    obtain ⟨d, stored, same⟩ := delivery_before other stored'
    have before := ok.together ⟨id, d, stored, same.messageId.symm.trans message⟩
    exact (grows_apply call).hasChannels before
  terminal id row' stored' key finished := by
    obtain ⟨row, stored, step⟩ := inbox_before stored'
    have keys := InboxStep.key step
    have before : InboxOf row event.messageId :=
      ⟨keys.1.symm.trans key.1, keys.2.symm.trans key.2⟩
    refine (grows_apply call).hasDelivery ?_
    cases step with
    | keep => exact ok.terminal id _ stored before finished
    | @refresh deliveryId d statuses now delivery here =>
      obtain ⟨linkedRow, inbox, message⟩ := schema.linked deliveryId d delivery
      rw [here, stored] at inbox
      cases inbox
      exact ⟨deliveryId, d, delivery, message.symm.trans before.2⟩

end Deliver

/-! ### The inbox claim -/

theorem inboxByMessage_eq_none {inbox : Rows InboxConsumption} {messageId : String} :
    inboxByMessage inbox messageId = none ↔
      ∀ id row, inbox.get id = some row → ¬ InboxOf row messageId := by
  rw [inboxByMessage, List.head?_eq_none_iff, List.eq_nil_iff_forall_not_mem]
  constructor
  · intro h id row stored key
    refine h (id, row) (Rows.mem_select.mpr ⟨stored, ?_⟩)
    rw [Bool.and_eq_true, beq_iff_eq, beq_iff_eq]
    exact key
  · rintro h ⟨id, row⟩ mem
    obtain ⟨stored, key⟩ := Rows.mem_select.mp mem
    rw [Bool.and_eq_true, beq_iff_eq, beq_iff_eq] at key
    exact h id row stored key

theorem inboxByMessage_some {inbox : Rows InboxConsumption} {messageId : String} {id : Nat}
    {row : InboxConsumption} (h : inboxByMessage inbox messageId = some (id, row)) :
    inbox.get id = some row ∧ InboxOf row messageId := by
  obtain ⟨stored, key⟩ := Rows.mem_select.mp (List.mem_of_head? h)
  rw [Bool.and_eq_true, beq_iff_eq, beq_iff_eq] at key
  exact ⟨stored, key⟩

/-- The lease of a claimed inbox row is still running. -/
def leaseLive (row : InboxConsumption) (now : Int) : Bool :=
  row.leaseExpiresAt.isSome && !atOrBefore row.leaseExpiresAt now

/-- What `claim_notification_request` does. -/
inductive Claim (db : Db) (event : NotificationDeliveryRequestedV1) (now : Int) :
    (Nat × InboxConsumption) × Bool × Db → Prop where
  | insert (row : InboxConsumption) :
      (∀ id old, db.inbox.get id = some old → ¬ InboxOf old event.messageId) →
      InboxOf row event.messageId → row.status = .processing →
      Claim db event now ((db.inbox.nextId, row), true, { db with inbox := db.inbox.insert row })
  | refuse (id : Nat) (row : InboxConsumption) :
      inboxByMessage db.inbox event.messageId = some (id, row) →
      row.status.terminal = true ∨ leaseLive row now = true →
      Claim db event now ((id, row), false, db)
  | reclaim (id : Nat) (old row : InboxConsumption) :
      db.inbox.get id = some old → InboxOf old event.messageId → InboxOf row event.messageId →
      row.status = .processing →
      Claim db event now
        ((id, row), true, { db with inbox := db.inbox.modify id fun _ => row })

theorem claim_cases (db : Db) (event : NotificationDeliveryRequestedV1) (leaseSeconds now : Int) :
    Claim db event now (claimNotificationRequest db event leaseSeconds now) := by
  unfold claimNotificationRequest
  cases found : inboxByMessage db.inbox event.messageId with
  | none => exact .insert _ (inboxByMessage_eq_none.mp found) ⟨rfl, rfl⟩ rfl
  | some entry =>
    obtain ⟨id, row⟩ := entry
    obtain ⟨stored, key⟩ := inboxByMessage_some found
    dsimp only
    split
    · rename_i finished
      exact .refuse id row found (Or.inl finished)
    · split
      · rename_i live
        exact .refuse id row found (Or.inr live)
      · exact .reclaim id row _ stored key ⟨key.1, key.2⟩ rfl

section ClaimRequest

variable {db : Db} {event : NotificationDeliveryRequestedV1} {now : Int}
  {result : (Nat × InboxConsumption) × Bool × Db}

theorem Claim.deliveries (claim : Claim db event now result) :
    result.2.2.deliveries = db.deliveries := by
  cases claim <;> rfl

/-- The claimed or found inbox row is the row of the message. -/
theorem Claim.inboxOf (claim : Claim db event now result) :
    ∃ row, result.2.2.inbox.get result.1.1 = some row ∧ InboxOf row event.messageId := by
  cases claim with
  | insert row _ key _ => exact ⟨row, Rows.get_insert_self _ _, key⟩
  | refuse id row found _ => exact ⟨row, inboxByMessage_some found⟩
  | reclaim id old row stored _ key _ =>
    exact ⟨row, by rw [Rows.get_modify_self, stored]; rfl, key⟩

/-- Every inbox row after a claim is an old row or in `processing`. -/
theorem Claim.inbox_cases (claim : Claim db event now result) {id : Nat} {row' : InboxConsumption}
    (stored' : result.2.2.inbox.get id = some row') :
    db.inbox.get id = some row' ∨ row'.status = .processing := by
  cases claim with
  | insert row absent key status =>
    rcases Rows.get_insert_cases stored' with ⟨-, rfl⟩ | ⟨-, old⟩
    · exact Or.inr status
    · exact Or.inl old
  | refuse => exact Or.inl stored'
  | reclaim i old row stored key key' status =>
    by_cases e : id = i
    · subst e
      rw [Rows.get_modify_self, stored] at stored'
      cases stored'
      exact Or.inr status
    · rw [Rows.get_modify_of_ne _ e] at stored'
      exact Or.inl stored'

theorem Claim.grows (claim : Claim db event now result) : Grows db result.2.2 where
  inbox id row stored := by
    cases claim with
    | insert new _ _ _ => exact ⟨row, Rows.get_insert_of_some stored, rfl, rfl⟩
    | refuse => exact ⟨row, stored, rfl, rfl⟩
    | reclaim i old new stored₀ key key' status =>
      by_cases e : id = i
      · subst e
        rw [stored] at stored₀
        cases stored₀
        exact ⟨new, by rw [Rows.get_modify_self, stored]; rfl, key'.1.trans key.1.symm,
          key'.2.trans key.2.symm⟩
      · exact ⟨row, by rw [Rows.get_modify_of_ne _ e, stored], rfl, rfl⟩
  deliveries id d stored := ⟨d, by rw [claim.deliveries, stored], rfl, rfl, rfl, rfl⟩

theorem Claim.schema (claim : Claim db event now result) (schema : Schema db) :
    Schema result.2.2 where
  inboxUnique id id' row row' stored stored' consumer message := by
    cases claim with
    | insert new absent key _ =>
      rcases Rows.get_insert_cases stored with ⟨rfl, rfl⟩ | ⟨-, old⟩
      · rcases Rows.get_insert_cases stored' with ⟨rfl, -⟩ | ⟨-, old'⟩
        · rfl
        · exact absurd ⟨consumer.symm.trans key.1, message.symm.trans key.2⟩ (absent id' row' old')
      · rcases Rows.get_insert_cases stored' with ⟨rfl, rfl⟩ | ⟨-, old'⟩
        · exact absurd ⟨consumer.trans key.1, message.trans key.2⟩ (absent id row old)
        · exact schema.inboxUnique id id' row row' old old' consumer message
    | refuse => exact schema.inboxUnique id id' row row' stored stored' consumer message
    | reclaim i old new stored₀ key key' _ =>
      -- Each row after the claim has a row with the same key before it.
      have before : ∀ {j r}, (db.inbox.modify i fun _ => new).get j = some r →
          ∃ r', db.inbox.get j = some r' ∧ r'.consumerName = r.consumerName ∧
            r'.messageId = r.messageId := by
        intro j r stored
        by_cases e : j = i
        · subst e
          rw [Rows.get_modify_self, stored₀] at stored
          cases stored
          exact ⟨old, stored₀, key.1.trans key'.1.symm, key.2.trans key'.2.symm⟩
        · rw [Rows.get_modify_of_ne _ e] at stored
          exact ⟨r, stored, rfl, rfl⟩
      obtain ⟨r, old, consumer₁, message₁⟩ := before stored
      obtain ⟨r', old', consumer₂, message₂⟩ := before stored'
      exact schema.inboxUnique id id' r r' old old' (consumer₁.trans (consumer.trans consumer₂.symm))
        (message₁.trans (message.trans message₂.symm))
  channelUnique id id' d d' stored stored' := by
    rw [claim.deliveries] at stored stored'
    exact schema.channelUnique id id' d d' stored stored'
  linked id d stored := by
    rw [claim.deliveries] at stored
    obtain ⟨row, inbox, message⟩ := schema.linked id d stored
    obtain ⟨row', inbox', -, message'⟩ := claim.grows.inbox _ row inbox
    exact ⟨row', inbox', message'.trans message⟩

theorem Claim.requestOk {other : NotificationDeliveryRequestedV1}
    (claim : Claim db event now result) (ok : RequestOk db other) : RequestOk result.2.2 other where
  together h := by
    obtain ⟨id, d, stored, message⟩ := h
    rw [claim.deliveries] at stored
    exact claim.grows.hasChannels (ok.together ⟨id, d, stored, message⟩)
  terminal id row stored key finished := by
    rcases claim.inbox_cases stored with old | processing
    · exact claim.grows.hasDelivery (ok.terminal id row old key finished)
    · rw [processing] at finished
      cases finished

end ClaimRequest

/-! ### The channel rows -/

section AddDeliveries

variable {event : NotificationDeliveryRequestedV1} {inboxId : Nat}

theorem hasChannel_addChannelDelivery (deliveries : Rows NotificationDelivery)
    (channel : NotificationChannel) :
    HasChannel (addChannelDelivery inboxId event deliveries channel) event.messageId channel := by
  unfold addChannelDelivery
  split
  · exact ⟨_, _, Rows.get_insert_self _ _, rfl, rfl⟩
  · rename_i taken
    exact hasChannel_iff.mpr (by simpa using taken)

theorem HasChannel.addChannelDelivery {deliveries : Rows NotificationDelivery} {messageId : String}
    {channel : NotificationChannel} (h : HasChannel deliveries messageId channel)
    (added : NotificationChannel) :
    HasChannel (addChannelDelivery inboxId event deliveries added) messageId channel := by
  obtain ⟨id, d, stored, keys⟩ := h
  exact ⟨id, d, get_addChannelDelivery stored, keys⟩

/-- After the inserts every requested channel has its row. -/
theorem hasChannel_addChannelDeliveries (channels : List NotificationChannel) :
    ∀ (deliveries : Rows NotificationDelivery) (channel : NotificationChannel),
      channel ∈ channels ∨ HasChannel deliveries event.messageId channel →
      HasChannel (channels.foldl (addChannelDelivery inboxId event) deliveries) event.messageId
        channel := by
  induction channels with
  | nil =>
    rintro deliveries channel (mem | present)
    · cases mem
    · exact present
  | cons added rest ih =>
    rintro deliveries channel (mem | present)
    · rcases List.mem_cons.mp mem with rfl | later
      · exact ih _ _ (Or.inr (hasChannel_addChannelDelivery deliveries channel))
      · exact ih _ _ (Or.inl later)
    · exact ih _ _ (Or.inr (present.addChannelDelivery added))

/-- Every delivery after the inserts is an old row or a channel row of the
request. -/
theorem get_addChannelDeliveries_cases {deliveries : Rows NotificationDelivery} {id : Nat}
    {d : NotificationDelivery}
    (h : (event.channels.foldl (addChannelDelivery inboxId event) deliveries).get id = some d) :
    deliveries.get id = some d ∨ ∃ channel ∈ event.channels,
      d = channelDelivery inboxId event channel := by
  cases old : deliveries.get id with
  | none => exact Or.inr (get_addChannelDeliveries_new event.channels old h)
  | some row =>
    rw [get_addChannelDeliveries_some event.channels old] at h
    cases h
    exact Or.inl rfl

/-- An insert keeps one row for each message and channel. -/
theorem unique_addChannelDelivery {deliveries : Rows NotificationDelivery}
    (unique : ∀ id id' d d', deliveries.get id = some d → deliveries.get id' = some d' →
      d.messageId = d'.messageId → d.channel = d'.channel → id = id')
    (channel : NotificationChannel) (id id' : Nat) (d d' : NotificationDelivery)
    (stored : (addChannelDelivery inboxId event deliveries channel).get id = some d)
    (stored' : (addChannelDelivery inboxId event deliveries channel).get id' = some d')
    (message : d.messageId = d'.messageId) (same : d.channel = d'.channel) : id = id' := by
  unfold addChannelDelivery at stored stored'
  split at stored
  · rename_i free
    rw [if_pos free] at stored'
    have absent : ¬ HasChannel deliveries event.messageId channel := by
      rw [hasChannel_iff, free]
      decide
    rcases Rows.get_insert_cases stored with ⟨rfl, rfl⟩ | ⟨-, old⟩
    · rcases Rows.get_insert_cases stored' with ⟨rfl, -⟩ | ⟨-, old'⟩
      · rfl
      · exact absurd ⟨id', d', old', message.symm, same.symm⟩ absent
    · rcases Rows.get_insert_cases stored' with ⟨rfl, rfl⟩ | ⟨-, old'⟩
      · exact absurd ⟨id, d, old, message, same⟩ absent
      · exact unique id id' d d' old old' message same
  · rename_i taken
    rw [if_neg taken] at stored'
    exact unique id id' d d' stored stored' message same

theorem unique_addChannelDeliveries (channels : List NotificationChannel) :
    ∀ {deliveries : Rows NotificationDelivery},
      (∀ id id' d d', deliveries.get id = some d → deliveries.get id' = some d' →
        d.messageId = d'.messageId → d.channel = d'.channel → id = id') →
      ∀ id id' d d',
        (channels.foldl (addChannelDelivery inboxId event) deliveries).get id = some d →
        (channels.foldl (addChannelDelivery inboxId event) deliveries).get id' = some d' →
        d.messageId = d'.messageId → d.channel = d'.channel → id = id' := by
  induction channels with
  | nil => intro deliveries unique; exact unique
  | cons channel rest ih =>
    intro deliveries unique
    exact ih (unique_addChannelDelivery unique channel)

variable {db : Db}

theorem grows_addChannelDeliveries : Grows db (addChannelDeliveries db inboxId event) where
  inbox _ row stored := ⟨row, stored, rfl, rfl⟩
  deliveries _ d stored :=
    ⟨d, get_addChannelDeliveries_some event.channels stored, rfl, rfl, rfl, rfl⟩

theorem hasChannels_addChannelDeliveries : HasChannels (addChannelDeliveries db inboxId event) event :=
  fun channel mem => hasChannel_addChannelDeliveries event.channels _ channel (Or.inl mem)

theorem Schema.addChannelDeliveries (schema : Schema db) {row : InboxConsumption}
    (inbox : db.inbox.get inboxId = some row) (message : row.messageId = event.messageId) :
    Schema (addChannelDeliveries db inboxId event) where
  inboxUnique := schema.inboxUnique
  channelUnique := unique_addChannelDeliveries event.channels schema.channelUnique
  linked id d stored := by
    rcases get_addChannelDeliveries_cases stored with old | ⟨channel, -, rfl⟩
    · exact schema.linked id d old
    · exact ⟨row, inbox, message⟩

/-- The channel rows of one request do not touch another. -/
theorem RequestOk.addChannelDeliveries {other : NotificationDeliveryRequestedV1}
    (ok : RequestOk db other) (same : other.messageId = event.messageId → other = event) :
    RequestOk (addChannelDeliveries db inboxId event) other where
  together h := by
    obtain ⟨id, d, stored, message⟩ := h
    rcases get_addChannelDeliveries_cases stored with old | ⟨channel, -, rfl⟩
    · exact grows_addChannelDeliveries.hasChannels (ok.together ⟨id, d, old, message⟩)
    · rw [same message.symm]
      exact hasChannels_addChannelDeliveries
  terminal id row stored key finished :=
    grows_addChannelDeliveries.hasDelivery (ok.terminal id row stored key finished)

end AddDeliveries

/-! ### Runs -/

/-- The claim of a record is refused because of a live lease, although channel
rows of the request are missing. -/
def strandsChannels (p : Partition Value) (s : State) (label : Label) : Bool :=
  match s.phase, label with
  | .record offset _, .claimRequest now =>
      match p.request offset with
      | none => false
      | some event =>
          match inboxByMessage s.db.inbox event.messageId with
          | none => false
          | some (_, row) =>
              !row.status.terminal && leaseLive row now &&
                event.channels.any fun channel =>
                  (deliveriesOf s.db.deliveries event.messageId channel).isEmpty
  | _, _ => false

/-- The worker's own knowledge, by phase: the batch starts at the committed
offset, and an accepted record is stored. -/
def WorkerOk (p : Partition Value) (s : State) : Prop :=
  match s.phase with
  | .down => True
  | .idle position => position = s.committedOffset
  | .record offset stop => offset = s.committedOffset ∧ offset < stop
  | .claimed offset stop inboxId event =>
      (offset = s.committedOffset ∧ offset < stop) ∧ p.request offset = some event ∧
        ∃ row, s.db.inbox.get inboxId = some row ∧ InboxOf row event.messageId
  | .accepted offset stop =>
      (offset = s.committedOffset ∧ offset < stop) ∧
        ∀ event, p.request offset = some event → Stored s.db event

structure Invariant (p : Partition Value) (s : State) : Prop where
  schema : Schema s.db
  requests : ∀ offset event, p.request offset = some event → RequestOk s.db event
  worker : WorkerOk p s
  covered : ∀ offset, offset < s.committedOffset → ∀ event, p.request offset = some event →
    Stored s.db event

theorem Partition.request_inj (p : Partition Value) {offset offset' : Nat}
    {event event' : NotificationDeliveryRequestedV1} (h : p.request offset = some event)
    (h' : p.request offset' = some event') (same : event.messageId = event'.messageId) :
    event = event' := by
  obtain ⟨v, at_v, decoded⟩ := Option.bind_eq_some_iff.mp h
  obtain ⟨v', at_v', decoded'⟩ := Option.bind_eq_some_iff.mp h'
  exact p.sameContent v (List.mem_of_getElem? at_v) v' (List.mem_of_getElem? at_v') event event'
    decoded decoded' same

/-- A worker that does not move keeps what it knows while rows are only added
and updated. -/
theorem WorkerOk.grows {p : Partition Value} {s : State} {db : Db} (clock : Int)
    (ok : WorkerOk p s) (grows : Grows s.db db) :
    WorkerOk p { s with db := db, clock := clock } := by
  unfold WorkerOk at ok ⊢
  cases phase : s.phase with
  | down => trivial
  | idle position => rw [phase] at ok; exact ok
  | record offset stop => rw [phase] at ok; exact ok
  | claimed offset stop inboxId event =>
    rw [phase] at ok
    obtain ⟨current, request, row, stored, key⟩ := ok
    obtain ⟨row', stored', consumer, message⟩ := grows.inbox inboxId row stored
    exact ⟨current, request, row', stored', consumer.trans key.1, message.trans key.2⟩
  | accepted offset stop =>
    rw [phase] at ok
    exact ⟨ok.1, fun event request => grows.stored (ok.2 event request)⟩

/-- A refused claim that strands no channel finds the request stored. -/
theorem stored_of_refused {p : Partition Value} {s : State} (inv : Invariant p s)
    {offset stop : Nat} {now : Int} {event : NotificationDeliveryRequestedV1}
    (phase : s.phase = .record offset stop) (request : p.request offset = some event)
    (safe : strandsChannels p s (.claimRequest now) = false) {id : Nat} {row : InboxConsumption}
    (found : inboxByMessage s.db.inbox event.messageId = some (id, row))
    (refused : row.status.terminal = true ∨ leaseLive row now = true) : Stored s.db event := by
  obtain ⟨stored, key⟩ := inboxByMessage_some found
  refine ⟨⟨id, row, stored, key⟩, ?_⟩
  have ok := inv.requests offset event request
  cases finished : row.status.terminal with
  | true => exact ok.together (ok.terminal id row stored key finished)
  | false =>
    have live : leaseLive row now = true := refused.resolve_left (by simp [finished])
    simp only [strandsChannels, phase, request, found, finished, live, Bool.not_false,
      Bool.true_and, List.any_eq_false] at safe
    intro channel mem
    exact hasChannel_iff.mpr (by simpa using safe channel mem)

/-- The first transaction keeps the invariant unless it strands channels. -/
theorem Invariant.claimRequest {p : Partition Value} {s : State} (inv : Invariant p s)
    {offset stop : Nat} {now : Int} (phase : s.phase = .record offset stop)
    (safe : strandsChannels p s (.claimRequest now) = false) :
    Invariant p (Intake.claimRequest p s offset stop now) := by
  have current : offset = s.committedOffset ∧ offset < stop := by
    have ok := inv.worker
    simpa only [WorkerOk, phase] using ok
  unfold Intake.claimRequest
  cases request : p.request offset with
  | none => exact ⟨inv.schema, inv.requests, trivial, inv.covered⟩
  | some event =>
    have claim := claim_cases s.db event 30 now
    refine ⟨claim.schema inv.schema, fun o e h => claim.requestOk (inv.requests o e h), ?_,
      fun o lt e h => claim.grows.stored (inv.covered o lt e h)⟩
    have inboxOf := claim.inboxOf
    dsimp only [WorkerOk]
    generalize claimNotificationRequest s.db event 30 now = result at claim inboxOf
    cases claim with
    | insert row absent key status => exact ⟨current, request, inboxOf⟩
    | reclaim id old row stored key key' status => exact ⟨current, request, inboxOf⟩
    | refuse id row found refused =>
      refine ⟨current, fun event' request' => ?_⟩
      rw [request] at request'
      cases request'
      exact stored_of_refused inv phase request safe found refused

/-- **Every step that strands no channel keeps the invariant.** -/
theorem Invariant.step {p : Partition Value} {s s' : State} {label : Label} (inv : Invariant p s)
    (safe : strandsChannels p s label = false) (step : next p s label = some s') :
    Invariant p s' := by
  have worker := inv.worker
  unfold next at step
  split at step
  · cases step
    exact ⟨inv.schema, inv.requests, rfl, inv.covered⟩
  · rename_i position count phase
    simp only [WorkerOk, phase] at worker
    split at step
    · cases step
      refine ⟨inv.schema, inv.requests, ?_, inv.covered⟩
      by_cases e : count = 0
      · simpa only [WorkerOk, e, if_true] using worker
      · simp only [WorkerOk, e, if_false]
        exact ⟨worker, by omega⟩
    · cases step
  · rename_i offset stop now phase
    split at step
    · cases step
      exact inv.claimRequest phase safe
    · cases step
  · rename_i offset stop inboxId event now phase
    simp only [WorkerOk, phase] at worker
    obtain ⟨current, request, row, stored, key⟩ := worker
    split at step
    · cases step
      refine ⟨inv.schema.addChannelDeliveries stored key.2, fun o e h => ?_, ⟨current, ?_⟩,
        fun o lt e h => grows_addChannelDeliveries.stored (inv.covered o lt e h)⟩
      · exact (inv.requests o e h).addChannelDeliveries (p.request_inj h request)
      · intro event' request'
        rw [request] at request'
        cases request'
        exact ⟨⟨inboxId, row, stored, key⟩, hasChannels_addChannelDeliveries⟩
    · cases step
  · rename_i offset stop phase
    simp only [WorkerOk, phase] at worker
    obtain ⟨current, stored⟩ := worker
    cases step
    refine ⟨inv.schema, inv.requests, ?_, fun o lt e h => ?_⟩
    · by_cases e : offset + 1 < stop
      · simp [WorkerOk, e]
      · simp only [WorkerOk, e, if_false]
        omega
    · rcases Nat.lt_succ_iff_lt_or_eq.mp lt with before | rfl
      · exact inv.covered o (by omega) e h
      · exact stored e h
  · rename_i call
    split at step
    · rename_i enabled
      cases step
      have grows := @grows_apply s.db call
      exact ⟨inv.schema.apply enabled.1,
        fun o e h => (inv.requests o e h).apply inv.schema enabled.1, worker.grows _ grows,
        fun o lt e h => grows.stored (inv.covered o lt e h)⟩
    · cases step
  · cases step
  · cases step
    exact ⟨inv.schema, inv.requests, trivial, inv.covered⟩
  · cases step

/-- The state before the first record: nothing of the partition is stored. -/
structure Started (p : Partition Value) (s : State) : Prop where
  down : s.phase = .down
  nothingCommitted : s.committedOffset = 0
  schema : Schema s.db
  unseen : ∀ offset event, p.request offset = some event →
    ¬ HasInbox s.db event ∧ ¬ HasDelivery s.db event.messageId

theorem Started.invariant {p : Partition Value} {s : State} (started : Started p s) :
    Invariant p s := by
  refine ⟨started.schema, fun o e h => ⟨fun present => ?_, fun id row stored key _ => ?_⟩, ?_, ?_⟩
  · exact absurd present (started.unseen o e h).2
  · exact absurd ⟨id, row, stored, key⟩ (started.unseen o e h).1
  · simp only [WorkerOk, started.down]
  · intro o lt
    rw [started.nothingCommitted] at lt
    exact absurd lt (Nat.not_lt_zero o)

/-- **A committed offset covers stored requests.** In every run none of whose
claims strands channels, with crashes, redeliveries and delivery transactions
at any time, a valid record before the committed offset has one inbox row and
one delivery row for each of its channels. -/
theorem stored_before_committed_offset {p : Partition Value} {start s : State}
    {history : List (State × Label)} (started : Started p start)
    (run : Run (next p) start history s)
    (safe : Along (fun s label => strandsChannels p s label = false) history) {offset : Nat}
    {event : NotificationDeliveryRequestedV1} (covered : offset < s.committedOffset)
    (valid : p.request offset = some event) :
    (∃! id, ∃ row, s.db.inbox.get id = some row ∧ InboxOf row event.messageId) ∧
      ∀ channel ∈ event.channels, ∃! id, ∃ d, s.db.deliveries.get id = some d ∧
        d.messageId = event.messageId ∧ d.channel = channel := by
  have inv : Invariant p s :=
    Run.invariant_of_along started.invariant (fun inv ok step => inv.step ok step) run safe
  obtain ⟨⟨id, row, stored, key⟩, channels⟩ := inv.covered offset covered event valid
  refine ⟨⟨id, ⟨row, stored, key⟩, ?_⟩, fun channel mem => ?_⟩
  · rintro id' ⟨row', stored', key'⟩
    exact inv.schema.inboxUnique id' id row' row stored' stored (key'.1.trans key.1.symm)
      (key'.2.trans key.2.symm)
  · obtain ⟨id, d, stored, message, same⟩ := channels channel mem
    refine ⟨id, ⟨d, stored, message, same⟩, ?_⟩
    rintro id' ⟨d', stored', message', same'⟩
    exact inv.schema.channelUnique id' id d' d stored' stored (message'.trans message.symm)
      (same'.trans same.symm)

/-! ### A crash between the two transactions -/

/-- A partition with the one record of `twoChannelRequest`. -/
def oneRecord : Partition NotificationDeliveryRequestedV1 where
  log := [twoChannelRequest]
  decode := some
  sameContent v mem v' mem' event event' decoded decoded' _ := by
    rw [List.mem_singleton] at mem mem'
    rw [← Option.some.inj decoded, ← Option.some.inj decoded', mem, mem']

def emptyState : State := ⟨⟨.empty, .empty, .empty⟩, 0, 0, .down⟩

theorem started_emptyState : Started oneRecord emptyState where
  down := rfl
  nothingCommitted := rfl
  schema := by
    refine ⟨?_, ?_, ?_⟩
    · intro id id' row row' stored
      cases stored
    · intro id id' d d' stored
      cases stored
    · intro id d stored
      cases stored
  unseen offset event _ := by
    constructor
    · rintro ⟨id, row, stored, -⟩
      cases stored
    · rintro ⟨id, d, stored, -⟩
      cases stored

/-- The worker dies after the inbox claim and comes back at clock time `now`. -/
def crashedIntake (now : Int) (rest : List Label) : List Label :=
  [.start, .poll 1, .claimRequest 0, .crash, .start, .poll 1, .claimRequest now] ++ rest

/-- After the lease the request is claimed again and stored. -/
theorem stored_after_expired_lease :
    ∃ history s, Run (next oneRecord) emptyState history s ∧ s.committedOffset = 1 ∧
      ∀ channel ∈ twoChannelRequest.channels, ∃! id, ∃ d, s.db.deliveries.get id = some d ∧
        d.messageId = twoChannelRequest.messageId ∧ d.channel = channel := by
  obtain ⟨history, run⟩ := run_of_isSome (show (finalState
    (restrict (fun s label => !strandsChannels oneRecord s label) (next oneRecord)) emptyState
    (crashedIntake (seconds 30) [.addDeliveries (seconds 30), .commitOffset])).isSome = true by
      decide)
  obtain ⟨run, safe⟩ := run.of_restrict
  refine ⟨history, _, run, rfl, ?_⟩
  refine (@stored_before_committed_offset _ oneRecord _ _ _ started_emptyState run ?_ 0
    twoChannelRequest (by decide) rfl).2
  exact fun entry mem => by simpa using safe entry mem

/-- **A redelivery within the lease loses the request**: its offset is
committed and none of its channels has a row. -/
theorem request_lost :
    ∃ history s, Run (next oneRecord) emptyState history s ∧ Started oneRecord emptyState ∧
      0 < s.committedOffset ∧ oneRecord.request 0 = some twoChannelRequest ∧
      ∀ channel ∈ twoChannelRequest.channels,
        ¬ ∃ id d, s.db.deliveries.get id = some d ∧
          d.messageId = twoChannelRequest.messageId ∧ d.channel = channel := by
  obtain ⟨history, run⟩ := run_of_isSome (show (finalState (next oneRecord) emptyState
    (crashedIntake (seconds 10) [.commitOffset])).isSome = true by decide)
  refine ⟨history, _, run, started_emptyState, by decide, rfl, ?_⟩
  rintro channel - ⟨id, d, stored, -⟩
  cases stored

end ApiObservatory.Notification.Intake
