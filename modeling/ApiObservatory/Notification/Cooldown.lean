import ApiObservatory.Foundation.Refractory
import ApiObservatory.Foundation.Run
import ApiObservatory.Notification.Requests

/-
Notifications of incidents over runs of the broker mode
(`_notification_due`, `open_or_update_incident`, `enqueue_incident_notification_requests` and
`add_outbox_event`).

A step is one transaction. A trigger opens or updates an incident and enqueues the request of the
transition; it reads the clock once. Incidents are acknowledged and resolved in between. What the
outbox gets and when a trigger notifies is said of the triggers of a run.
-/

namespace ApiObservatory.IncidentNotifications

open Foundation Incidents

variable {Details : Type}

/-! ### Transactions -/

inductive Label (Details : Type) where
  | trigger (source : SourceProfile) (triggerType : TriggerType) (severity summary : String)
      (details : Details) (now : Int)
  | resolveActive (source : SourceProfile) (triggerType : TriggerType) (actor : String) (now : Int)
  | acknowledge (id : Nat) (actor : String) (now : Int)
  | resolve (id : Nat) (actor : String) (now : Int)

/-- The call of a trigger on the stored incidents. -/
def triggerCall (db : IncidentDb Details) (source : SourceProfile) (triggerType : TriggerType)
    (severity summary : String) (details : Details) (now : Int) :
    Rows (DependencyIncident Details) × Option (Nat × IncidentTransition Details) :=
  applyCall source db.incidents (.openOrUpdate triggerType severity summary details now now)

section Transactions

variable (unicode : UnicodeData) (settings : NotificationSettings)

/-- A change of one incident, unless the route refuses it. -/
def changeIncident (db : IncidentDb Details) (id : Nat)
    (change : DependencyIncident Details → Except String (DependencyIncident Details)) :
    Option (IncidentDb Details) :=
  match db.incidents.get id with
  | none => none
  | some row =>
      match change row with
      | .error _ => none
      | .ok changed => some { db with incidents := db.incidents.modify id fun _ => changed }

/-- One transaction; `none` is one that is rolled back. -/
def next (db : IncidentDb Details) : Label Details → Option (IncidentDb Details)
  | .trigger source triggerType severity summary details now =>
      let done := triggerCall db source triggerType severity summary details now
      (enqueueIncidentNotificationRequests unicode settings ⟨done.1, db.outbox⟩
        done.2.toList).toOption
  | .resolveActive source triggerType actor now =>
      let done := applyCall source db.incidents (.resolveActive triggerType actor now)
      (enqueueIncidentNotificationRequests unicode settings ⟨done.1, db.outbox⟩
        done.2.toList).toOption
  | .acknowledge id actor now => changeIncident db id fun row => acknowledgeIncident row actor now
  | .resolve id actor now => changeIncident db id fun row => resolveIncident row actor now

end Transactions

def emptyDb : IncidentDb Details where
  incidents := Rows.empty
  outbox := Rows.empty

/-! ### Triggers of a run -/

abbrev History (Details : Type) := List (IncidentDb Details × Label Details)

/-- The transition of a trigger, under the id of its incident. -/
def triggered (db : IncidentDb Details) : Label Details → Option (Nat × IncidentTransition Details)
  | .trigger source triggerType severity summary details now =>
      (triggerCall db source triggerType severity summary details now).2
  | _ => none

/-- The transitions of the triggers, newest first. -/
def triggers (history : History Details) : List (Nat × IncidentTransition Details) :=
  history.filterMap fun step => triggered step.1 step.2

/-- The transitions of one incident, newest first. -/
def triggersOf (history : History Details) (id : Nat) : List (Nat × IncidentTransition Details) :=
  (triggers history).filter fun entry => entry.1 == id

def notifies (entry : Nat × IncidentTransition Details) : Bool := entry.2.shouldNotify

def seenAt (entry : Nat × IncidentTransition Details) : Int := entry.2.incident.lastSeenAt

def messageId (entry : Nat × IncidentTransition Details) : String :=
  notificationMessageId entry.1 entry.2.incident.occurrenceCount

/-- Each source keeps its cooldown. -/
def FixedCooldown (cooldown : Nat → Int) (history : History Details) : Prop :=
  ∀ db source triggerType severity summary details now,
    (db, Label.trigger source triggerType severity summary details now) ∈ history →
      source.incidentCooldownSeconds = cooldown source.id

/-- The row that carries the request of a transition. -/
def IsRequestRow (channels : List NotificationChannel) (entry : Nat × IncidentTransition Details)
    (row : OutboxEvent NotificationEvent) : Prop :=
  ∃ event : NotificationDeliveryRequestedV1,
    event.toDeliveryRequestFields = requestFields channels entry.1 entry.2.incident ∧
      row = requestRow entry.1 entry.2.incident event

/-- Broker mode with valid channels. -/
structure Delivering (unicode : UnicodeData) (settings : NotificationSettings) : Prop where
  broker : settings.broker = true
  enabled : settings.notificationsEnabled = true
  channels : ValidChannels (configuredNotificationChannels unicode settings)

/-! ### What one transaction does -/

/-- The row of an incident after its transition was enqueued. -/
def settled (transition : IncidentTransition Details) : DependencyIncident Details :=
  if transition.shouldNotify then
    { transition.incident with lastNotificationAt := some transition.incident.lastSeenAt }
  else transition.incident

theorem settled_sourceId (transition : IncidentTransition Details) :
    (settled transition).sourceId = transition.incident.sourceId := by
  unfold settled
  split <;> rfl

theorem settled_activeKey (transition : IncidentTransition Details) :
    (settled transition).activeKey = transition.incident.activeKey := by
  unfold settled
  split <;> rfl

theorem settled_occurrenceCount (transition : IncidentTransition Details) :
    (settled transition).occurrenceCount = transition.incident.occurrenceCount := by
  unfold settled
  split <;> rfl

/-- Where the transition of a trigger comes from. -/
inductive Origin (db : IncidentDb Details) (source : SourceProfile) (triggerType : TriggerType)
    (now : Int) (entry : Nat × IncidentTransition Details) : Prop where
  | opened {severity summary : String} {details : Details}
      (new : entry = (db.incidents.nextId,
        openOrUpdateIncident none source triggerType severity summary details now now))
  | updated {severity summary : String} {details : Details} {row : DependencyIncident Details}
      (stored : db.incidents.get entry.1 = some row)
      (active : row.activeKey = some (fingerprint source triggerType))
      (next : entry.2 =
        openOrUpdateIncident (some row) source triggerType severity summary details now now)

/-- What the transaction of a trigger stores. -/
structure Recorded (channels : List NotificationChannel) (db db' : IncidentDb Details)
    (entry : Nat × IncidentTransition Details) : Prop where
  stored : db'.incidents.get entry.1 = some (settled entry.2)
  others : ∀ id, id ≠ entry.1 → db'.incidents.get id = db.incidents.get id
  nextId : entry.1 < db'.incidents.nextId ∧ db.incidents.nextId ≤ db'.incidents.nextId ∧
    db'.incidents.nextId ≤ db.incidents.nextId + 1
  silent : entry.2.shouldNotify = false → db'.outbox = db.outbox
  request : entry.2.shouldNotify = true → ∃ row, IsRequestRow channels entry row ∧
    db'.outbox = (addOutboxEvent db.outbox row).2

/-- What the other transactions keep of an incident. -/
structure SameNotices (row row' : DependencyIncident Details) : Prop where
  sourceId : row'.sourceId = row.sourceId
  tenantId : row'.tenantId = row.tenantId
  guidance : row'.guidance = row.guidance
  triggerType : row'.triggerType = row.triggerType
  occurrenceCount : row'.occurrenceCount = row.occurrenceCount
  lastNotificationAt : row'.lastNotificationAt = row.lastNotificationAt
  activeKey : row'.activeKey = row.activeKey ∨ row'.activeKey = none

theorem SameNotices.refl (row : DependencyIncident Details) : SameNotices row row :=
  ⟨rfl, rfl, rfl, rfl, rfl, rfl, .inl rfl⟩

/-- A transaction without a trigger. -/
structure Quiet (db db' : IncidentDb Details) : Prop where
  outbox : db'.outbox = db.outbox
  nextId : db'.incidents.nextId = db.incidents.nextId
  rows : ∀ {id row'}, db'.incidents.get id = some row' →
    ∃ row, db.incidents.get id = some row ∧ SameNotices row row'
  kept : ∀ {id row}, db.incidents.get id = some row →
    ∃ row', db'.incidents.get id = some row' ∧ SameNotices row row'

theorem Quiet.refl (db : IncidentDb Details) : Quiet db db where
  outbox := rfl
  nextId := rfl
  rows stored := ⟨_, stored, .refl _⟩
  kept stored := ⟨_, stored, .refl _⟩

theorem quiet_modify {db : IncidentDb Details} {id : Nat} {row changed : DependencyIncident Details}
    (stored : db.incidents.get id = some row) (same : SameNotices row changed) :
    Quiet db { db with incidents := db.incidents.modify id fun _ => changed } where
  outbox := rfl
  nextId := rfl
  rows {i row'} found := by
    by_cases here : i = id
    · subst here
      rw [Rows.get_modify_self, stored] at found
      cases found
      exact ⟨row, stored, same⟩
    · rw [Rows.get_modify_of_ne _ here] at found
      exact ⟨row', found, .refl _⟩
  kept {i row'} found := by
    by_cases here : i = id
    · subst here
      rw [stored] at found
      cases found
      exact ⟨changed, by rw [Rows.get_modify_self, stored]; rfl, same⟩
    · exact ⟨row', by rw [Rows.get_modify_of_ne _ here, found], .refl _⟩

theorem quiet_changeIncident {db db' : IncidentDb Details} {id : Nat}
    {change : DependencyIncident Details → Except String (DependencyIncident Details)}
    (same : ∀ {row changed}, change row = .ok changed → SameNotices row changed)
    (step : changeIncident db id change = some db') : Quiet db db' := by
  unfold changeIncident at step
  split at step
  · cases step
  · rename_i row stored
    split at step
    · cases step
    · rename_i changed done
      cases step
      exact quiet_modify stored (same done)

theorem sameNotices_acknowledge {row changed : DependencyIncident Details} {actor : String}
    {now : Int} (done : acknowledgeIncident row actor now = .ok changed) : SameNotices row changed := by
  unfold acknowledgeIncident at done
  split at done
  · cases done
  · cases done
    exact ⟨rfl, rfl, rfl, rfl, rfl, rfl, .inl rfl⟩

theorem sameNotices_resolve {row changed : DependencyIncident Details} {actor : String}
    {now : Int} (done : resolveIncident row actor now = .ok changed) : SameNotices row changed := by
  unfold resolveIncident at done
  split at done
  · cases done
    exact ⟨rfl, rfl, rfl, rfl, rfl, rfl, .inr rfl⟩
  · cases done

section Step

variable {unicode : UnicodeData} {settings : NotificationSettings} {db db' : IncidentDb Details}

theorem Delivering.some (delivering : Delivering unicode settings) :
    configuredNotificationChannels unicode settings ≠ [] := by
  intro none
  have := delivering.channels.1
  rw [none] at this
  cases this

theorem ok_of_toOption {ε α : Type} {result : Except ε α} {value : α}
    (some : result.toOption = some value) : result = .ok value := by
  cases result with
  | error _ => cases some
  | ok _ =>
    cases some
    rfl

/-- The enqueueing of one transition. -/
theorem recorded_of_enqueue {channels : List NotificationChannel}
    {incidents : Rows (DependencyIncident Details)} {entry : Nat × IncidentTransition Details}
    (stored : incidents.get entry.1 = some entry.2.incident)
    (others : ∀ id, id ≠ entry.1 → incidents.get id = db.incidents.get id)
    (nextId : db.incidents.nextId ≤ incidents.nextId ∧ incidents.nextId ≤ db.incidents.nextId + 1)
    (ran : enqueueRequests channels ⟨incidents, db.outbox⟩ [entry] = .ok db') :
    Recorded channels db db' entry := by
  have fresh : entry.1 < incidents.nextId := Rows.lt_nextId stored
  rcases enqueueRequest_cases channels ⟨incidents, db.outbox⟩ entry with
    ⟨silent, step⟩ | ⟨notify, invalid, step⟩ | ⟨event, notify, fields, step⟩
  · rw [enqueueRequests, step] at ran
    cases ran
    exact
      { stored := by simpa [settled, silent] using stored
        others := others
        nextId := ⟨fresh, nextId⟩
        silent := fun _ => rfl
        request := fun notify => by rw [silent] at notify; cases notify }
  · rw [enqueueRequests, step] at ran
    cases ran
  · rw [enqueueRequests, step] at ran
    cases ran
    exact
      { stored := by simp [IncidentDb.afterRequest, stored, settled, notify]
        others := fun id other => by
          rw [← others id other]
          exact Rows.get_modify_of_ne _ other
        nextId := ⟨fresh, nextId⟩
        silent := fun silent => by rw [silent] at notify; cases notify
        request := fun _ => ⟨_, ⟨event, fields, rfl⟩, rfl⟩ }

/-- The transaction of a trigger. -/
theorem next_trigger (delivering : Delivering unicode settings) {source : SourceProfile}
    {triggerType : TriggerType} {severity summary : String} {details : Details} {now : Int}
    (step : next unicode settings db (.trigger source triggerType severity summary details now) =
      some db') :
    ∃ entry, triggered db (.trigger source triggerType severity summary details now) = some entry ∧
      Origin db source triggerType now entry ∧
      Recorded (configuredNotificationChannels unicode settings) db db' entry := by
  have done := applied source db.incidents (.openOrUpdate triggerType severity summary details now now)
  simp only [next, triggered, triggerCall] at step ⊢
  generalize applyCall source db.incidents
    (.openOrUpdate triggerType severity summary details now now) = result at done step ⊢
  rw [enqueueIncidentNotificationRequests_of_enabled unicode delivering.broker delivering.enabled
    delivering.some] at step
  cases done with
  | opened free =>
    have ran := ok_of_toOption step
    refine ⟨_, rfl, .opened rfl, recorded_of_enqueue ?_ ?_ ?_ ran⟩
    · exact Rows.get_insert_self _ _
    · exact fun id other => Rows.get_insert_of_ne _ other
    · exact ⟨Nat.le_succ _, Nat.le_refl _⟩
  | updated stored active =>
    have ran := ok_of_toOption step
    refine ⟨_, rfl, .updated stored active rfl, recorded_of_enqueue ?_ ?_ ?_ ran⟩
    · rw [Rows.get_modify_self, stored]
      rfl
    · exact fun id other => Rows.get_modify_of_ne _ other
    · exact ⟨Nat.le_refl _, Nat.le_succ _⟩

/-- A transaction of another kind. -/
theorem next_quiet (delivering : Delivering unicode settings) {label : Label Details}
    (step : next unicode settings db label = some db')
    (other : ∀ source triggerType severity summary details now,
      label ≠ .trigger source triggerType severity summary details now) : Quiet db db' := by
  cases label with
  | trigger source triggerType severity summary details now => exact (other _ _ _ _ _ _ rfl).elim
  | resolveActive source triggerType actor now =>
    have done := applied source db.incidents (.resolveActive triggerType actor now)
    simp only [next] at step
    generalize applyCall source db.incidents (.resolveActive triggerType actor now) = result
      at done step
    rw [enqueueIncidentNotificationRequests_of_enabled unicode delivering.broker delivering.enabled
      delivering.some] at step
    have ran := ok_of_toOption step
    cases done with
    | resolved stored resolves =>
      cases resolves
      cases ran
      exact quiet_modify stored ⟨rfl, rfl, rfl, rfl, rfl, rfl, .inr rfl⟩
    | absent =>
      cases ran
      exact .refl db
  | acknowledge id actor now => exact quiet_changeIncident sameNotices_acknowledge step
  | resolve id actor now => exact quiet_changeIncident sameNotices_resolve step

end Step

/-! ### Message ids -/

/-- **A message id** determines its incident and its occurrence. -/
theorem notificationMessageId_inj {id id' count count' : Nat}
    (same : notificationMessageId id count = notificationMessageId id' count') :
    id = id' ∧ count = count' := by
  have parts (id count : Nat) : (notificationMessageId id count).toList =
      "incident:".toList ++ ((Nat.repr id).toList ++
        ':' :: ("notification:".toList ++ (Nat.repr count).toList)) := by
    have text : notificationMessageId id count =
        "incident:" ++ (Nat.repr id ++ (":" ++ ("notification:" ++ Nat.repr count))) := by
      simp only [notificationMessageId, String.append_assoc]
      rfl
    rw [text]
    simp only [String.toList_append]
    rfl
  have lists := congrArg String.toList same
  rw [parts, parts] at lists
  obtain ⟨ids, rest⟩ := upToColon_inj (colon_not_mem_repr id) (colon_not_mem_repr id')
    (List.append_cancel_left lists)
  exact ⟨Nat.repr_injective (String.toList_injective ids),
    Nat.repr_injective (String.toList_injective (List.append_cancel_left rest))⟩

theorem requestKey_inj {id id' count count' : Nat}
    (same : requestKey id count = requestKey id' count') : id = id' ∧ count = count' := by
  have parts (id count : Nat) : (requestKey id count).toList =
      "notification-request:".toList ++ (notificationMessageId id count).toList := by
    have text : requestKey id count =
        "notification-request:" ++ notificationMessageId id count := rfl
    rw [text, String.toList_append]
  have lists := congrArg String.toList same
  rw [parts, parts] at lists
  exact notificationMessageId_inj (String.toList_injective (List.append_cancel_left lists))

/-! ### The invariant -/

/-- The incident and the occurrence of a transition. -/
def occurrence (entry : Nat × IncidentTransition Details) : Nat × Nat :=
  (entry.1, entry.2.incident.occurrenceCount)

/-- The outbox has one row for each transition that notifies, in their order. -/
def Enqueued (channels : List NotificationChannel) (entries : List (Nat × IncidentTransition Details))
    (outbox : Rows (OutboxEvent NotificationEvent)) : Prop :=
  List.Forall₂ (fun entry stored => IsRequestRow channels entry stored.2)
    (entries.filter notifies).reverse outbox.toList

/-- What the tables and the triggers of a run have to do with each other. -/
structure Tracked (channels : List NotificationChannel) (cooldown : Nat → Int)
    (history : History Details) (db : IncidentDb Details) : Prop where
  keyed : ∀ {id row key}, db.incidents.get id = some row → row.activeKey = some key →
    ∃ source triggerType, source.id = row.sourceId ∧ fingerprint source triggerType = key
  notified : ∀ {id row}, db.incidents.get id = some row →
    row.lastNotificationAt = ((triggersOf history id).find? notifies).map seenAt
  known : ∀ entry ∈ triggers history, ∃ row, db.incidents.get entry.1 = some row ∧
    entry.2.incident.occurrenceCount ≤ row.occurrenceCount
  distinct : ((triggers history).map occurrence).Nodup
  refractory : ∀ {id row}, db.incidents.get id = some row →
    Refractory notifies seenAt (seconds (cooldown row.sourceId)) (triggersOf history id)
  enqueued : Enqueued channels (triggers history) db.outbox

theorem tracked_empty (channels : List NotificationChannel) (cooldown : Nat → Int) :
    Tracked channels cooldown [] (emptyDb : IncidentDb Details) where
  keyed stored := nomatch stored
  notified stored := nomatch stored
  known _ mem := nomatch mem
  distinct := .nil
  refractory stored := nomatch stored
  enqueued := .nil

section Keep

variable {channels : List NotificationChannel} {cooldown : Nat → Int} {history : History Details}
  {db db' : IncidentDb Details} {label : Label Details} {entry : Nat × IncidentTransition Details}

theorem triggers_cons_of_none (none : triggered db label = none) :
    triggers ((db, label) :: history) = triggers history := by
  simp [triggers, none]

theorem triggers_cons_of_some (found : triggered db label = some entry) :
    triggers ((db, label) :: history) = entry :: triggers history := by
  simp [triggers, found]

theorem triggersOf_cons_self (found : triggered db label = some entry) :
    triggersOf ((db, label) :: history) entry.1 = entry :: triggersOf history entry.1 := by
  simp [triggersOf, triggers_cons_of_some found]

theorem triggersOf_cons_of_ne (found : triggered db label = some entry) {id : Nat}
    (other : id ≠ entry.1) : triggersOf ((db, label) :: history) id = triggersOf history id := by
  simp [triggersOf, triggers_cons_of_some found, Ne.symm other]

theorem triggersOf_cons_of_none (none : triggered db label = none) (id : Nat) :
    triggersOf ((db, label) :: history) id = triggersOf history id := by
  rw [triggersOf, triggers_cons_of_none none, triggersOf]

/-- A transaction without a trigger changes nothing of it. -/
theorem Tracked.quiet (tracked : Tracked channels cooldown history db) (quiet : Quiet db db')
    (none : triggered db label = none) : Tracked channels cooldown ((db, label) :: history) db' where
  keyed {id row key} stored active := by
    obtain ⟨before, here, same⟩ := quiet.rows stored
    rw [same.sourceId]
    rcases same.activeKey with kept | cleared
    · exact tracked.keyed here (kept ▸ active)
    · rw [cleared] at active
      cases active
  notified {id row} stored := by
    obtain ⟨before, here, same⟩ := quiet.rows stored
    rw [triggersOf_cons_of_none none, same.lastNotificationAt, tracked.notified here]
  known entry mem := by
    rw [triggers_cons_of_none none] at mem
    obtain ⟨row, stored, counted⟩ := tracked.known entry mem
    obtain ⟨after, here, same⟩ := quiet.kept stored
    exact ⟨after, here, same.occurrenceCount ▸ counted⟩
  distinct := by
    rw [triggers_cons_of_none none]
    exact tracked.distinct
  refractory {id row} stored := by
    obtain ⟨before, here, same⟩ := quiet.rows stored
    rw [triggersOf_cons_of_none none, same.sourceId]
    exact tracked.refractory here
  enqueued := by
    rw [triggers_cons_of_none none, quiet.outbox]
    exact tracked.enqueued

/-- Triggers are of stored incidents. -/
theorem Tracked.triggersOf_eq_nil (tracked : Tracked channels cooldown history db) {id : Nat}
    (absent : db.incidents.get id = none) : triggersOf history id = [] := by
  refine List.filter_eq_nil_iff.mpr fun entry mem same => ?_
  obtain ⟨row, stored, -⟩ := tracked.known entry mem
  rw [beq_iff_eq.mp same, absent] at stored
  cases stored

theorem exists_of_forall₂ {α β : Type} {R : α → β → Prop} {xs : List α} {ys : List β}
    (all : List.Forall₂ R xs ys) : ∀ y ∈ ys, ∃ x ∈ xs, R x y := by
  induction all with
  | nil => exact fun _ mem => nomatch mem
  | cons here _ ih =>
    refine List.forall_mem_cons.mpr ⟨⟨_, List.mem_cons_self, here⟩, fun y mem => ?_⟩
    obtain ⟨x, mem, related⟩ := ih y mem
    exact ⟨x, List.mem_cons_of_mem _ mem, related⟩

/-- A new occurrence has its own row. -/
theorem Enqueued.trigger {entries : List (Nat × IncidentTransition Details)}
    (enqueued : Enqueued channels entries db.outbox) (recorded : Recorded channels db db' entry)
    (new : ∀ earlier ∈ entries, occurrence earlier ≠ occurrence entry) :
    Enqueued channels (entry :: entries) db'.outbox := by
  unfold Enqueued at enqueued ⊢
  cases notify : entry.2.shouldNotify with
  | false =>
    rw [recorded.silent notify, List.filter_cons_of_neg (by simp [notifies, notify])]
    exact enqueued
  | true =>
    obtain ⟨row, requests, outbox⟩ := recorded.request notify
    have free : ∀ {id event}, db.outbox.get id = some event →
        event.idempotencyKey ≠ row.idempotencyKey := by
      intro id event stored same
      obtain ⟨earlier, mem, requested⟩ := exists_of_forall₂ enqueued (id, event)
        (Rows.mem_toList.mpr stored)
      obtain ⟨mem, -⟩ := List.mem_filter.mp (List.mem_reverse.mp mem)
      obtain ⟨request, _, rfl⟩ := requests
      obtain ⟨earlierRequest, _, is⟩ := requested
      rw [show event = requestRow _ _ earlierRequest from is] at same
      exact new earlier mem (Prod.ext_iff.mpr (requestKey_inj same))
    rw [outbox, addOutboxEvent_of_free free, Rows.toList_insert,
      List.filter_cons_of_pos (by simp [notifies, notify]), List.reverse_cons]
    exact List.rel_append enqueued (.cons requests .nil)

/-- How the transition of a trigger continues those before it. -/
structure Follows (cooldown : Nat → Int) (history : History Details) (db : IncidentDb Details)
    (entry : Nat × IncidentTransition Details) : Prop where
  keyed : ∀ {key}, entry.2.incident.activeKey = some key →
    ∃ source triggerType, source.id = entry.2.incident.sourceId ∧ fingerprint source triggerType = key
  counted : ∀ {row}, db.incidents.get entry.1 = some row →
    row.occurrenceCount < entry.2.incident.occurrenceCount
  notified : entry.2.shouldNotify = false → entry.2.incident.lastNotificationAt =
    ((triggersOf history entry.1).find? notifies).map seenAt
  due : notifies entry = true ↔ Rested notifies seenAt
    (seconds (cooldown entry.2.incident.sourceId)) (triggersOf history entry.1) (seenAt entry)
  refractory : Refractory notifies seenAt (seconds (cooldown entry.2.incident.sourceId))
    (triggersOf history entry.1)

theorem follows_of_origin {source : SourceProfile} {triggerType : TriggerType} {now : Int}
    (tracked : Tracked channels cooldown history db) (origin : Origin db source triggerType now entry)
    (fixed : source.incidentCooldownSeconds = cooldown source.id) :
    Follows cooldown history db entry := by
  cases origin with
  | opened new =>
    subst new
    have absent : db.incidents.get db.incidents.nextId = none :=
      db.incidents.unused _ (Nat.le_refl _)
    have none := tracked.triggersOf_eq_nil absent
    exact
      { keyed := fun active => ⟨source, triggerType, rfl, Option.some.inj active⟩
        counted := fun stored => by rw [absent] at stored; cases stored
        notified := fun silent => by cases silent
        due := iff_of_true rfl (by rw [none]; exact fun _ mem => nomatch mem)
        refractory := by rw [none]; trivial }
  | @updated severity summary details row stored active next =>
    obtain ⟨origin, trigger, from_, key⟩ := tracked.keyed stored active
    have sourceId : row.sourceId = source.id := from_.symm.trans (fingerprint_id key)
    have notified := tracked.notified stored
    have same : entry.2.incident.sourceId = row.sourceId := by rw [next]; rfl
    refine
      { keyed := fun {key'} active' => ?_
        counted := fun {row'} stored' => ?_
        notified := fun _ => ?_
        due := ?_
        refractory := same ▸ tracked.refractory stored }
    · rw [same]
      rw [next] at active'
      exact tracked.keyed stored active'
    · rw [stored] at stored'
      cases stored'
      rw [next]
      exact Nat.lt_succ_self _
    · rw [next]
      exact notified
    · have decision : notifies entry =
          notificationDue row source.incidentCooldownSeconds now := by
        rw [notifies, next]
        rfl
      have at_ : seenAt entry = now := by rw [seenAt, next]; rfl
      rw [decision, at_, same, sourceId, ← fixed, notificationDue, notified, Rested]
      cases (triggersOf history entry.1).find? notifies with
      | none => exact iff_of_true rfl fun _ mem => nomatch mem
      | some last =>
        rw [Option.map_some, decide_eq_true_iff]
        constructor
        · rintro late _ ⟨⟩
          omega
        · intro late
          have := late last rfl
          omega

/-- The transaction of a trigger keeps the invariant. -/
theorem Tracked.trigger (tracked : Tracked channels cooldown history db)
    (found : triggered db label = some entry) (follows : Follows cooldown history db entry)
    (recorded : Recorded channels db db' entry) :
    Tracked channels cooldown ((db, label) :: history) db' := by
  have new : ∀ earlier ∈ triggers history, occurrence earlier ≠ occurrence entry := by
    intro earlier mem same
    obtain ⟨ids, counts⟩ : earlier.1 = entry.1 ∧ earlier.2.incident.occurrenceCount =
        entry.2.incident.occurrenceCount := Prod.ext_iff.mp same
    obtain ⟨row, stored, counted⟩ := tracked.known earlier mem
    have more := follows.counted (ids ▸ stored)
    omega
  have elsewhere : ∀ {id row}, db'.incidents.get id = some row → id ≠ entry.1 →
      db.incidents.get id = some row := by
    intro id row stored other
    rwa [recorded.others id other] at stored
  have here : ∀ {row}, db'.incidents.get entry.1 = some row → row = settled entry.2 := by
    intro row stored
    rw [recorded.stored] at stored
    exact (Option.some.inj stored).symm
  refine
    { keyed := fun {id row key} stored active => ?_
      notified := fun {id row} stored => ?_
      known := fun earlier mem => ?_
      distinct := ?_
      refractory := fun {id row} stored => ?_
      enqueued := ?_ }
  · by_cases same : id = entry.1
    · subst same
      rw [here stored] at active ⊢
      rw [settled_activeKey] at active
      rw [settled_sourceId]
      exact follows.keyed active
    · exact tracked.keyed (elsewhere stored same) active
  · by_cases same : id = entry.1
    · subst same
      rw [here stored, triggersOf_cons_self found]
      cases notify : entry.2.shouldNotify with
      | false =>
        rw [List.find?_cons_of_neg (by simp [notifies, notify]), ← follows.notified notify]
        simp [settled, notify]
      | true =>
        rw [List.find?_cons_of_pos (by simp [notifies, notify])]
        simp [settled, notify, seenAt]
    · rw [triggersOf_cons_of_ne found same]
      exact tracked.notified (elsewhere stored same)
  · rw [triggers_cons_of_some found] at mem
    rcases List.mem_cons.mp mem with rfl | mem
    · exact ⟨_, recorded.stored, by rw [settled_occurrenceCount]⟩
    · obtain ⟨row, stored, counted⟩ := tracked.known earlier mem
      by_cases same : earlier.1 = entry.1
      · rw [same] at stored ⊢
        refine ⟨_, recorded.stored, ?_⟩
        rw [settled_occurrenceCount]
        exact counted.trans (follows.counted stored).le
      · exact ⟨row, by rw [recorded.others _ same, stored], counted⟩
  · rw [triggers_cons_of_some found, List.map_cons, List.nodup_cons]
    refine ⟨fun mem => ?_, tracked.distinct⟩
    obtain ⟨earlier, mem, same⟩ := List.mem_map.mp mem
    exact new earlier mem same
  · by_cases same : id = entry.1
    · subst same
      rw [here stored, settled_sourceId, triggersOf_cons_self found]
      exact ⟨follows.due, follows.refractory⟩
    · rw [triggersOf_cons_of_ne found same]
      exact tracked.refractory (elsewhere stored same)
  · rw [triggers_cons_of_some found]
    exact tracked.enqueued.trigger recorded new

end Keep

/-! ### Runs -/

section Runs

variable {unicode : UnicodeData} {settings : NotificationSettings} {history : History Details}
  {db db' : IncidentDb Details}

/-- One transaction, of a trigger or of another kind. -/
theorem next_cases (delivering : Delivering unicode settings) {label : Label Details}
    (step : next unicode settings db label = some db') :
    (triggered db label = none ∧ Quiet db db') ∨
    ∃ source triggerType severity summary details now entry,
      label = .trigger source triggerType severity summary details now ∧
      triggered db label = some entry ∧ Origin db source triggerType now entry ∧
      Recorded (configuredNotificationChannels unicode settings) db db' entry := by
  cases label with
  | trigger source triggerType severity summary details now =>
    obtain ⟨entry, found, origin, recorded⟩ := next_trigger delivering step
    exact .inr ⟨source, triggerType, severity, summary, details, now, entry, rfl, found, origin,
      recorded⟩
  | resolveActive => exact .inl ⟨rfl, next_quiet delivering step (by simp)⟩
  | acknowledge => exact .inl ⟨rfl, next_quiet delivering step (by simp)⟩
  | resolve => exact .inl ⟨rfl, next_quiet delivering step (by simp)⟩

/-- The invariant holds of every run with fixed cooldowns. -/
theorem tracked_of_run (delivering : Delivering unicode settings) {cooldown : Nat → Int}
    (run : Run (next unicode settings) emptyDb history db) (fixed : FixedCooldown cooldown history) :
    Tracked (configuredNotificationChannels unicode settings) cooldown history db := by
  induction run with
  | init => exact tracked_empty _ _
  | snoc run step ih =>
    have tracked := ih fun db source triggerType severity summary details now mem =>
      fixed db source triggerType severity summary details now (List.mem_cons_of_mem _ mem)
    rcases next_cases delivering step with ⟨none, quiet⟩ |
      ⟨source, triggerType, severity, summary, details, now, entry, rfl, found, origin, recorded⟩
    · exact tracked.quiet quiet none
    · have cooldown := fixed _ _ _ _ _ _ _ List.mem_cons_self
      exact tracked.trigger found (follows_of_origin tracked origin cooldown) recorded

theorem soundIncident_settled {limit id : Nat} {transition : IncidentTransition Details}
    (sound : SoundIncident limit id transition.incident) :
    SoundIncident limit id (settled transition) := by
  unfold settled
  split
  · exact ⟨sound.id, sound.sourceId, sound.tenantId, sound.occurrenceCount, sound.guidance⟩
  · exact sound

theorem SameNotices.sound {limit id : Nat} {row row' : DependencyIncident Details}
    (same : SameNotices row row') (sound : SoundIncident limit id row) :
    SoundIncident limit id row' where
  id := sound.id
  sourceId := same.sourceId ▸ sound.sourceId
  tenantId := same.tenantId ▸ sound.tenantId
  occurrenceCount := same.occurrenceCount ▸ sound.occurrenceCount
  guidance := by rw [same.guidance, same.triggerType, sound.guidance]

/-- The transition of a trigger that went through. A new incident has passed the contract. -/
theorem soundIncident_of_origin {limit : Nat} {source : SourceProfile} {triggerType : TriggerType}
    {now : Int} {channels : List NotificationChannel} {entry : Nat × IncidentTransition Details}
    (sound : SoundIncidents limit db.incidents) (origin : Origin db source triggerType now entry)
    (recorded : Recorded channels db db' entry) :
    SoundIncident (limit + 1) entry.1 entry.2.incident := by
  cases origin with
  | @opened severity summary details new =>
    subst new
    obtain ⟨row, ⟨event, fields, -⟩, -⟩ := recorded.request rfl
    have valid := event.valid
    rw [fields] at valid
    obtain ⟨-, -, sourceId, tenantId, -⟩ := valid
    exact (soundIncident_openIncident sourceId tenantId sound.nextId triggerType severity summary
      details now).mono (Nat.le_succ limit)
  | @updated severity summary details row stored active next =>
    have before := sound.rows stored
    have count : entry.2.incident.occurrenceCount = row.occurrenceCount + 1 := by
      rw [next]
      rfl
    refine
      { id := ⟨before.id.1, by have := before.id; omega⟩
        sourceId := ?_
        tenantId := ?_
        occurrenceCount := by have := before.occurrenceCount; omega
        guidance := ?_ }
    · rw [next]
      exact before.sourceId
    · rw [next]
      exact before.tenantId
    · rw [next]
      exact before.guidance

/-- The stored incidents of every run. -/
theorem soundIncidents_of_run (delivering : Delivering unicode settings)
    (run : Run (next unicode settings) emptyDb history db) :
    SoundIncidents (history.length + 2) db.incidents := by
  induction run with
  | init => exact ⟨⟨Nat.le_refl 1, Nat.lt_succ_self 1⟩, fun stored => nomatch stored⟩
  | @snoc history db db' label run step sound =>
    rw [List.length_cons, Nat.add_right_comm]
    rcases next_cases delivering step with ⟨-, quiet⟩ |
      ⟨source, triggerType, severity, summary, details, now, entry, rfl, found, origin, recorded⟩
    · refine ⟨by rw [quiet.nextId]; exact (sound.mono (Nat.le_succ _)).nextId, fun stored => ?_⟩
      obtain ⟨before, here, same⟩ := quiet.rows stored
      exact same.sound ((sound.rows here).mono (Nat.le_succ _))
    · refine ⟨by have := sound.nextId; have := recorded.nextId; omega, fun {id row} stored => ?_⟩
      by_cases same : id = entry.1
      · subst same
        rw [recorded.stored] at stored
        cases stored
        exact soundIncident_settled (soundIncident_of_origin sound origin recorded)
      · rw [recorded.others id same] at stored
        exact (sound.rows stored).mono (Nat.le_succ _)

/-- A trigger within the bounds of the contract goes through. -/
theorem next_trigger_goes_through (delivering : Delivering unicode settings) {limit : Nat}
    (sound : SoundIncidents limit db.incidents) (small : limit < 10 ^ 100) {source : SourceProfile}
    (id : 1 ≤ source.id) (tenantId : PositiveOrNone source.tenantId) (triggerType : TriggerType)
    {severity summary : String} (severe : LengthBetween 1 32 severity)
    (summed : LengthBetween 1 1024 summary) (details : Details) (now : Int) :
    ∃ db', next unicode settings db
      (.trigger source triggerType severity summary details now) = some db' := by
  let call : Call Details := .openOrUpdate triggerType severity summary details now now
  have fits : CallFits call := ⟨severe, summed⟩
  have handed := (applyCall_sound id tenantId sound fits).2
  have valid : ∀ entry ∈ (applyCall source db.incidents call).2.toList,
      entry.2.shouldNotify = true →
        (requestFields (configuredNotificationChannels unicode settings) entry.1
          entry.2.incident).Valid := by
    intro entry mem notify
    exact (requestFields_valid_iff (handed entry (Option.mem_toList.mp mem) notify) small).mpr
      delivering.channels
  have goes : ∃ done, enqueueRequests (configuredNotificationChannels unicode settings)
      ⟨(applyCall source db.incidents call).1, db.outbox⟩
      (applyCall source db.incidents call).2.toList = .ok done :=
    enqueueRequests_ok_iff.mpr valid
  obtain ⟨done, ran⟩ := goes
  refine ⟨done, ?_⟩
  simp only [next, triggerCall]
  rw [enqueueIncidentNotificationRequests_of_enabled unicode delivering.broker delivering.enabled
    delivering.some]
  exact congrArg Except.toOption ran

/-- The cooldown law for the triggers of an incident, newest first. -/
structure KeepsCooldown (gap : Int) (entries : List (Nat × IncidentTransition Details)) : Prop where
  first : ∀ entry ∈ entries.getLast?, notifies entry = true
  apart : (entries.filter notifies).IsChain fun later earlier => seenAt earlier + gap ≤ seenAt later
  due : ∀ later entry earlier, entries = later ++ entry :: earlier →
    Rested notifies seenAt gap earlier (seenAt entry) → notifies entry = true

/-- **Notifications in broker mode.** Along every run the outbox has one request for each transition
that notifies and no other row, the triggers of each incident keep its cooldown, and no two
notified occurrences share a message id. A trigger within the contract goes through. -/
theorem notifications_keep_cooldown (delivering : Delivering unicode settings)
    {cooldown : Nat → Int} (run : Run (next unicode settings) emptyDb history db)
    (fixed : FixedCooldown cooldown history) :
    Enqueued (configuredNotificationChannels unicode settings) (triggers history) db.outbox ∧
    (((triggers history).filter notifies).map messageId).Nodup ∧
    (∀ id row, db.incidents.get id = some row →
      KeepsCooldown (seconds (cooldown row.sourceId)) (triggersOf history id)) ∧
    (history.length < 10 ^ 99 → ∀ source triggerType severity summary (details : Details) now,
      1 ≤ source.id → PositiveOrNone source.tenantId → LengthBetween 1 32 severity →
        LengthBetween 1 1024 summary →
          ∃ db', next unicode settings db
            (.trigger source triggerType severity summary details now) = some db') := by
  have tracked := tracked_of_run delivering run fixed
  have sound := soundIncidents_of_run delivering run
  refine ⟨tracked.enqueued, ?_, fun id row stored => ?_, ?_⟩
  · have distinct : (((triggers history).filter notifies).map occurrence).Nodup :=
      (List.filter_sublist.map occurrence).nodup tracked.distinct
    rw [List.Nodup, List.pairwise_map] at distinct ⊢
    exact distinct.imp fun different same =>
      different (Prod.ext_iff.mpr (notificationMessageId_inj same))
  · have law := tracked.refractory stored
    exact ⟨law.first, law.apart, fun _ _ _ split rested => law.due split rested⟩
  · intro short source triggerType severity summary details now id tenantId severe summed
    have small : 10 ^ 99 + 2 < 10 ^ 100 := by decide
    exact next_trigger_goes_through delivering sound (by omega) id tenantId triggerType severe
      summed details now

end Runs

/-! ### Three failures within a cooldown -/

def slackOnly : NotificationSettings where
  broker := true
  notificationsEnabled := true
  notificationDefaultChannels := "slack"

theorem slackOnly_delivering : Delivering asciiLower slackOnly where
  broker := rfl
  enabled := rfl
  channels := by decide

def weatherSource : SourceProfile where
  id := 1
  name := "weather"
  baseUrl := "https://weather.example.com"
  tenantId := some 1

/-- A failure of the source at a time in microseconds. -/
def failureAt (now : Int) : Label Unit :=
  .trigger weatherSource .availability "critical" "2 consecutive probes failed for weather." () now

/-- The second failure is within the cooldown of 900 seconds, the third one is not. -/
def threeFailures : List (Label Unit) :=
  [failureAt 0, failureAt (seconds 300), failureAt (seconds 900)]

/-- A failure goes through after one or two others. -/
theorem failureAt_goes_through {history : History Unit} {db : IncidentDb Unit}
    (run : Run (next asciiLower slackOnly) emptyDb history db) (short : history.length ≤ 2)
    (now : Int) : ∃ db', next asciiLower slackOnly db (failureAt now) = some db' := by
  have small : 4 < 10 ^ 100 := by decide
  exact next_trigger_goes_through slackOnly_delivering
    (soundIncidents_of_run slackOnly_delivering run) (by omega) (by decide) (by decide) .availability
    (by decide) (by decide) () now

theorem threeFailures_keep_cooldown :
    ∃ history db, Run (next asciiLower slackOnly) emptyDb history db ∧
      history.map Prod.snd = threeFailures.reverse ∧
      Enqueued (configuredNotificationChannels asciiLower slackOnly) (triggers history) db.outbox := by
  obtain ⟨first, step⟩ := failureAt_goes_through .init (Nat.zero_le 2) 0
  have run := Run.init.snoc step
  obtain ⟨second, step'⟩ := failureAt_goes_through run (Nat.le_succ 1) (seconds 300)
  have run := run.snoc step'
  obtain ⟨third, step''⟩ := failureAt_goes_through run (Nat.le_refl 2) (seconds 900)
  have run := run.snoc step''
  have fixed : FixedCooldown (fun _ => 900)
      [(second, failureAt (seconds 900)), (first, failureAt (seconds 300)), (emptyDb, failureAt 0)] := by
    intro db source triggerType severity summary details now mem
    simp only [failureAt, List.mem_cons, Prod.mk.injEq, Label.trigger.injEq, List.not_mem_nil,
      or_false] at mem
    rcases mem with ⟨-, rfl, -⟩ | ⟨-, rfl, -⟩ | ⟨-, rfl, -⟩
    · rfl
    · rfl
    · rfl
  exact ⟨_, third, run, rfl, (notifications_keep_cooldown slackOnly_delivering run fixed).1⟩

end ApiObservatory.IncidentNotifications
