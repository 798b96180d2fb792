import ApiObservatory.Health.Reconcile
import ApiObservatory.Platform.Urls
import ApiObservatory.Repositories.Messaging

/-
Notification requests of incident transitions in broker mode
(`services/ingestor/core/incident_notifications.py`), and the setting that names their channels
(`services/ingestor/notifications.py`).

The requests are added in the transaction of the incidents. An error of the contract model rolls it
back as a whole.
-/

namespace ApiObservatory.IncidentNotifications

open Foundation Incidents

variable {Details : Type}

/-! ### Channels -/

structure NotificationSettings where
  /-- `notification_delivery_mode` is `broker`. -/
  broker : Bool
  notificationsEnabled : Bool
  notificationDefaultChannels : String
deriving DecidableEq

/-- The name of a channel. -/
def channelName : NotificationChannel → String
  | .slack => "slack"
  | .telegram => "telegram"
  | .webhook => "webhook"
  | .email => "email"

/-- The valid channel of a name. -/
def channelNamed (name : List Char) : Option NotificationChannel :=
  [.slack, .telegram, .webhook, .email].find? fun channel => (channelName channel).toList == name

section Channels

variable (unicode : UnicodeData)

/-- `_parse_channels`: what is no channel is left out. -/
def parseChannels (raw : String) : List NotificationChannel :=
  let values := ((raw.toList.splitOn ',').filter fun v => strip v != "").map fun v =>
    unicode.lower (strip v).toList
  values.filterMap channelNamed

/-- `configured_notification_channels`. -/
def configuredNotificationChannels (settings : NotificationSettings) : List NotificationChannel :=
  parseChannels unicode settings.notificationDefaultChannels

end Channels

/-- `str.lower` on ASCII texts. -/
def asciiLower : UnicodeData where
  normalize := id
  lower := List.map Char.toLower

/-! ### Requests -/

/-- The incidents and the outbox of one transaction. -/
structure IncidentDb (Details : Type) where
  incidents : Rows (DependencyIncident Details)
  outbox : Rows (OutboxEvent NotificationEvent)

/-- What the enqueueing raises. -/
inductive EnqueueError where
  | value (text : String)
  /-- The `ValidationError` of a contract model. -/
  | validation
deriving DecidableEq

/-- `_notification_message_id`. -/
def notificationMessageId (incidentId occurrenceCount : Nat) : String :=
  s!"incident:{incidentId}:notification:{occurrenceCount}"

def requestKey (incidentId occurrenceCount : Nat) : String :=
  s!"notification-request:{notificationMessageId incidentId occurrenceCount}"

/-- The trigger type of the contract. -/
def contractTrigger : TriggerType → NotificationTriggerType
  | .availability => .availability
  | .latency => .latency
  | .drift => .drift

/-- The fields of the request for an incident. -/
def requestFields (channels : List NotificationChannel) (incidentId : Nat)
    (incident : DependencyIncident Details) : DeliveryRequestFields where
  messageId := notificationMessageId incidentId incident.occurrenceCount
  occurredAt := incident.lastSeenAt
  incidentId
  sourceId := incident.sourceId
  tenantId := incident.tenantId
  severity := incident.severity
  summary := incident.summary
  triggerType := contractTrigger incident.triggerType
  occurrenceCount := incident.occurrenceCount
  guidance := incident.guidance
  channels

/-- The outbox row of a request. -/
def requestRow (incidentId : Nat) (incident : DependencyIncident Details)
    (event : NotificationDeliveryRequestedV1) : OutboxEvent NotificationEvent where
  aggregateType := "dependency_incident"
  aggregateId := toString incidentId
  eventType := eventNotificationDeliveryRequestedV1
  payload := .deliveryRequested event
  idempotencyKey := requestKey incidentId incident.occurrenceCount
  tenantId := incident.tenantId

/-- The body of the loop over the transitions. -/
def enqueueRequest (channels : List NotificationChannel) (db : IncidentDb Details)
    (entry : Nat × IncidentTransition Details) : Except EnqueueError (IncidentDb Details) :=
  if entry.2.shouldNotify then
    match NotificationDeliveryRequestedV1.validate (requestFields channels entry.1 entry.2.incident) with
    | none => .error .validation
    | some event =>
        .ok
          { incidents := db.incidents.modify entry.1 fun incident =>
              { incident with lastNotificationAt := some incident.lastSeenAt }
            outbox := (addOutboxEvent db.outbox (requestRow entry.1 entry.2.incident event)).2 }
  else .ok db

/-- The loop over the transitions. -/
def enqueueRequests (channels : List NotificationChannel) :
    IncidentDb Details → List (Nat × IncidentTransition Details) →
      Except EnqueueError (IncidentDb Details)
  | db, [] => .ok db
  | db, entry :: rest =>
      match enqueueRequest channels db entry with
      | .error error => .error error
      | .ok db => enqueueRequests channels db rest

/-- `enqueue_incident_notification_requests`. -/
def enqueueIncidentNotificationRequests (unicode : UnicodeData) (settings : NotificationSettings)
    (db : IncidentDb Details) (transitions : List (Nat × IncidentTransition Details)) :
    Except EnqueueError (IncidentDb Details) :=
  if ¬ settings.broker ∨ ¬ settings.notificationsEnabled then .ok db
  else
    let channels := configuredNotificationChannels unicode settings
    if channels = [] then
      .error (.value "Broker notification delivery requires at least one valid default channel.")
    else enqueueRequests channels db transitions

/-! ### Transitions -/

/-- The `SELECT` by `active_key`. -/
def activeIncident (incidents : Rows (DependencyIncident Details)) (key : String) :
    Option (Nat × DependencyIncident Details) :=
  (incidents.select fun _ row => row.activeKey == some key).head?

/-- One call on the stored incidents, with its transition under the id of the incident. -/
def applyCall (source : SourceProfile) (incidents : Rows (DependencyIncident Details))
    (call : Call Details) :
    Rows (DependencyIncident Details) × Option (Nat × IncidentTransition Details) :=
  let found := activeIncident incidents (fingerprint source call.triggerType)
  match call with
  | .openOrUpdate triggerType severity summary details now checkedAt =>
      let done := openOrUpdateIncident (found.map Prod.snd) source triggerType severity summary
        details now checkedAt
      match found with
      | none => (incidents.insert done.incident, some (incidents.nextId, done))
      | some (id, _) => (incidents.modify id fun _ => done.incident, some (id, done))
  | .resolveActive _ actor now =>
      match found, resolveActiveIncident (found.map Prod.snd) actor now with
      | some (id, _), some done => (incidents.modify id fun _ => done.incident, some (id, done))
      | _, _ => (incidents, none)

/-- The calls one after another, with the transitions they return. -/
def applyCalls (source : SourceProfile) :
    List (Call Details) → Rows (DependencyIncident Details) →
      Rows (DependencyIncident Details) × List (Nat × IncidentTransition Details)
  | [], incidents => (incidents, [])
  | call :: rest, incidents =>
      let (incidents, transition) := applyCall source incidents call
      let (incidents, transitions) := applyCalls source rest incidents
      (incidents, transition.toList ++ transitions)

theorem activeIncident_eq_none {incidents : Rows (DependencyIncident Details)} {key : String}
    (absent : activeIncident incidents key = none) {id : Nat} {row : DependencyIncident Details}
    (stored : incidents.get id = some row) : row.activeKey ≠ some key := by
  intro keyed
  have mem : (id, row) ∈ incidents.select fun _ row => row.activeKey == some key :=
    Rows.mem_select.mpr ⟨stored, beq_iff_eq.mpr keyed⟩
  rw [List.head?_eq_none_iff.mp absent] at mem
  cases mem

theorem activeIncident_eq_some {incidents : Rows (DependencyIncident Details)} {key : String}
    {id : Nat} {row : DependencyIncident Details}
    (found : activeIncident incidents key = some (id, row)) :
    incidents.get id = some row ∧ row.activeKey = some key := by
  obtain ⟨stored, active⟩ := Rows.mem_select.mp (List.mem_of_head? found)
  exact ⟨stored, beq_iff_eq.mp active⟩

/-- What one call does. -/
inductive Applied (source : SourceProfile) (incidents : Rows (DependencyIncident Details)) :
    Call Details →
      Rows (DependencyIncident Details) × Option (Nat × IncidentTransition Details) → Prop where
  | opened {triggerType : TriggerType} {severity summary : String} {details : Details}
      {now checkedAt : Int}
      (free : ∀ id row, incidents.get id = some row →
        row.activeKey ≠ some (fingerprint source triggerType)) :
      Applied source incidents (.openOrUpdate triggerType severity summary details now checkedAt)
        (incidents.insert (openIncident source triggerType severity summary details now),
          some (incidents.nextId,
            openOrUpdateIncident none source triggerType severity summary details now checkedAt))
  | updated {triggerType : TriggerType} {severity summary : String} {details : Details}
      {now checkedAt : Int} {id : Nat} {row : DependencyIncident Details}
      (stored : incidents.get id = some row)
      (active : row.activeKey = some (fingerprint source triggerType)) :
      Applied source incidents (.openOrUpdate triggerType severity summary details now checkedAt)
        (incidents.modify id fun _ =>
            (openOrUpdateIncident (some row) source triggerType severity summary details now
              checkedAt).incident,
          some (id, openOrUpdateIncident (some row) source triggerType severity summary details now
            checkedAt))
  | resolved {triggerType : TriggerType} {actor : String} {now : Int} {id : Nat}
      {row : DependencyIncident Details} {done : IncidentTransition Details}
      (stored : incidents.get id = some row)
      (resolves : resolveActiveIncident (some row) actor now = some done) :
      Applied source incidents (.resolveActive triggerType actor now)
        (incidents.modify id fun _ => done.incident, some (id, done))
  | absent {triggerType : TriggerType} {actor : String} {now : Int} :
      Applied source incidents (.resolveActive triggerType actor now) (incidents, none)

theorem applied (source : SourceProfile) (incidents : Rows (DependencyIncident Details))
    (call : Call Details) : Applied source incidents call (applyCall source incidents call) := by
  cases found : activeIncident incidents (fingerprint source call.triggerType) with
  | none =>
    cases call with
    | openOrUpdate triggerType severity summary details now checkedAt =>
      simp only [applyCall, found]
      exact .opened fun id row stored => activeIncident_eq_none found stored
    | resolveActive triggerType actor now =>
      simp only [applyCall, found]
      exact .absent
  | some entry =>
    obtain ⟨stored, active⟩ := activeIncident_eq_some found
    cases call with
    | openOrUpdate triggerType severity summary details now checkedAt =>
      simp only [applyCall, found]
      exact .updated stored active
    | resolveActive triggerType actor now =>
      simp only [applyCall, found]
      exact .resolved stored rfl

/-- The calls are those of a health sample, which has no use for the ids. -/
theorem applyCall_health (source : SourceProfile) (incidents : Rows Health.Incident)
    (call : Call Health.HealthDetails) :
    Health.applyCall source incidents call =
      ((applyCall source incidents call).1, (applyCall source incidents call).2.map Prod.snd) := by
  simp only [Health.applyCall, applyCall, Health.activeIncident, activeIncident]
  generalize (incidents.select _).head? = found
  cases call with
  | openOrUpdate triggerType severity summary details now checkedAt =>
    cases found with
    | none => rfl
    | some entry => rfl
  | resolveActive triggerType actor now =>
    cases found with
    | none => rfl
    | some entry => rfl

theorem applyCalls_health (source : SourceProfile) (calls : List (Call Health.HealthDetails))
    (incidents : Rows Health.Incident) :
    Health.applyCalls source calls incidents =
      ((applyCalls source calls incidents).1, (applyCalls source calls incidents).2.map Prod.snd) := by
  induction calls generalizing incidents with
  | nil => rfl
  | cons call rest ih =>
    simp only [Health.applyCalls, applyCalls, applyCall_health, ih, List.map_append]
    cases (applyCall source incidents call).2 <;> rfl

/-! ### Requests within the contract -/

/-- The channels are what the contract asks of them. -/
def ValidChannels (channels : List NotificationChannel) : Prop :=
  1 ≤ channels.length ∧ channels.length ≤ 4 ∧ channels.Nodup

instance (channels : List NotificationChannel) : Decidable (ValidChannels channels) := by
  unfold ValidChannels; infer_instance

/-- An incident of the table. The primary key and the count are integers below `limit`. -/
structure SoundIncident (limit id : Nat) (incident : DependencyIncident Details) : Prop where
  id : 1 ≤ id ∧ id < limit
  sourceId : 1 ≤ incident.sourceId
  tenantId : PositiveOrNone incident.tenantId
  occurrenceCount : 1 ≤ incident.occurrenceCount ∧ incident.occurrenceCount < limit
  guidance : incident.guidance = guidance incident.triggerType

structure SoundIncidents (limit : Nat) (incidents : Rows (DependencyIncident Details)) : Prop where
  nextId : 1 ≤ incidents.nextId ∧ incidents.nextId < limit
  rows : ∀ {id incident}, incidents.get id = some incident → SoundIncident limit id incident

/-- The severity and the summary of a call are within the bounds of the contract. -/
def CallFits : Call Details → Prop
  | .openOrUpdate _ severity summary _ _ _ =>
      LengthBetween 1 32 severity ∧ LengthBetween 1 1024 summary
  | .resolveActive _ _ _ => True

/-- A transition whose request the contract takes, but for the channels. -/
structure Deliverable (limit : Nat) (entry : Nat × IncidentTransition Details) : Prop where
  incident : SoundIncident limit entry.1 entry.2.incident
  severity : LengthBetween 1 32 entry.2.incident.severity
  summary : LengthBetween 1 1024 entry.2.incident.summary

theorem SoundIncident.mono {limit limit' id : Nat} {incident : DependencyIncident Details}
    (sound : SoundIncident limit id incident) (le : limit ≤ limit') :
    SoundIncident limit' id incident :=
  { sound with
    id := ⟨sound.id.1, by have := sound.id; omega⟩
    occurrenceCount := ⟨sound.occurrenceCount.1, by have := sound.occurrenceCount; omega⟩ }

theorem soundIncident_openIncident {limit : Nat} {source : SourceProfile}
    (id : 1 ≤ source.id) (tenantId : PositiveOrNone source.tenantId) {newId : Nat}
    (fresh : 1 ≤ newId ∧ newId < limit) (triggerType : TriggerType) (severity summary : String)
    (details : Details) (now : Int) :
    SoundIncident limit newId (openIncident source triggerType severity summary details now) where
  id := fresh
  sourceId := id
  tenantId := tenantId
  occurrenceCount := ⟨Nat.le_refl 1, Nat.lt_of_le_of_lt fresh.1 fresh.2⟩
  guidance := rfl

theorem SoundIncidents.mono {limit limit' : Nat} {incidents : Rows (DependencyIncident Details)}
    (sound : SoundIncidents limit incidents) (le : limit ≤ limit') :
    SoundIncidents limit' incidents where
  nextId := ⟨sound.nextId.1, Nat.lt_of_lt_of_le sound.nextId.2 le⟩
  rows stored := (sound.rows stored).mono le

theorem SoundIncidents.insert {limit : Nat} {incidents : Rows (DependencyIncident Details)}
    (sound : SoundIncidents limit incidents) {incident : DependencyIncident Details}
    (new : SoundIncident limit incidents.nextId incident) :
    SoundIncidents (limit + 1) (incidents.insert incident) where
  nextId := by
    have := sound.nextId
    rw [Rows.nextId_insert]
    omega
  rows {id row} stored := by
    rcases Rows.get_insert_cases stored with ⟨rfl, rfl⟩ | ⟨-, stored⟩
    · exact new.mono (by omega)
    · exact (sound.rows stored).mono (by omega)

theorem SoundIncidents.modify {limit id : Nat} {incidents : Rows (DependencyIncident Details)}
    (sound : SoundIncidents limit incidents)
    {change : DependencyIncident Details → DependencyIncident Details}
    (changed : ∀ {row}, incidents.get id = some row → SoundIncident limit id (change row)) :
    SoundIncidents limit (incidents.modify id change) where
  nextId := sound.nextId
  rows {i row} stored := by
    by_cases same : i = id
    · subst same
      rw [Rows.get_modify_self] at stored
      obtain ⟨old, here, rfl⟩ := Option.map_eq_some_iff.mp stored
      exact changed here
    · rw [Rows.get_modify_of_ne _ same] at stored
      exact sound.rows stored

/-- What one call leaves and hands over. -/
theorem applyCall_sound {limit : Nat} {source : SourceProfile}
    {incidents : Rows (DependencyIncident Details)} (id : 1 ≤ source.id)
    (tenantId : PositiveOrNone source.tenantId) (sound : SoundIncidents limit incidents)
    {call : Call Details} (fits : CallFits call) :
    SoundIncidents (limit + 1) (applyCall source incidents call).1 ∧
      ∀ entry ∈ (applyCall source incidents call).2, entry.2.shouldNotify = true →
        Deliverable (limit + 1) entry := by
  have done := applied source incidents call
  generalize applyCall source incidents call = result at done ⊢
  cases done with
  | @opened triggerType severity summary details now checkedAt free =>
    have new := soundIncident_openIncident id tenantId sound.nextId triggerType severity summary
      details now
    refine ⟨sound.insert new, fun entry mem _ => ?_⟩
    cases mem
    exact ⟨new.mono (by omega), fits.1, fits.2⟩
  | @updated triggerType severity summary details now checkedAt id row stored active =>
    have before := (sound.rows stored).mono (by omega : limit ≤ limit + 1)
    have after : SoundIncident (limit + 1) id (openOrUpdateIncident (some row) source triggerType
        severity summary details now checkedAt).incident :=
      { id := before.id
        sourceId := before.sourceId
        tenantId := before.tenantId
        occurrenceCount := ⟨Nat.succ_pos _, Nat.succ_lt_succ (sound.rows stored).occurrenceCount.2⟩
        guidance := before.guidance }
    refine ⟨(sound.mono (by omega)).modify fun _ => after, fun entry mem _ => ?_⟩
    cases mem
    exact ⟨after, fits.1, fits.2⟩
  | @resolved triggerType actor now id row done stored resolves =>
    have before := (sound.rows stored).mono (by omega : limit ≤ limit + 1)
    cases resolves
    refine ⟨(sound.mono (by omega)).modify fun _ => ⟨before.id, before.sourceId, before.tenantId,
      before.occurrenceCount, before.guidance⟩, fun entry mem notify => ?_⟩
    cases mem
    cases notify
  | absent => exact ⟨sound.mono (by omega), fun _ mem => nomatch mem⟩

/-- What the calls hand over. -/
theorem applyCalls_deliverable {source : SourceProfile} (id : 1 ≤ source.id)
    (tenantId : PositiveOrNone source.tenantId) {calls : List (Call Details)}
    (fit : ∀ call ∈ calls, CallFits call) {limit : Nat}
    {incidents : Rows (DependencyIncident Details)} (sound : SoundIncidents limit incidents) :
    ∀ entry ∈ (applyCalls source calls incidents).2, entry.2.shouldNotify = true →
      Deliverable (limit + calls.length) entry := by
  induction calls generalizing incidents limit with
  | nil => exact fun _ mem => nomatch mem
  | cons call rest ih =>
    obtain ⟨here, later⟩ := List.forall_mem_cons.mp fit
    obtain ⟨kept, handed⟩ := applyCall_sound id tenantId sound here
    intro entry mem notify
    simp only [applyCalls, List.mem_append, Option.mem_toList] at mem
    rw [List.length_cons]
    rcases mem with mem | mem
    · have deliverable := handed entry mem notify
      exact ⟨deliverable.incident.mono (by omega), deliverable.severity, deliverable.summary⟩
    · have deliverable := ih later kept entry mem notify
      rwa [show limit + 1 + rest.length = limit + (rest.length + 1) by omega] at deliverable

theorem length_notificationMessageId (incidentId occurrenceCount : Nat) :
    (notificationMessageId incidentId occurrenceCount).length =
      23 + (Nat.repr incidentId).length + (Nat.repr occurrenceCount).length := by
  have parts : notificationMessageId incidentId occurrenceCount =
      "incident:" ++ Nat.repr incidentId ++ ":notification:" ++ Nat.repr occurrenceCount := rfl
  rw [parts]
  simp only [String.length_append]
  rw [show "incident:".length = 9 from rfl, show ":notification:".length = 14 from rfl]
  omega

theorem lengthBetween_append {a b : String} (first : LengthBetween 1 1024 a)
    (second : LengthBetween 1 1024 b) : LengthBetween 1 2048 (a ++ b) := by
  unfold LengthBetween at first second ⊢
  rw [String.length_append]
  omega

theorem length_guidance (triggerType : TriggerType) : LengthBetween 1 2048 (guidance triggerType) := by
  cases triggerType with
  | availability => exact lengthBetween_append (by decide +kernel) (by decide +kernel)
  | latency => exact lengthBetween_append (by decide +kernel) (by decide +kernel)
  | drift => exact lengthBetween_append (by decide +kernel) (by decide +kernel)

/-- **The request of a deliverable transition** is valid when its channels are. -/
theorem requestFields_valid_iff {limit : Nat} {entry : Nat × IncidentTransition Details}
    (deliverable : Deliverable limit entry) (small : limit ≤ 10 ^ 100)
    {channels : List NotificationChannel} :
    (requestFields channels entry.1 entry.2.incident).Valid ↔ ValidChannels channels := by
  obtain ⟨sound, severity, summary⟩ := deliverable
  have digits : ∀ n < limit, (Nat.repr n).length ≤ 100 := fun n below =>
    (Nat.length_repr_le_iff (by decide)).mpr (Nat.lt_of_lt_of_le below small)
  have messageId : LengthBetween 1 255
      (notificationMessageId entry.1 entry.2.incident.occurrenceCount) := by
    have := digits _ sound.id.2
    have := digits _ sound.occurrenceCount.2
    unfold LengthBetween
    rw [length_notificationMessageId]
    omega
  have guided : LengthBetween 1 2048 entry.2.incident.guidance :=
    sound.guidance ▸ length_guidance _
  constructor
  · rintro ⟨-, -, -, -, -, -, -, -, some, few, distinct⟩
    exact ⟨some, few, distinct⟩
  · rintro ⟨some, few, distinct⟩
    exact ⟨messageId, sound.id.1, sound.sourceId, sound.tenantId, severity, summary,
      sound.occurrenceCount.1, guided, some, few, distinct⟩

/-! ### The loop over the transitions -/

section Loop

variable {channels : List NotificationChannel} {db done : IncidentDb Details}
  {entry : Nat × IncidentTransition Details} {entries : List (Nat × IncidentTransition Details)}

/-- The database after the request of a transition. -/
def IncidentDb.afterRequest (db : IncidentDb Details) (incidentId : Nat)
    (incident : DependencyIncident Details) (event : NotificationDeliveryRequestedV1) :
    IncidentDb Details where
  incidents := db.incidents.modify incidentId fun incident =>
    { incident with lastNotificationAt := some incident.lastSeenAt }
  outbox := (addOutboxEvent db.outbox (requestRow incidentId incident event)).2

/-- The loop body in its three cases. -/
theorem enqueueRequest_cases (channels : List NotificationChannel) (db : IncidentDb Details)
    (entry : Nat × IncidentTransition Details) :
    (entry.2.shouldNotify = false ∧ enqueueRequest channels db entry = .ok db) ∨
    (entry.2.shouldNotify = true ∧ ¬ (requestFields channels entry.1 entry.2.incident).Valid ∧
      enqueueRequest channels db entry = .error .validation) ∨
    ∃ event : NotificationDeliveryRequestedV1, entry.2.shouldNotify = true ∧
      event.toDeliveryRequestFields = requestFields channels entry.1 entry.2.incident ∧
      enqueueRequest channels db entry = .ok (db.afterRequest entry.1 entry.2.incident event) := by
  cases notify : entry.2.shouldNotify with
  | false => exact .inl ⟨rfl, by simp [enqueueRequest, notify]⟩
  | true =>
    by_cases valid : (requestFields channels entry.1 entry.2.incident).Valid
    · refine .inr (.inr ⟨⟨_, valid⟩, rfl, rfl, ?_⟩)
      simp [enqueueRequest, notify, NotificationDeliveryRequestedV1.validate, valid,
        IncidentDb.afterRequest]
    · refine .inr (.inl ⟨rfl, valid, ?_⟩)
      simp [enqueueRequest, notify, NotificationDeliveryRequestedV1.validate, valid]

/-- The loop goes through when every request it builds is valid. -/
theorem enqueueRequests_ok_iff :
    (∃ done, enqueueRequests channels db entries = .ok done) ↔
      ∀ entry ∈ entries, entry.2.shouldNotify = true →
        (requestFields channels entry.1 entry.2.incident).Valid := by
  induction entries generalizing db with
  | nil => exact iff_of_true ⟨db, rfl⟩ fun _ mem => nomatch mem
  | cons entry rest ih =>
    rw [List.forall_mem_cons]
    rcases enqueueRequest_cases channels db entry with
      ⟨silent, step⟩ | ⟨notify, invalid, step⟩ | ⟨event, notify, fields, step⟩
    · simp [enqueueRequests, step, ih, silent]
    · simp [enqueueRequests, step, notify, invalid]
    · have valid : (requestFields channels entry.1 entry.2.incident).Valid := fields ▸ event.valid
      simp [enqueueRequests, step, ih, valid]

/-- The first step of a loop that goes through. -/
theorem enqueueRequests_cons (ran : enqueueRequests channels db (entry :: entries) = .ok done) :
    (entry.2.shouldNotify = false ∧ enqueueRequests channels db entries = .ok done) ∨
    ∃ event : NotificationDeliveryRequestedV1, entry.2.shouldNotify = true ∧
      enqueueRequests channels (db.afterRequest entry.1 entry.2.incident event) entries =
        .ok done := by
  rcases enqueueRequest_cases channels db entry with
    ⟨silent, step⟩ | ⟨notify, invalid, step⟩ | ⟨event, notify, fields, step⟩
  · rw [enqueueRequests, step] at ran
    exact .inl ⟨silent, ran⟩
  · rw [enqueueRequests, step] at ran
    cases ran
  · rw [enqueueRequests, step] at ran
    exact .inr ⟨event, notify, ran⟩

/-- Stored events stay. -/
theorem enqueueRequests_keeps (ran : enqueueRequests channels db entries = .ok done) {id : Nat}
    {event : OutboxEvent NotificationEvent} (stored : db.outbox.get id = some event) :
    done.outbox.get id = some event := by
  induction entries generalizing db with
  | nil =>
    cases ran
    exact stored
  | cons entry rest ih =>
    rcases enqueueRequests_cons ran with ⟨silent, ran⟩ | ⟨event, notify, ran⟩
    · exact ih ran stored
    · exact ih ran (addOutboxEvent_keeps stored)

/-- The incidents after one transition. -/
theorem enqueueRequests_incidents (ran : enqueueRequests channels db [entry] = .ok done) :
    done.incidents =
      if entry.2.shouldNotify then
        db.incidents.modify entry.1 fun incident =>
          { incident with lastNotificationAt := some incident.lastSeenAt }
      else db.incidents := by
  rcases enqueueRequests_cons ran with ⟨silent, ran⟩ | ⟨event, notify, ran⟩
  · cases ran
    simp [silent]
  · cases ran
    simp [notify, IncidentDb.afterRequest]

/-- A request that the loop builds has its row in the outbox. -/
theorem enqueueRequests_stored (ran : enqueueRequests channels db entries = .ok done) :
    ∀ entry ∈ entries, entry.2.shouldNotify = true →
      ∃ id event, done.outbox.get id = some event ∧
        event.idempotencyKey = requestKey entry.1 entry.2.incident.occurrenceCount := by
  induction entries generalizing db with
  | nil => exact fun _ mem => nomatch mem
  | cons entry rest ih =>
    rcases enqueueRequests_cons ran with ⟨silent, ran⟩ | ⟨event, notify, ran⟩
    · refine List.forall_mem_cons.mpr ⟨fun notify => ?_, ih ran⟩
      rw [silent] at notify
      cases notify
    · refine List.forall_mem_cons.mpr ⟨fun _ => ?_, ih ran⟩
      obtain ⟨id, row, stored, key⟩ := addOutboxEvent_stored db.outbox
        (requestRow entry.1 entry.2.incident event)
      exact ⟨id, row, enqueueRequests_keeps ran stored, key⟩

/-- With channels, only an invalid request is an error. -/
theorem enqueueIncidentNotificationRequests_of_enabled (unicode : UnicodeData)
    {settings : NotificationSettings} (broker : settings.broker = true)
    (enabled : settings.notificationsEnabled = true)
    (some : configuredNotificationChannels unicode settings ≠ []) (db : IncidentDb Details)
    (entries : List (Nat × IncidentTransition Details)) :
    enqueueIncidentNotificationRequests unicode settings db entries =
      enqueueRequests (configuredNotificationChannels unicode settings) db entries := by
  simp [enqueueIncidentNotificationRequests, broker, enabled, some]

end Loop

end ApiObservatory.IncidentNotifications
