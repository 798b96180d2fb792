import ApiObservatory.Notification.Intake
import ApiObservatory.Foundation.Json

/-
Malformed records in the partition (`services/ingestor/notification_delivery_worker.py`).

A value that is no request raises before its offset is committed, and the worker that is
started again reads it first. So the committed offset never passes it: the worker accepts the
valid records in front of the first malformed one, and none behind it, however often it is
started (`unblocked_iff`). Here nothing else ends the worker, and the delivery transactions of
this and of other workers run at any time.
-/

namespace ApiObservatory.Notification.Intake.MalformedRecords

open Foundation

/-! ### From a value to a request -/

/-- One partition, with `json.loads` and `model_validate`; `none` is an exception of theirs. -/
structure BrokerLog (Bytes : Type) where
  values : List (Option Bytes)
  loads : Bytes → Option Json
  modelValidate : List (String × Json) → Option NotificationDeliveryRequestedV1

variable {Bytes : Type} (log : BrokerLog Bytes)

namespace BrokerLog

/-- `_decode_notification_request`, with the text of its `ValueError`. -/
def decodeNotificationRequest : Option Bytes → Except String (List (String × Json))
  | none => .error "Notification broker value is empty."
  | some value =>
      match log.loads value with
      | none => .error "Notification broker value is not valid JSON."
      | some (.object fields) => .ok fields
      | some _ => .error "Notification broker value must be a JSON object."

/-- `validate_notification_request`. -/
def validateNotificationRequest (rawEvent : List (String × Json)) :
    Except String NotificationDeliveryRequestedV1 :=
  match log.modelValidate rawEvent with
  | some event => .ok event
  | none => .error "Invalid notification delivery request event."

/-- What `process_notification_record` makes of a value before it writes. -/
def read (value : Option Bytes) : Except String NotificationDeliveryRequestedV1 :=
  match log.decodeNotificationRequest value with
  | .error text => .error text
  | .ok rawEvent => log.validateNotificationRequest rawEvent

/-- The request at an offset, if the value there is one. -/
def request (offset : Nat) : Option NotificationDeliveryRequestedV1 :=
  log.values[offset]?.bind fun value => (log.read value).toOption

/-- The value at an offset is no request. -/
def Malformed (offset : Nat) : Prop := offset < log.values.length ∧ log.request offset = none

/-- How many values are no request. -/
def malformedCount : Nat := log.values.countP fun value => (log.read value).toOption.isNone

/-- The first record of a message. A later one with its id repeats the message. -/
def First (offset : Nat) (event : NotificationDeliveryRequestedV1) : Prop :=
  log.request offset = some event ∧
    ∀ earlier < offset, ∀ other, log.request earlier = some other →
      other.messageId ≠ event.messageId

/-- No valid record stands behind a malformed one. -/
def InOrder : Prop :=
  ∀ offset, log.Malformed offset → ∀ later, offset < later → log.request later = none

end BrokerLog

/-! ### The worker -/

/-- The first transaction of a record; an exception ends the worker. -/
def claimRequest (s : State) (offset stop : Nat) (now : Int) : State :=
  match log.request offset with
  | none => { s with clock := now, phase := .down }
  | some event =>
      let result := claimNotificationRequest s.db event 30 now
      { s with
        db := result.2.2
        clock := now
        phase :=
          if result.2.1 then .claimed offset stop result.1.1 event else .accepted offset stop }

/-- One step: the worker's, or a delivery transaction. It starts when it is down, at the
committed offset. -/
def next (s : State) (label : Label) : Option State :=
  match s.phase, label with
  | .down, .start => some { s with phase := .idle s.committedOffset }
  | .idle position, .poll count =>
      if position + count ≤ log.values.length then
        some { s with
          phase := if count = 0 then .idle position else .record position (position + count) }
      else none
  | .record offset stop, .claimRequest now =>
      if s.clock ≤ now then some (claimRequest log s offset stop now) else none
  | .claimed offset stop inboxId event, .addDeliveries now =>
      if s.clock ≤ now then
        some { s with
          db := addChannelDeliveries s.db inboxId event
          clock := now
          phase := .accepted offset stop }
      else none
  | .accepted offset stop, .commitOffset =>
      some { s with
        committedOffset := offset + 1
        phase := if offset + 1 < stop then .record (offset + 1) stop else .idle stop }
  | _, .deliver call =>
      if call.isIntake = false ∧ s.clock ≤ call.now then
        some { s with db := call.apply s.db, clock := call.now }
      else none
  | _, _ => none

variable {log} in
/-- Each step is one of the intake, where more may end the worker. -/
theorem next_intake {Value : Type} {p : Partition Value} {s s' : State} {label : Label}
    (length : p.log.length = log.values.length) (request : p.request = log.request)
    (step : next log s label = some s') : Intake.next p s label = some s' := by
  unfold next at step
  unfold Intake.next
  split at step
  · rename_i phase
    simp only [phase]
    exact step
  · rename_i phase
    simp only [phase, length]
    exact step
  · rename_i phase
    simp only [phase, Intake.claimRequest, request]
    exact step
  · rename_i phase
    simp only [phase]
    exact step
  · rename_i phase
    simp only [phase]
    exact step
  · cases phase : s.phase <;> simpa only [phase] using step
  · cases step

/-! ### What a restarted worker achieves -/

/-- The inbox row of a record's message exists, and the delivery rows of the message. -/
def Accepted (s : State) (event : NotificationDeliveryRequestedV1) : Prop :=
  HasInbox s.db event ∧ ∀ offset first, log.First offset first →
    first.messageId = event.messageId → HasChannels s.db first

/-- Before the first start: nothing of the partition is known. -/
structure Started (s : State) : Prop where
  down : s.phase = .down
  nothingCommitted : s.committedOffset = 0
  unseen : ∀ offset event, log.request offset = some event → ¬ HasInbox s.db event

/-- How often the worker has been started. -/
def starts (history : List (State × Label)) : Nat :=
  history.countP fun entry => match entry.2 with
    | .start => true
    | _ => false

/-- The worker has read the whole log, or one start more than there are malformed values has
ended. -/
def Done (history : List (State × Label)) (s : State) : Prop :=
  s.phase = .idle log.values.length ∨ (s.phase = .down ∧ log.malformedCount < starts history)

/-- Then every valid record is accepted, and its offset is committed. -/
def Unblocked : Prop :=
  ∀ start history s, Started log start → Run (next log) start history s → Done log history s →
    ∀ offset event, log.request offset = some event →
      offset < s.committedOffset ∧ Accepted log s event

/-! ### What one step keeps -/

variable {log} {s s' : State}

/-- An inbox row after a claim was there before, or is the first of the claimed message. -/
theorem hasInbox_of_claim {db : Db} {event other : NotificationDeliveryRequestedV1} {now : Int}
    {result : (Nat × InboxConsumption) × Bool × Db} (claim : Claim db event now result)
    (found : HasInbox result.2.2 other) :
    HasInbox db other ∨
      (other.messageId = event.messageId ∧ ¬ HasInbox db event ∧ result.2.1 = true) := by
  obtain ⟨id, row, stored, key⟩ := found
  cases claim with
  | insert new absent newKey status =>
    rcases Rows.get_insert_cases stored with ⟨-, rfl⟩ | ⟨-, old⟩
    · refine .inr ⟨key.2.symm.trans newKey.2, ?_, rfl⟩
      rintro ⟨id', row', stored', key'⟩
      exact absent id' row' stored' key'
    · exact .inl ⟨id, row, old, key⟩
  | refuse => exact .inl ⟨id, row, stored, key⟩
  | reclaim i old new stored₀ oldKey newKey status =>
    by_cases e : id = i
    · subst e
      rw [Rows.get_modify_self, stored₀] at stored
      cases stored
      exact .inl ⟨id, old, stored₀, oldKey.1, oldKey.2.trans (newKey.2.symm.trans key.2)⟩
    · rw [Rows.get_modify_of_ne _ e] at stored
      exact .inl ⟨id, row, stored, key⟩

theorem hasInbox_of_deliver {db : Db} {call : Call} {event : NotificationDeliveryRequestedV1}
    (found : HasInbox (call.apply db) event) : HasInbox db event := by
  obtain ⟨id, row, stored, key⟩ := found
  obtain ⟨before, stored, step⟩ := inbox_before stored
  have keys := InboxStep.key step
  exact ⟨id, before, stored, keys.1.symm.trans key.1, keys.2.symm.trans key.2⟩

variable (log) in
/-- What the worker knows, by phase. -/
def WorkerSound (s : State) : Prop :=
  match s.phase with
  | .down => True
  | .idle position => position = s.committedOffset
  | .record offset stop => offset = s.committedOffset ∧ offset < stop ∧ stop ≤ log.values.length
  | .claimed offset stop _ event =>
      (offset = s.committedOffset ∧ offset < stop ∧ stop ≤ log.values.length) ∧
        log.request offset = some event ∧ HasInbox s.db event
  | .accepted offset stop =>
      (offset = s.committedOffset ∧ offset < stop ∧ stop ≤ log.values.length) ∧
        ∃ event, log.request offset = some event ∧ HasInbox s.db event

variable (log) in
structure Sound (s : State) : Prop where
  /-- A message with an inbox row has its delivery rows, unless it is the claimed one. -/
  seen : ∀ offset first, log.First offset first → HasInbox s.db first →
    HasChannels s.db first ∨ ∃ o stop id, s.phase = .claimed o stop id first
  covered : ∀ offset < s.committedOffset, ∃ event, log.request offset = some event ∧
    HasInbox s.db event
  worker : WorkerSound log s

theorem Started.sound (started : Started log s) : Sound log s where
  seen offset first isFirst found := absurd found (started.unseen offset first isFirst.1)
  covered offset lt := by
    rw [started.nothingCommitted] at lt
    cases lt
  worker := by
    rw [WorkerSound, started.down]
    trivial

/-- A step that is no claim, with what it leaves. -/
theorem Sound.of_frame {db : Db} {clock : Int} {committedOffset : Nat} {phase : Phase}
    (sound : Sound log s) (grows : Grows s.db db)
    (inbox : ∀ event, HasInbox db event → HasInbox s.db event)
    (claimed : ∀ first, (∃ o stop id, s.phase = .claimed o stop id first) →
      HasChannels db first ∨ ∃ o stop id, phase = .claimed o stop id first)
    (covered : ∀ offset < committedOffset, ∃ event, log.request offset = some event ∧
      HasInbox s.db event)
    (worker : WorkerSound log ⟨db, clock, committedOffset, phase⟩) :
    Sound log ⟨db, clock, committedOffset, phase⟩ where
  seen offset first isFirst found := by
    rcases sound.seen offset first isFirst (inbox first found) with channels | here
    · exact .inl (grows.hasChannels channels)
    · exact claimed first here
  covered offset lt := by
    obtain ⟨event, request, found⟩ := covered offset lt
    exact ⟨event, request, grows.hasInbox found⟩
  worker := worker

/-- A step of a worker that has claimed nothing, without a change of the tables. -/
theorem Sound.of_free {clock : Int} {committedOffset : Nat} {phase : Phase} (sound : Sound log s)
    (free : ∀ offset stop id event, s.phase ≠ .claimed offset stop id event)
    (covered : ∀ offset < committedOffset, ∃ event, log.request offset = some event ∧
      HasInbox s.db event)
    (worker : WorkerSound log ⟨s.db, clock, committedOffset, phase⟩) :
    Sound log ⟨s.db, clock, committedOffset, phase⟩ := by
  refine sound.of_frame (.refl s.db) (fun _ found => found) ?_ covered worker
  rintro first ⟨offset, stop, id, claimed⟩
  exact absurd claimed (free offset stop id first)

/-- The first record of the claimed message is the record at the committed offset. -/
theorem Sound.first_eq (sound : Sound log s) {offset : Nat}
    {event first : NotificationDeliveryRequestedV1}
    (request : log.request s.committedOffset = some event) (isFirst : log.First offset first)
    (same : first.messageId = event.messageId) (unseen : ¬ HasInbox s.db event) :
    first = event := by
  have notBefore : ¬ offset < s.committedOffset := by
    intro lt
    obtain ⟨event', request', id, row, stored, key⟩ := sound.covered offset lt
    rw [isFirst.1] at request'
    cases request'
    exact unseen ⟨id, row, stored, key.1, key.2.trans same⟩
  have notBehind : ¬ s.committedOffset < offset := by
    intro lt
    exact isFirst.2 _ lt event request same.symm
  have here : offset = s.committedOffset := by omega
  rw [here] at isFirst
  exact Option.some.inj (isFirst.1.symm.trans request)

theorem Sound.claimRequest (sound : Sound log s) {offset stop : Nat} {now : Int}
    (phase : s.phase = .record offset stop) :
    Sound log (claimRequest log s offset stop now) := by
  have worker : offset = s.committedOffset ∧ offset < stop ∧ stop ≤ log.values.length := by
    simpa only [WorkerSound, phase] using sound.worker
  unfold MalformedRecords.claimRequest
  cases request : log.request offset with
  | none =>
    exact sound.of_free (by simp [phase]) sound.covered trivial
  | some event =>
    have claim := claim_cases s.db event 30 now
    dsimp only
    generalize claimNotificationRequest s.db event 30 now = result at claim
    have inbox : HasInbox result.2.2 event := ⟨result.1.1, claim.inboxOf⟩
    constructor
    · intro o first isFirst found
      rcases hasInbox_of_claim claim found with old | ⟨same, unseen, claimed⟩
      · rcases sound.seen o first isFirst old with channels | ⟨o', stop', id, here⟩
        · exact .inl (claim.grows.hasChannels channels)
        · rw [phase] at here
          cases here
      · have is := sound.first_eq (worker.1 ▸ request) isFirst same unseen
        exact .inr ⟨offset, stop, result.1.1, by rw [if_pos claimed, is]⟩
    · intro o lt
      obtain ⟨event', request', found⟩ := sound.covered o lt
      exact ⟨event', request', claim.grows.hasInbox found⟩
    · cases claimed : result.2.1 with
      | true => exact ⟨worker, request, inbox⟩
      | false => exact ⟨worker, event, request, inbox⟩

/-- **Every step keeps it.** -/
theorem Sound.step {label : Label} (sound : Sound log s) (step : next log s label = some s') :
    Sound log s' := by
  have worker := sound.worker
  unfold next at step
  split at step
  · rename_i phase
    cases step
    exact sound.of_free (by simp [phase]) sound.covered rfl
  · rename_i position count phase
    simp only [WorkerSound, phase] at worker
    split at step
    · cases step
      refine sound.of_free (by simp [phase]) sound.covered ?_
      by_cases e : count = 0
      · simpa only [WorkerSound, e, if_true] using worker
      · simp only [WorkerSound, e, if_false]
        exact ⟨worker, by omega, by assumption⟩
    · cases step
  · rename_i offset stop now phase
    split at step
    · cases step
      exact sound.claimRequest phase
    · cases step
  · rename_i offset stop inboxId event now phase
    simp only [WorkerSound, phase] at worker
    split at step
    · cases step
      refine sound.of_frame grows_addChannelDeliveries (fun _ found => found) ?_ sound.covered ?_
      · rintro first ⟨o, stop', id, here⟩
        rw [phase] at here
        cases here
        exact .inl hasChannels_addChannelDeliveries
      · exact ⟨worker.1, event, worker.2.1, grows_addChannelDeliveries.hasInbox worker.2.2⟩
    · cases step
  · rename_i offset stop phase
    simp only [WorkerSound, phase] at worker
    obtain ⟨current, event, request, inbox⟩ := worker
    cases step
    refine sound.of_free (by simp [phase]) ?_ ?_
    · intro o lt
      rcases Nat.lt_succ_iff_lt_or_eq.mp lt with before | rfl
      · exact sound.covered o (by omega)
      · exact ⟨event, request, inbox⟩
    · by_cases e : offset + 1 < stop
      · simp only [WorkerSound, e, if_true]
        exact ⟨trivial, trivial, current.2.2⟩
      · simp only [WorkerSound, e, if_false]
        omega
  · rename_i call
    split at step
    · cases step
      have grows := @grows_apply s.db call
      refine sound.of_frame grows (fun _ found => hasInbox_of_deliver found)
        (fun first here => .inr here) sound.covered ?_
      unfold WorkerSound at worker ⊢
      cases phase : s.phase with
      | down => trivial
      | idle => simpa only [phase] using worker
      | record => simpa only [phase] using worker
      | claimed =>
        simp only [phase] at worker ⊢
        exact ⟨worker.1, worker.2.1, grows.hasInbox worker.2.2⟩
      | accepted =>
        simp only [phase] at worker ⊢
        obtain ⟨current, event, request, found⟩ := worker
        exact ⟨current, event, request, grows.hasInbox found⟩
    · cases step
  · cases step

/-! ### How far the offset gets -/

theorem BrokerLog.lt_of_request {offset : Nat} {event : NotificationDeliveryRequestedV1}
    (request : log.request offset = some event) : offset < log.values.length := by
  obtain ⟨value, stored, -⟩ := Option.bind_eq_some_iff.mp request
  exact (List.getElem?_eq_some_iff.mp stored).1

theorem Sound.committedOffset_le (sound : Sound log s) :
    s.committedOffset ≤ log.values.length := by
  by_contra beyond
  obtain ⟨event, request, -⟩ := sound.covered log.values.length (by omega)
  exact absurd (BrokerLog.lt_of_request request) (Nat.lt_irrefl _)

/-- The committed offset passes no malformed value. -/
theorem Sound.le_of_malformed (sound : Sound log s) {offset : Nat}
    (malformed : log.Malformed offset) : s.committedOffset ≤ offset := by
  by_contra passed
  obtain ⟨event, request, -⟩ := sound.covered offset (by omega)
  rw [malformed.2] at request
  cases request

/-- A record before the committed offset is accepted while none is claimed. -/
theorem Sound.accepted (sound : Sound log s)
    (free : ∀ offset stop id event, s.phase ≠ .claimed offset stop id event) {offset : Nat}
    {event : NotificationDeliveryRequestedV1} (request : log.request offset = some event)
    (lt : offset < s.committedOffset) : Accepted log s event := by
  obtain ⟨event', request', found⟩ := sound.covered offset lt
  rw [request] at request'
  cases request'
  refine ⟨found, fun o first isFirst same => ?_⟩
  obtain ⟨id, row, stored, key⟩ := found
  rcases sound.seen o first isFirst ⟨id, row, stored, key.1, key.2.trans same.symm⟩ with
    channels | ⟨o', stop, id', claimed⟩
  · exact channels
  · exact absurd claimed (free o' stop id' first)

/-- The worker goes down at a malformed value only, and then stays there. -/
theorem Sound.malformed_of_down {label : Label} (sound : Sound log s)
    (step : next log s label = some s') (down : s'.phase = .down) :
    log.Malformed s'.committedOffset ∨
      (s.phase = .down ∧ s'.committedOffset = s.committedOffset ∧ ∃ call, label = .deliver call) := by
  have worker := sound.worker
  unfold next at step
  split at step
  · cases step
    cases down
  · split at step
    · cases step
      dsimp only at down
      split at down <;> cases down
    · cases step
  · rename_i offset stop now phase
    simp only [WorkerSound, phase] at worker
    split at step
    · cases step
      refine .inl ?_
      unfold MalformedRecords.claimRequest at down ⊢
      cases request : log.request offset with
      | none => exact worker.1 ▸ ⟨by omega, request⟩
      | some event =>
        simp only [request] at down
        split at down <;> cases down
    · cases step
  · split at step
    · cases step
      cases down
    · cases step
  · cases step
    dsimp only at down
    split at down <;> cases down
  · rename_i call
    split at step
    · cases step
      exact .inr ⟨down, rfl, call, rfl⟩
    · cases step
  · cases step

/-- What holds of every run: a worker that is down after a start is at a malformed value. -/
theorem Started.run {start : State} {history : List (State × Label)}
    (started : Started log start) (run : Run (next log) start history s) :
    Sound log s ∧ (s.phase = .down → starts history = 0 ∨ log.Malformed s.committedOffset) := by
  refine Run.invariant (I := fun history s => Sound log s ∧ (s.phase = .down →
    starts history = 0 ∨ log.Malformed s.committedOffset)) ⟨started.sound, fun _ => .inl rfl⟩ ?_ run
  rintro history s label s' - ⟨sound, before⟩ step
  refine ⟨sound.step step, fun down => ?_⟩
  rcases sound.malformed_of_down step down with malformed | ⟨wasDown, same, call, rfl⟩
  · exact .inr malformed
  · rw [same]
    exact before wasDown

/-! ### Reading on -/

/-- The next record is stored and its offset committed, or it ends the worker. -/
theorem exists_record_run {position : Nat} (idle : s.phase = .idle position)
    (more : position < log.values.length) :
    ∃ history s', Run (next log) s history s' ∧ starts history = 0 ∧
      (s'.phase = .idle (position + 1) ∨ s'.phase = .down) := by
  have commit : ∀ s₁ : State, s₁.phase = .accepted position (position + 1) →
      next log s₁ .commitOffset =
        some { s₁ with committedOffset := position + 1, phase := .idle (position + 1) } := by
    intro s₁ accepted
    simp [next, accepted]
  have add : ∀ (s₁ : State) (inboxId : Nat) (event : NotificationDeliveryRequestedV1),
      s₁.phase = .claimed position (position + 1) inboxId event →
      next log s₁ (.addDeliveries s₁.clock) =
        some { s₁ with
          db := addChannelDeliveries s₁.db inboxId event
          phase := .accepted position (position + 1) } := by
    intro s₁ inboxId event claimed
    simp [next, claimed]
  have poll : next log s (.poll 1) =
      some { s with phase := .record position (position + 1) } := by
    simp [next, idle, Nat.succ_le_of_lt more]
  have polled := Run.init.snoc poll
  have claim : next log { s with phase := .record position (position + 1) }
      (.claimRequest s.clock) = some (claimRequest log
        { s with phase := .record position (position + 1) } position (position + 1) s.clock) := by
    simp [next]
  have claimed := polled.snoc claim
  unfold claimRequest at claimed
  cases request : log.request position with
  | none =>
    simp only [request] at claimed
    exact ⟨_, _, claimed, rfl, .inr rfl⟩
  | some event =>
    simp only [request] at claimed
    cases new : (claimNotificationRequest s.db event 30 s.clock).2.1 with
    | false =>
      simp only [new] at claimed
      exact ⟨_, _, claimed.snoc (commit _ rfl), rfl, .inl rfl⟩
    | true =>
      simp only [new, if_true] at claimed
      exact ⟨_, _, (claimed.snoc (add _ _ _ rfl)).snoc (commit _ rfl), rfl, .inl rfl⟩

/-- An idle worker can read to the end of the log, or to a malformed value. -/
theorem Sound.exists_drain (sound : Sound log s) {position : Nat}
    (idle : s.phase = .idle position) :
    ∃ history s', Run (next log) s history s' ∧ starts history = 0 ∧
      (s'.phase = .idle log.values.length ∨ s'.phase = .down) := by
  have current : position = s.committedOffset := by
    simpa only [WorkerSound, idle] using sound.worker
  have le := current ▸ sound.committedOffset_le
  induction rest : log.values.length - position generalizing s position with
  | zero =>
    have done : position = log.values.length := by omega
    exact ⟨[], s, .init, rfl, .inl (done ▸ idle)⟩
  | succ n ih =>
    have more : position < log.values.length := by omega
    obtain ⟨history, s₁, run, noStart, idle₁ | down⟩ := exists_record_run idle more
    · have sound₁ : Sound log s₁ := Run.stateInvariant sound (fun h step => h.step step) run
      have current₁ : position + 1 = s₁.committedOffset := by
        simpa only [WorkerSound, idle₁] using sound₁.worker
      obtain ⟨history', s', run', noStart', done⟩ :=
        ih sound₁ idle₁ current₁ (by omega) (by omega)
      refine ⟨history' ++ history, s', run.append run', ?_, done⟩
      rw [starts, List.countP_append]
      exact Nat.add_eq_zero_iff.mpr ⟨noStart', noStart⟩
    · exact ⟨history, s₁, run, noStart, .inr down⟩

/-- The worker can be started as often as one likes, unless it reaches the end of the log. -/
theorem Started.exists_starts {start : State} (started : Started log start) (count : Nat) :
    ∃ history s, Run (next log) start history s ∧
      (s.phase = .idle log.values.length ∨ (s.phase = .down ∧ starts history = count)) := by
  induction count with
  | zero => exact ⟨[], start, .init, .inr ⟨started.down, rfl⟩⟩
  | succ count ih =>
    obtain ⟨history, s, run, finished | ⟨down, same⟩⟩ := ih
    · exact ⟨history, s, run, .inl finished⟩
    · have restart : next log s .start = some { s with phase := .idle s.committedOffset } := by
        simp [next, down]
      have restarted := run.snoc restart
      obtain ⟨history', s', run', noStart, done⟩ := (started.run restarted).1.exists_drain rfl
      refine ⟨_, s', restarted.append run', done.imp_right fun down' => ⟨down', ?_⟩⟩
      rw [starts, List.countP_append]
      change starts history' + starts ((s, .start) :: history) = count + 1
      rw [noStart, Nat.zero_add, ← same]
      exact List.countP_cons_of_pos rfl

/-! ### The result -/

theorem started_empty (log : BrokerLog Bytes) : Started log emptyState where
  down := rfl
  nothingCommitted := rfl
  unseen := by
    rintro offset event - ⟨id, row, stored, -⟩
    cases stored

/-- The worker started often enough from the empty tables has read the log, or is at a
malformed value, and no record behind that value is committed. -/
theorem Unblocked.inOrder (unblocked : Unblocked log) : log.InOrder := by
  intro offset malformed later lt
  cases request : log.request later with
  | none => rfl
  | some event =>
    have started := started_empty log
    obtain ⟨history, s, run, reached⟩ := started.exists_starts (log.malformedCount + 1)
    have done : Done log history s := reached.imp_right fun ⟨down, count⟩ => ⟨down, by omega⟩
    have committed := (unblocked _ history s started run done later event request).1
    have before := (started.run run).1.le_of_malformed malformed
    omega

/-- The first stop of the worker has all valid records before it. -/
theorem unblocked_of_inOrder (inOrder : log.InOrder) : Unblocked log := by
  intro start history s started run done offset event request
  obtain ⟨sound, stopped⟩ := started.run run
  have committed : offset < s.committedOffset := by
    rcases done with finished | ⟨down, count⟩
    · have worker : log.values.length = s.committedOffset := by
        simpa only [WorkerSound, finished] using sound.worker
      exact worker ▸ BrokerLog.lt_of_request request
    · have malformed := (stopped down).resolve_left (by omega)
      by_contra behind
      rcases Nat.lt_or_eq_of_le (Nat.not_lt.mp behind) with later | here
      · rw [inOrder _ malformed offset later] at request
        cases request
      · rw [← here, malformed.2] at request
        cases request
  refine ⟨committed, sound.accepted ?_ request committed⟩
  intro o stop id other claimed
  rcases done with finished | ⟨down, -⟩
  · rw [claimed] at finished
    cases finished
  · rw [claimed] at down
    cases down

/-- The fields of `twoChannelRequest` on the wire. -/
def twoChannelFields : List (String × Json) :=
  [("event_type", .string "notification.delivery_requested.v1"),
    ("message_id", .string "incident:7:notification:2"),
    ("occurred_at", .string "1970-01-01T00:00:00Z"),
    ("payload", .object
      [("incident_id", .number "7"), ("source_id", .number "3"), ("tenant_id", .number "11"),
        ("severity", .string "critical"), ("summary", .string "Dependency unavailable."),
        ("trigger_type", .string "availability"), ("occurrence_count", .number "2"),
        ("guidance", .string "Verify the dependency independently."),
        ("channels", .array [.string "webhook", .string "email"])])]

/-- Of the values with bytes, only the request is in this log; a value is its JSON text,
already parsed. -/
def nullThenRequest : BrokerLog Json where
  values := [none, some (.object twoChannelFields)]
  loads := some
  modelValidate fields :=
    if beqJson (.object fields) (.object twoChannelFields) then some twoChannelRequest else none

end ApiObservatory.Notification.Intake.MalformedRecords
