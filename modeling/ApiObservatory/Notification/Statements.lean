import ApiObservatory.Foundation.ReadCommitted
import ApiObservatory.Notification.Lifecycle

/-
The delivery transactions, statement by statement.

`Lifecycle` runs each repository function as one atomic step. Here a worker
takes the function apart into the statements its session sends: the locking
`SELECT`, the `INSERT` and `UPDATE` of the flushes, the two reads of
`_refresh_inbox_status`, and the `COMMIT`. Statements of any number of workers
interleave under READ COMMITTED, a statement that needs a lock held elsewhere
is not enabled, and a worker can be rolled back between any two statements.

`Step` lists what one statement does. `PhaseOk` says what an open transaction
has read, written and locked; `row_step` shows that what becomes visible to
others moves every delivery row by `RowStep`, so the machine of `Lifecycle` is
the abstraction of this one.
-/

namespace ApiObservatory.Notification.Statements

open Foundation NotificationDelivery

/-- One `deliver_due_notifications` process. -/
abbrev Worker := Nat

/-! ### What a finishing call records -/

inductive Outcome where
  | delivered (providerReference : Option String)
  | retry (nextAttemptAt : Int) (category : NotificationErrorCategory) (code : Option String)
      (detail : String)
  | deadLetter (category : NotificationErrorCategory) (code : Option String) (detail : String)

/-- The arguments of `mark_delivery_delivered`, `schedule_delivery_retry` or
`dead_letter_delivery`. -/
structure Finish where
  deliveryId : Nat
  token : String
  outcome : Outcome
  now : Int

/-- The delivery after the in-memory changes of the call. -/
def Finish.row (f : Finish) (d : NotificationDelivery) : NotificationDelivery :=
  match f.outcome with
  | .delivered reference => d.markDelivered reference f.now
  | .retry nextAttemptAt category code detail => d.scheduleRetry nextAttemptAt category code detail
  | .deadLetter category code detail => d.deadLetter category code detail f.now

/-- The loop of `claim_due_deliveries` over the selected objects. -/
def claimAll (due : List (Nat × NotificationDelivery)) (token : String) (leaseSeconds now : Int) :
    List (Nat × NotificationDelivery) :=
  due.map fun entry => (entry.1, entry.2.claim token leaseSeconds now)

/-- Where the open transaction of a worker stands. Each constructor carries
the objects its session has loaded. -/
inductive Phase where
  | idle
  | claimSelected (due : List (Nat × NotificationDelivery)) (token : String) (leaseSeconds : Int)
      (now : Int)
  | claimFlushed (due : List (Nat × NotificationDelivery)) (token : String) (leaseSeconds : Int)
      (now : Int)
  | selected (f : Finish) (d : NotificationDelivery)
  | outboxAdded (f : Finish) (d : NotificationDelivery)
  | flushed (f : Finish) (d : NotificationDelivery)
  | inboxLoaded (f : Finish) (d : NotificationDelivery) (inbox : InboxConsumption)
  | refreshed (f : Finish) (d : NotificationDelivery) (loaded changed : InboxConsumption)
  | committing (f : Finish) (d : NotificationDelivery)

structure State where
  inbox : Table Worker InboxConsumption
  deliveries : Table Worker NotificationDelivery
  outbox : Table Worker (OutboxEvent NotificationEvent)
  phase : Worker → Phase

namespace State

/-- The committed database `db` with no transaction open. -/
def ofDb (db : Db) : State where
  inbox := .ofRows db.inbox
  deliveries := .ofRows db.deliveries
  outbox := .ofRows db.outbox
  phase _ := .idle

def moveTo (s : State) (w : Worker) (p : Phase) : State :=
  { s with phase := Function.update s.phase w p }

def commit (s : State) (w : Worker) : State where
  inbox := s.inbox.commit w
  deliveries := s.deliveries.commit w
  outbox := s.outbox.commit w
  phase := Function.update s.phase w .idle

/-- An exception, a crash or a lost connection: the session is discarded. -/
def rollback (s : State) (w : Worker) : State where
  inbox := s.inbox.rollback w
  deliveries := s.deliveries.rollback w
  outbox := s.outbox.rollback w
  phase := Function.update s.phase w .idle

/-- The `SELECT … FOR UPDATE SKIP LOCKED` of `claim_due_deliveries`. -/
def selectDue (s : State) (w : Worker) (limit : Nat) (token : String) (leaseSeconds : Int)
    (now : Int) : State :=
  let due := dueDeliveries s.deliveries.rows limit now (s.deliveries.lockedIds w)
  { s with deliveries := s.deliveries.lock w (due.map Prod.fst) }.moveTo w
    (.claimSelected due token leaseSeconds now)

/-- The `UPDATE` statements at the commit of `claim_due_deliveries`. -/
def updateClaims (s : State) (w : Worker) (due : List (Nat × NotificationDelivery))
    (token : String) (leaseSeconds : Int) (now : Int) : State :=
  { s with
    deliveries := s.deliveries.writeAll w (claimAll due token leaseSeconds now) }.moveTo w
    (.claimFlushed due token leaseSeconds now)

/-- `_get_claimed_delivery`. It waits for a row lock only when the committed
row matches; without a row the call returns `None`. -/
def selectClaimed (s : State) (w : Worker) (f : Finish) : Option State :=
  match (s.deliveries.rows.get f.deliveryId).filter (·.claimedBy f.token) with
  | none => some s
  | some d =>
      if s.deliveries.free w f.deliveryId then
        some ({ s with deliveries := s.deliveries.lock w [f.deliveryId] }.moveTo w (.selected f d))
      else none

/-- The flush of the changed delivery. -/
def flush (s : State) (w : Worker) (f : Finish) (d : NotificationDelivery) (p : Phase) : State :=
  { s with deliveries := s.deliveries.write w f.deliveryId (f.row d) }.moveTo w p

/-- The `INSERT … ON CONFLICT DO NOTHING` of `add_outbox_event`, which waits for
an uncommitted event under the same key. -/
def insertOutbox (s : State) (w : Worker) (event : OutboxEvent NotificationEvent) :
    Option (Table Worker (OutboxEvent NotificationEvent)) :=
  if s.outbox.contested w (·.idempotencyKey == event.idempotencyKey) then none
  else if (s.outbox.select w fun _ e => e.idempotencyKey == event.idempotencyKey).isEmpty then
    some (s.outbox.insert w event)
  else some s.outbox

/-- The statuses `_refresh_inbox_status` reads: committed rows and the
session's own flushed row. -/
def siblingStatuses (s : State) (w : Worker) (inboxId : Nat) : List DeliveryStatus :=
  (s.deliveries.select w fun _ d =>
    d.inboxConsumptionId == inboxId && d.deletedAt.isNone).map fun entry => entry.2.status

end State

/-- The row left by an `UPDATE` of the columns that differ from the loaded
object. `_refresh_inbox_status` assigns no others. -/
def inboxUpdate (loaded changed stored : InboxConsumption) : InboxConsumption :=
  { stored with
    status := columnUpdate loaded.status changed.status stored.status
    leaseExpiresAt := columnUpdate loaded.leaseExpiresAt changed.leaseExpiresAt stored.leaseExpiresAt
    processedAt := columnUpdate loaded.processedAt changed.processedAt stored.processedAt }

namespace State

/-- The statement after the locking `SELECT` of a finishing call. -/
def afterSelect (s : State) (w : Worker) (f : Finish) (d : NotificationDelivery) : Option State :=
  match f.outcome with
  | .delivered _ => some (s.flush w f d (.flushed f d))
  | .retry .. =>
      if maxDeliveryAttempts ≤ d.attemptCount then some (s.rollback w)
      else some (s.flush w f d (.committing f d))
  | .deadLetter category code _ =>
      match NotificationDeliveryDeadLetteredV1.validate
          (deadLetterFields f.deliveryId category code f.now (f.row d)) with
      | none => some (s.rollback w)
      | some event =>
          (s.insertOutbox w (deadLetterOutbox f.deliveryId (f.row d) event)).map fun outbox =>
            { s with outbox := outbox }.moveTo w (.outboxAdded f d)

/-- The `UPDATE` of the inbox row at the commit, over the version `stored`. -/
def updateInbox (s : State) (w : Worker) (f : Finish) (d : NotificationDelivery)
    (loaded changed stored : InboxConsumption) : State :=
  { s with
    inbox := s.inbox.write w d.inboxConsumptionId (inboxUpdate loaded changed stored) }.moveTo w
    (.committing f d)

/-- The flush of the inbox row. An unchanged object sends no statement. -/
def flushInbox (s : State) (w : Worker) (f : Finish) (d : NotificationDelivery)
    (loaded changed : InboxConsumption) : Option State :=
  if changed = loaded then some (s.moveTo w (.committing f d))
  else
    match s.inbox.visible w d.inboxConsumptionId with
    | none => some (s.rollback w)
    | some stored =>
        if s.inbox.free w d.inboxConsumptionId then
          some (s.updateInbox w f d loaded changed stored)
        else none

/-- The sibling `SELECT` of `_refresh_inbox_status` and the in-memory change
after it. -/
def readStatuses (s : State) (w : Worker) (f : Finish) (d : NotificationDelivery)
    (inbox : InboxConsumption) : State :=
  s.moveTo w (.refreshed f d inbox
    (inbox.refreshed (s.siblingStatuses w d.inboxConsumptionId) f.now))

/-- The next statement of a worker's open transaction. -/
def advance (s : State) (w : Worker) : Option State :=
  match s.phase w with
  | .idle => none
  | .claimSelected due token leaseSeconds now => some (s.updateClaims w due token leaseSeconds now)
  | .claimFlushed .. => some (s.commit w)
  | .selected f d => s.afterSelect w f d
  | .outboxAdded f d => some (s.flush w f d (.flushed f d))
  | .flushed f d =>
      match s.inbox.visible w d.inboxConsumptionId with
      | none => some (s.rollback w)
      | some inbox => some (s.moveTo w (.inboxLoaded f d inbox))
  | .inboxLoaded f d inbox => some (s.readStatuses w f d inbox)
  | .refreshed f d loaded changed => s.flushInbox w f d loaded changed
  | .committing _ _ => some (s.commit w)

end State

/-- Who moves, and with which arguments a call starts. -/
inductive Label where
  | selectDue (w : Worker) (limit : Nat) (token : String) (leaseSeconds : Int) (now : Int)
  | selectClaimed (w : Worker) (f : Finish)
  | advance (w : Worker)
  | rollback (w : Worker)

def Label.worker : Label → Worker
  | .selectDue w _ _ _ _ => w
  | .selectClaimed w _ => w
  | .advance w => w
  | .rollback w => w

/-- One statement of one worker. -/
def next (s : State) (label : Label) : Option State :=
  match s.phase label.worker, label with
  | .idle, .selectDue w limit token leaseSeconds now =>
      some (s.selectDue w limit token leaseSeconds now)
  | .idle, .selectClaimed w f => s.selectClaimed w f
  | .idle, _ => none
  | _, .advance w => s.advance w
  | _, .rollback w => some (s.rollback w)
  | _, _ => none

/-! ### What one statement does -/

/-- The call may record its outcome on `d`: the attempt budget of a retry and
the bounds of a dead-letter event are met. -/
def Finish.Allowed (f : Finish) (d : NotificationDelivery) : Prop :=
  match f.outcome with
  | .delivered _ => True
  | .retry .. => d.attemptCount < maxDeliveryAttempts
  | .deadLetter category code _ =>
      (deadLetterFields f.deliveryId category code f.now (f.row d)).Valid

/-- The outcome is terminal. -/
def Finish.Final (f : Finish) : Prop :=
  match f.outcome with
  | .retry .. => False
  | _ => True

/-- The statements, with what is known where they run. -/
inductive Step (s : State) (w : Worker) : State → Prop where
  | selectDue (limit : Nat) (token : String) (leaseSeconds now : Int) :
      s.phase w = .idle → Step s w (s.selectDue w limit token leaseSeconds now)
  | unclaimed : s.phase w = .idle → Step s w s
  | selectClaimed (f : Finish) (d : NotificationDelivery) :
      s.phase w = .idle → s.deliveries.rows.get f.deliveryId = some d →
      d.claimedBy f.token = true → s.deliveries.free w f.deliveryId →
      Step s w ({ s with deliveries := s.deliveries.lock w [f.deliveryId] }.moveTo w
        (.selected f d))
  | updateClaims (due : List (Nat × NotificationDelivery)) (token : String)
      (leaseSeconds now : Int) :
      s.phase w = .claimSelected due token leaseSeconds now →
      Step s w (s.updateClaims w due token leaseSeconds now)
  | insertOutbox (f : Finish) (d : NotificationDelivery)
      (event : NotificationDeliveryDeadLetteredV1)
      (outbox : Table Worker (OutboxEvent NotificationEvent))
      (category : NotificationErrorCategory) (code : Option String) (detail : String) :
      s.phase w = .selected f d → f.outcome = .deadLetter category code detail →
      NotificationDeliveryDeadLetteredV1.validate
        (deadLetterFields f.deliveryId category code f.now (f.row d)) = some event →
      s.insertOutbox w (deadLetterOutbox f.deliveryId (f.row d) event) = some outbox →
      Step s w ({ s with outbox := outbox }.moveTo w (.outboxAdded f d))
  | flushSelected (f : Finish) (d : NotificationDelivery) (reference : Option String) :
      s.phase w = .selected f d → f.outcome = .delivered reference →
      Step s w (s.flush w f d (.flushed f d))
  | flushRetry (f : Finish) (d : NotificationDelivery) :
      s.phase w = .selected f d → ¬ f.Final → f.Allowed d →
      Step s w (s.flush w f d (.committing f d))
  | flushDeadLetter (f : Finish) (d : NotificationDelivery) :
      s.phase w = .outboxAdded f d → Step s w (s.flush w f d (.flushed f d))
  | loadInbox (f : Finish) (d : NotificationDelivery) (inbox : InboxConsumption) :
      s.phase w = .flushed f d → s.inbox.visible w d.inboxConsumptionId = some inbox →
      Step s w (s.moveTo w (.inboxLoaded f d inbox))
  | readStatuses (f : Finish) (d : NotificationDelivery) (inbox : InboxConsumption) :
      s.phase w = .inboxLoaded f d inbox → Step s w (s.readStatuses w f d inbox)
  | keepInbox (f : Finish) (d : NotificationDelivery) (loaded : InboxConsumption) :
      s.phase w = .refreshed f d loaded loaded → Step s w (s.moveTo w (.committing f d))
  | updateInbox (f : Finish) (d : NotificationDelivery)
      (loaded changed stored : InboxConsumption) :
      s.phase w = .refreshed f d loaded changed → changed ≠ loaded →
      s.inbox.visible w d.inboxConsumptionId = some stored →
      s.inbox.free w d.inboxConsumptionId →
      Step s w (s.updateInbox w f d loaded changed stored)
  | commitClaims (due : List (Nat × NotificationDelivery)) (token : String)
      (leaseSeconds now : Int) :
      s.phase w = .claimFlushed due token leaseSeconds now → Step s w (s.commit w)
  | commitFinish (f : Finish) (d : NotificationDelivery) :
      s.phase w = .committing f d → Step s w (s.commit w)
  | rollback : Step s w (s.rollback w)

theorem step_afterSelect {s s' : State} {w : Worker} {f : Finish} {d : NotificationDelivery}
    (phase : s.phase w = .selected f d) (h : s.afterSelect w f d = some s') : Step s w s' := by
  unfold State.afterSelect at h
  cases outcome : f.outcome with
  | delivered reference =>
    simp only [outcome, Option.some.injEq] at h
    subst h
    exact .flushSelected f d reference phase outcome
  | retry nextAttemptAt category code detail =>
    simp only [outcome] at h
    split at h
    · cases h
      exact .rollback
    · rename_i budget
      cases h
      refine .flushRetry f d phase ?_ ?_
      · simp [Finish.Final, outcome]
      · simpa [Finish.Allowed, outcome] using budget
  | deadLetter category code detail =>
    simp only [outcome] at h
    split at h
    · cases h
      exact .rollback
    · rename_i event valid
      obtain ⟨outbox, inserted, rfl⟩ := Option.map_eq_some_iff.mp h
      exact .insertOutbox f d event outbox category code detail phase outcome valid inserted

theorem step_flushInbox {s s' : State} {w : Worker} {f : Finish} {d : NotificationDelivery}
    {loaded changed : InboxConsumption} (phase : s.phase w = .refreshed f d loaded changed)
    (h : s.flushInbox w f d loaded changed = some s') : Step s w s' := by
  unfold State.flushInbox at h
  split at h
  · rename_i same
    cases h
    subst same
    exact .keepInbox f d changed phase
  · rename_i differs
    cases stored : s.inbox.visible w d.inboxConsumptionId with
    | none =>
      rw [stored] at h
      cases h
      exact .rollback
    | some row =>
      simp only [stored] at h
      split at h
      · rename_i unlocked
        cases h
        exact .updateInbox f d loaded changed row phase differs stored unlocked
      · cases h

theorem step_advance {s s' : State} {w : Worker} (h : s.advance w = some s') : Step s w s' := by
  unfold State.advance at h
  cases phase : s.phase w with
  | idle => rw [phase] at h; cases h
  | claimSelected due token leaseSeconds now =>
    rw [phase] at h
    cases h
    exact .updateClaims due token leaseSeconds now phase
  | claimFlushed due token leaseSeconds now =>
    rw [phase] at h
    cases h
    exact .commitClaims due token leaseSeconds now phase
  | selected f d =>
    rw [phase] at h
    exact step_afterSelect phase h
  | outboxAdded f d =>
    rw [phase] at h
    cases h
    exact .flushDeadLetter f d phase
  | flushed f d =>
    simp only [phase] at h
    split at h
    · cases h
      exact .rollback
    · rename_i inbox stored
      cases h
      exact .loadInbox f d inbox phase stored
  | inboxLoaded f d inbox =>
    rw [phase] at h
    cases h
    exact .readStatuses f d inbox phase
  | refreshed f d loaded changed =>
    rw [phase] at h
    exact step_flushInbox phase h
  | committing f d =>
    rw [phase] at h
    cases h
    exact .commitFinish f d phase

theorem step_selectClaimed {s s' : State} {w : Worker} {f : Finish} (phase : s.phase w = .idle)
    (h : s.selectClaimed w f = some s') : Step s w s' := by
  unfold State.selectClaimed at h
  split at h
  · cases h
    exact .unclaimed phase
  · rename_i d matching
    obtain ⟨stored, owned⟩ := Option.filter_eq_some_iff.mp matching
    split at h
    · rename_i unlocked
      cases h
      exact .selectClaimed f d phase stored owned unlocked
    · cases h

/-- **Every enabled label is one of the statements.** -/
theorem next_step {s s' : State} {label : Label} (h : next s label = some s') :
    Step s label.worker s' := by
  unfold next at h
  split at h
  · rename_i w limit token leaseSeconds now phase
    cases h
    exact .selectDue limit token leaseSeconds now phase
  · rename_i w f phase
    exact step_selectClaimed phase h
  · cases h
  · exact step_advance h
  · cases h
    exact .rollback
  · cases h

/-! ### The open transactions -/

namespace State

@[simp] theorem phase_moveTo_self (s : State) (w : Worker) (p : Phase) :
    (s.moveTo w p).phase w = p := by
  simp [moveTo]

@[simp] theorem phase_commit_self (s : State) (w : Worker) : (s.commit w).phase w = .idle := by
  simp [commit]

@[simp] theorem phase_rollback_self (s : State) (w : Worker) :
    (s.rollback w).phase w = .idle := by
  simp [rollback]

end State

/-- Nothing changed for worker `w` from `s` to `s'`. -/
structure Frame (w : Worker) (s s' : State) : Prop where
  phase : s'.phase w = s.phase w
  inbox : Table.Keeps w s.inbox s'.inbox
  deliveries : Table.Keeps w s.deliveries s'.deliveries
  outbox : Table.Keeps w s.outbox s'.outbox

theorem Frame.moveTo {w w' : Worker} {s s' : State} (frame : Frame w' s s') (ne : w' ≠ w)
    (p : Phase) : Frame w' s (s'.moveTo w p) :=
  ⟨by rw [← frame.phase]; exact Function.update_of_ne ne _ _, frame.inbox, frame.deliveries,
    frame.outbox⟩

theorem Frame.of_deliveries {w : Worker} {s : State} {T : Table Worker NotificationDelivery}
    (keeps : Table.Keeps w s.deliveries T) : Frame w s { s with deliveries := T } :=
  ⟨rfl, .refl w _, keeps, .refl w _⟩

theorem Frame.of_inbox {w : Worker} {s : State} {T : Table Worker InboxConsumption}
    (keeps : Table.Keeps w s.inbox T) : Frame w s { s with inbox := T } :=
  ⟨rfl, keeps, .refl w _, .refl w _⟩

theorem Frame.of_outbox {w : Worker} {s : State}
    {T : Table Worker (OutboxEvent NotificationEvent)}
    (keeps : Table.Keeps w s.outbox T) : Frame w s { s with outbox := T } :=
  ⟨rfl, .refl w _, .refl w _, keeps⟩

theorem Frame.refl (w : Worker) (s : State) : Frame w s s :=
  ⟨rfl, .refl w _, .refl w _, .refl w _⟩

theorem frame_commit {w w' : Worker} (s : State) (ne : w' ≠ w) : Frame w' s (s.commit w) :=
  ⟨Function.update_of_ne ne _ _, Table.keeps_commit ne, Table.keeps_commit ne,
    Table.keeps_commit ne⟩

theorem frame_rollback {w w' : Worker} (s : State) (ne : w' ≠ w) : Frame w' s (s.rollback w) :=
  ⟨Function.update_of_ne ne _ _, Table.keeps_rollback ne, Table.keeps_rollback ne,
    Table.keeps_rollback ne⟩

/-- An outbox insertion inserts the row or finds the key taken. -/
theorem insertOutbox_some {s : State} {w : Worker} {event : OutboxEvent NotificationEvent}
    {outbox : Table Worker (OutboxEvent NotificationEvent)}
    (h : s.insertOutbox w event = some outbox) :
    outbox = s.outbox.insert w event ∨
      (outbox = s.outbox ∧ ∃ k e, s.outbox.visible w k = some e ∧
        e.idempotencyKey = event.idempotencyKey) := by
  unfold State.insertOutbox at h
  split at h
  · cases h
  · split at h
    · cases h
      exact Or.inl rfl
    · rename_i taken
      cases h
      rw [List.isEmpty_iff] at taken
      obtain ⟨⟨k, e⟩, mem⟩ := List.exists_mem_of_ne_nil _ taken
      obtain ⟨stored, same⟩ := Table.mem_select.mp mem
      exact Or.inr ⟨rfl, k, e, stored, beq_iff_eq.mp same⟩

/-- **The frame of a statement**: it changes nothing for the other workers. -/
theorem Step.frame {s s' : State} {w w' : Worker} (step : Step s w s') (ne : w' ≠ w) :
    Frame w' s s' := by
  cases step with
  | selectDue limit token leaseSeconds now =>
    exact (Frame.of_deliveries (Table.keeps_lock ne _)).moveTo ne _
  | unclaimed => exact .refl w' s
  | selectClaimed f d => exact (Frame.of_deliveries (Table.keeps_lock ne _)).moveTo ne _
  | updateClaims due token leaseSeconds now =>
    exact (Frame.of_deliveries (Table.keeps_writeAll ne _)).moveTo ne _
  | insertOutbox f d event outbox category code detail _ _ _ inserted =>
    refine (Frame.of_outbox ?_).moveTo ne _
    rcases insertOutbox_some inserted with rfl | ⟨rfl, -⟩
    · exact Table.keeps_insert ne _
    · exact .refl w' _
  | flushSelected f d => exact (Frame.of_deliveries (Table.keeps_write ne _ _)).moveTo ne _
  | flushRetry f d => exact (Frame.of_deliveries (Table.keeps_write ne _ _)).moveTo ne _
  | flushDeadLetter f d => exact (Frame.of_deliveries (Table.keeps_write ne _ _)).moveTo ne _
  | loadInbox => exact (Frame.refl w' s).moveTo ne _
  | readStatuses => exact (Frame.refl w' s).moveTo ne _
  | keepInbox => exact (Frame.refl w' s).moveTo ne _
  | updateInbox => exact (Frame.of_inbox (Table.keeps_write ne _ _)).moveTo ne _
  | commitClaims => exact frame_commit s ne
  | commitFinish => exact frame_commit s ne
  | rollback => exact frame_rollback s ne

/-- The row `d` under `id` is locked by `w`, so its committed version stays `d`
until `w` ends its transaction. -/
structure Locked (s : State) (w : Worker) (id : Nat) (d : NotificationDelivery) : Prop where
  holder : s.deliveries.holder id = some w
  stored : s.deliveries.rows.get id = some d

theorem Locked.frame {s s' : State} {w : Worker} {id : Nat} {d : NotificationDelivery}
    (h : Locked s w id d) (frame : Frame w s s') : Locked s' w id d :=
  ⟨(frame.deliveries.holder id).mpr h.holder,
    (frame.deliveries.row id h.holder).trans h.stored⟩

/-- A finishing call has its delivery locked under its own claim. -/
structure Fenced (s : State) (w : Worker) (f : Finish) (d : NotificationDelivery) : Prop extends
    Locked s w f.deliveryId d where
  claimed : d.claimedBy f.token = true

theorem Fenced.frame {s s' : State} {w : Worker} {f : Finish} {d : NotificationDelivery}
    (h : Fenced s w f d) (frame : Frame w s s') : Fenced s' w f d :=
  ⟨h.toLocked.frame frame, h.claimed⟩

/-- What the transaction of `w` has locked and written, by phase. -/
def PhaseOk (s : State) (w : Worker) : Prop :=
  match s.phase w with
  | .idle => s.deliveries.Unwritten w ∧ s.inbox.Unwritten w
  | .claimSelected due _ _ now =>
      (∀ entry ∈ due, Locked s w entry.1 entry.2 ∧ entry.2.claimable now = true) ∧
        s.deliveries.Unwritten w ∧ s.inbox.Unwritten w
  | .claimFlushed _ token leaseSeconds now =>
      (∀ id row, s.deliveries.pending w id = some row →
        ∃ d, Locked s w id d ∧ d.claimable now = true ∧ row = d.claim token leaseSeconds now) ∧
        s.inbox.Unwritten w
  | .selected f d => Fenced s w f d ∧ s.deliveries.Unwritten w ∧ s.inbox.Unwritten w
  | .outboxAdded f d =>
      Fenced s w f d ∧ f.Final ∧ f.Allowed d ∧ s.deliveries.Unwritten w ∧ s.inbox.Unwritten w
  | .flushed f d | .inboxLoaded f d _ | .refreshed f d _ _ =>
      Fenced s w f d ∧ f.Final ∧ f.Allowed d ∧ s.deliveries.Wrote w f.deliveryId (f.row d) ∧
        s.inbox.Unwritten w
  | .committing f d =>
      Fenced s w f d ∧ f.Allowed d ∧ s.deliveries.Wrote w f.deliveryId (f.row d)

theorem PhaseOk.frame {s s' : State} {w : Worker} (ok : PhaseOk s w) (frame : Frame w s s') :
    PhaseOk s' w := by
  unfold PhaseOk at ok ⊢
  rw [frame.phase]
  cases phase : s.phase w with
  | idle =>
    rw [phase] at ok
    exact ⟨frame.deliveries.unwritten ok.1, frame.inbox.unwritten ok.2⟩
  | claimSelected due token leaseSeconds now =>
    rw [phase] at ok
    exact ⟨fun entry mem => ⟨(ok.1 entry mem).1.frame frame, (ok.1 entry mem).2⟩,
      frame.deliveries.unwritten ok.2.1, frame.inbox.unwritten ok.2.2⟩
  | claimFlushed due token leaseSeconds now =>
    rw [phase] at ok
    refine ⟨fun id row written => ?_, frame.inbox.unwritten ok.2⟩
    rw [frame.deliveries.pending] at written
    obtain ⟨d, locked, due, same⟩ := ok.1 id row written
    exact ⟨d, locked.frame frame, due, same⟩
  | selected f d =>
    rw [phase] at ok
    exact ⟨ok.1.frame frame, frame.deliveries.unwritten ok.2.1, frame.inbox.unwritten ok.2.2⟩
  | outboxAdded f d =>
    rw [phase] at ok
    obtain ⟨fenced, final, allowed, deliveries, inbox⟩ := ok
    exact ⟨fenced.frame frame, final, allowed, frame.deliveries.unwritten deliveries,
      frame.inbox.unwritten inbox⟩
  | flushed f d =>
    rw [phase] at ok
    obtain ⟨fenced, final, allowed, wrote, inbox⟩ := ok
    exact ⟨fenced.frame frame, final, allowed, frame.deliveries.wrote wrote,
      frame.inbox.unwritten inbox⟩
  | inboxLoaded f d inbox =>
    rw [phase] at ok
    obtain ⟨fenced, final, allowed, wrote, unwritten⟩ := ok
    exact ⟨fenced.frame frame, final, allowed, frame.deliveries.wrote wrote,
      frame.inbox.unwritten unwritten⟩
  | refreshed f d loaded changed =>
    rw [phase] at ok
    obtain ⟨fenced, final, allowed, wrote, unwritten⟩ := ok
    exact ⟨fenced.frame frame, final, allowed, frame.deliveries.wrote wrote,
      frame.inbox.unwritten unwritten⟩
  | committing f d =>
    rw [phase] at ok
    exact ⟨ok.1.frame frame, ok.2.1, frame.deliveries.wrote ok.2.2⟩

theorem Locked.lt {s : State} {w : Worker} {id : Nat} {d : NotificationDelivery}
    (h : Locked s w id d) : id < s.deliveries.rows.nextId :=
  Rows.lt_nextId h.stored

/-- The rows of a claim are free, claimable and stored when they are selected. -/
theorem mem_selectDue {s : State} {w : Worker} {limit : Nat} {now : Int}
    {entry : Nat × NotificationDelivery}
    (mem : entry ∈ dueDeliveries s.deliveries.rows limit now (s.deliveries.lockedIds w)) :
    s.deliveries.rows.get entry.1 = some entry.2 ∧ entry.2.claimable now = true ∧
      s.deliveries.free w entry.1 := by
  obtain ⟨stored, conditions⟩ := Rows.mem_select.mp (List.mem_of_mem_take mem)
  simp only [Bool.and_eq_true, Bool.not_eq_true', List.contains_eq_mem,
    decide_eq_false_iff_not] at conditions
  exact ⟨stored, conditions.1,
    (Table.free_iff_not_mem_lockedIds (Rows.lt_nextId stored)).mpr conditions.2⟩

/-- The flush of a fenced delivery is the only version its transaction wrote. -/
theorem fenced_flush {s : State} {w : Worker} {f : Finish} {d : NotificationDelivery} (p : Phase)
    (fenced : Fenced s w f d) (clean : s.deliveries.Unwritten w) :
    Fenced (s.flush w f d p) w f d ∧
      (s.flush w f d p).deliveries.Wrote w f.deliveryId (f.row d) := by
  have unlocked : s.deliveries.free w f.deliveryId := Or.inr fenced.holder
  refine ⟨⟨⟨?_, ?_⟩, fenced.claimed⟩, clean.write _ unlocked fenced.lt⟩
  · simp [State.flush, State.moveTo, Table.holder_write _ unlocked fenced.lt]
  · simpa [State.flush, State.moveTo] using fenced.stored

theorem Finish.allowed_delivered {f : Finish} {reference : Option String}
    (outcome : f.outcome = .delivered reference) (d : NotificationDelivery) :
    f.Final ∧ f.Allowed d := by
  simp [Finish.Final, Finish.Allowed, outcome]

theorem Finish.allowed_deadLetter {f : Finish} {category : NotificationErrorCategory}
    {code : Option String} {detail : String} {d : NotificationDelivery}
    {event : NotificationDeliveryDeadLetteredV1}
    (outcome : f.outcome = .deadLetter category code detail)
    (valid : NotificationDeliveryDeadLetteredV1.validate
      (deadLetterFields f.deliveryId category code f.now (f.row d)) = some event) :
    f.Final ∧ f.Allowed d := by
  refine ⟨by simp [Finish.Final, outcome], ?_⟩
  have fields := NotificationDeliveryDeadLetteredV1.validate_some valid
  simpa [Finish.Allowed, outcome, fields] using event.valid

/-- **The moving worker's transaction stays as its phase says.** -/
theorem Step.phaseOk {s s' : State} {w : Worker} (step : Step s w s') (ok : PhaseOk s w) :
    PhaseOk s' w := by
  cases step with
  | selectDue limit token leaseSeconds now phase =>
    simp only [PhaseOk, phase] at ok
    simp only [PhaseOk, State.selectDue, State.phase_moveTo_self]
    refine ⟨fun entry mem => ?_, ok.1.lock _, ok.2⟩
    obtain ⟨stored, due, unlocked⟩ := mem_selectDue mem
    refine ⟨⟨?_, stored⟩, due⟩
    exact Table.holder_lock (List.mem_map_of_mem mem) unlocked (Rows.lt_nextId stored)
  | unclaimed => exact ok
  | selectClaimed f d phase stored owned unlocked =>
    simp only [PhaseOk, phase] at ok
    simp only [PhaseOk, State.phase_moveTo_self]
    refine ⟨⟨⟨?_, stored⟩, owned⟩, ok.1.lock _, ok.2⟩
    exact Table.holder_lock List.mem_cons_self unlocked (Rows.lt_nextId stored)
  | updateClaims due token leaseSeconds now phase =>
    simp only [PhaseOk, phase] at ok
    simp only [PhaseOk, State.updateClaims, State.phase_moveTo_self]
    refine ⟨fun id row written => ?_, ok.2.2⟩
    have lookup : (claimAll due token leaseSeconds now).lookup id = some row := by
      have written' : (s.deliveries.writeAll w (claimAll due token leaseSeconds now)).pending w id =
          some row := written
      rw [Table.pending_writeAll ok.2.1] at written'
      split at written'
      · exact written'
      · cases written'
    obtain ⟨before, after, split, -⟩ := List.lookup_eq_some_iff.mp lookup
    have mem : (id, row) ∈ claimAll due token leaseSeconds now := by
      rw [split]; simp
    obtain ⟨⟨i, d⟩, inDue, same⟩ := List.mem_map.mp mem
    obtain ⟨rfl, rfl⟩ := Prod.mk.inj same
    obtain ⟨locked, claimable⟩ := ok.1 _ inDue
    exact ⟨d, ⟨locked.holder, locked.stored⟩, claimable, rfl⟩
  | insertOutbox f d event outbox category code detail phase outcome valid inserted =>
    simp only [PhaseOk, phase] at ok
    simp only [PhaseOk, State.phase_moveTo_self]
    obtain ⟨final, allowed⟩ := Finish.allowed_deadLetter outcome valid
    exact ⟨⟨⟨ok.1.holder, ok.1.stored⟩, ok.1.claimed⟩, final, allowed, ok.2.1, ok.2.2⟩
  | flushSelected f d reference phase outcome =>
    simp only [PhaseOk, phase] at ok
    obtain ⟨final, allowed⟩ := Finish.allowed_delivered outcome d
    obtain ⟨fenced, wrote⟩ := fenced_flush (.flushed f d) ok.1 ok.2.1
    simp only [PhaseOk, State.flush, State.phase_moveTo_self]
    exact ⟨fenced, final, allowed, wrote, ok.2.2⟩
  | flushRetry f d phase retry allowed =>
    simp only [PhaseOk, phase] at ok
    obtain ⟨fenced, wrote⟩ := fenced_flush (.committing f d) ok.1 ok.2.1
    simp only [PhaseOk, State.flush, State.phase_moveTo_self]
    exact ⟨fenced, allowed, wrote⟩
  | flushDeadLetter f d phase =>
    simp only [PhaseOk, phase] at ok
    obtain ⟨fenced, final, allowed, clean, unwritten⟩ := ok
    obtain ⟨fenced, wrote⟩ := fenced_flush (.flushed f d) fenced clean
    simp only [PhaseOk, State.flush, State.phase_moveTo_self]
    exact ⟨fenced, final, allowed, wrote, unwritten⟩
  | loadInbox f d inbox phase stored =>
    simp only [PhaseOk, phase] at ok
    simp only [PhaseOk, State.phase_moveTo_self]
    exact ⟨⟨⟨ok.1.holder, ok.1.stored⟩, ok.1.claimed⟩, ok.2⟩
  | readStatuses f d inbox phase =>
    simp only [PhaseOk, phase] at ok
    simp only [PhaseOk, State.readStatuses, State.phase_moveTo_self]
    exact ⟨⟨⟨ok.1.holder, ok.1.stored⟩, ok.1.claimed⟩, ok.2⟩
  | keepInbox f d loaded phase =>
    simp only [PhaseOk, phase] at ok
    simp only [PhaseOk, State.phase_moveTo_self]
    exact ⟨⟨⟨ok.1.holder, ok.1.stored⟩, ok.1.claimed⟩, ok.2.2.1, ok.2.2.2.1⟩
  | updateInbox f d loaded changed stored phase =>
    simp only [PhaseOk, phase] at ok
    simp only [PhaseOk, State.updateInbox, State.phase_moveTo_self]
    exact ⟨⟨⟨ok.1.holder, ok.1.stored⟩, ok.1.claimed⟩, ok.2.2.1, ok.2.2.2.1⟩
  | commitClaims =>
    simp only [PhaseOk, State.phase_commit_self]
    exact ⟨Table.unwritten_commit, Table.unwritten_commit⟩
  | commitFinish =>
    simp only [PhaseOk, State.phase_commit_self]
    exact ⟨Table.unwritten_commit, Table.unwritten_commit⟩
  | rollback =>
    simp only [PhaseOk, State.phase_rollback_self]
    exact ⟨Table.unwritten_rollback, Table.unwritten_rollback⟩

/-- Every open transaction is as its phase says. -/
def PhasesOk (s : State) : Prop := ∀ w, PhaseOk s w

theorem phasesOk_ofDb (db : Db) : PhasesOk (.ofDb db) :=
  fun _ => ⟨Table.unwritten_ofRows _, Table.unwritten_ofRows _⟩

theorem PhasesOk.step {s s' : State} {w : Worker} (ok : PhasesOk s) (step : Step s w s') :
    PhasesOk s' := by
  intro w'
  by_cases e : w' = w
  · subst e
    exact step.phaseOk (ok w')
  · exact (ok w').frame (step.frame e)

/-! ### Committed delivery rows -/

theorem Finish.rowStep {f : Finish} {d : NotificationDelivery} (now : Int)
    (claimed : d.claimedBy f.token = true) (allowed : f.Allowed d) :
    RowStep now d (f.row d) := by
  unfold Finish.row
  unfold Finish.Allowed at allowed
  cases outcome : f.outcome with
  | delivered reference => exact .deliver reference f.now claimed
  | retry nextAttemptAt category code detail =>
    rw [outcome] at allowed
    exact .retry nextAttemptAt category code detail claimed allowed
  | deadLetter category code detail => exact .deadLetter category code detail f.now claimed

theorem Finish.sameRequest (f : Finish) (d : NotificationDelivery) :
    SameRequest d (f.row d) := by
  unfold Finish.row
  cases f.outcome <;> exact ⟨rfl, rfl, rfl, rfl⟩

/-- **The statements refine the row machine**: whatever a statement makes
visible to others moves each stored delivery by `RowStep`, and none appears or
disappears. -/
theorem Step.row_step {s s' : State} {w : Worker} (step : Step s w s') (ok : PhaseOk s w)
    (id : Nat) :
    match s.deliveries.rows.get id with
    | none => s'.deliveries.rows.get id = none
    | some d => ∃ now d', s'.deliveries.rows.get id = some d' ∧ RowStep now d d' := by
  have keep : s'.deliveries.rows.get id = s.deliveries.rows.get id →
      match s.deliveries.rows.get id with
      | none => s'.deliveries.rows.get id = none
      | some d => ∃ now d', s'.deliveries.rows.get id = some d' ∧ RowStep now d d' := by
    intro same
    cases stored : s.deliveries.rows.get id with
    | none => exact same.trans stored
    | some d => exact ⟨0, d, same.trans stored, .keep⟩
  cases step with
  | flushSelected => exact keep (by simp [State.flush, State.moveTo])
  | flushRetry => exact keep (by simp [State.flush, State.moveTo])
  | flushDeadLetter => exact keep (by simp [State.flush, State.moveTo])
  | commitClaims due token leaseSeconds now phase =>
    simp only [PhaseOk, phase] at ok
    cases written : s.deliveries.pending w id with
    | none => exact keep (Table.visible_eq_rows written)
    | some row =>
      obtain ⟨d, locked, claimable, rfl⟩ := ok.1 id row written
      rw [locked.stored]
      exact ⟨now, _, Table.visible_of_pending written, .claim token leaseSeconds claimable⟩
  | commitFinish f d phase =>
    simp only [PhaseOk, phase] at ok
    obtain ⟨fenced, allowed, wrote⟩ := ok
    by_cases e : id = f.deliveryId
    · subst e
      rw [fenced.stored]
      exact ⟨0, _, wrote.visible_self, Finish.rowStep 0 fenced.claimed allowed⟩
    · exact keep (wrote.visible_of_ne e)
  | _ => exact keep rfl

/-- A terminal committed delivery is never changed again. -/
theorem Step.terminal_stays {s s' : State} {w : Worker} (step : Step s w s') (ok : PhaseOk s w)
    {id : Nat} {d : NotificationDelivery} (stored : s.deliveries.rows.get id = some d)
    (terminal : d.status.terminal = true) : s'.deliveries.rows.get id = some d := by
  have moved := step.row_step ok id
  rw [stored] at moved
  obtain ⟨now, d', stored', rowStep⟩ := moved
  rw [stored', rowStep.eq_of_terminal terminal]

end ApiObservatory.Notification.Statements
