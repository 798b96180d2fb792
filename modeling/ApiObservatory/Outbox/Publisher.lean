import ApiObservatory.Foundation.ReadCommitted
import ApiObservatory.Foundation.Run
import ApiObservatory.Repositories.Messaging
import Mathlib.Algebra.Group.Nat.Defs

/-
The notification outbox publisher, statement by statement
(`services/ingestor/notification_outbox_publisher.py`).

One pass claims a batch with a locking `SELECT`, `UPDATE` statements and a
`COMMIT`, and then serves it event by event: publish, fence `SELECT` by claim
token, `UPDATE` by primary key, `COMMIT`. The fence takes no lock. A pass works
with the in-memory rows of its claim, on a fresh session; it can die between
any two statements, and any number of passes run at once. The argument checks
of the batch function only narrow the runs and are left out.

`Step` lists the statements, `PhaseOk` what an open transaction has locked and
written, and `RowChange` how a committed event can change: by a claim or by a
mark.
-/

namespace ApiObservatory.Outbox

open Foundation

abbrev Worker := Nat

/-! ### Topics and retry delays -/

/-- `notification_outbox_topic`; `none` is its `ValueError`. -/
def notificationOutboxTopic (eventType : String) : Option String :=
  if eventType = eventNotificationDeliveryRequestedV1 then
    some topicNotificationDeliveryRequestsV1
  else if eventType = eventNotificationDeliveryDeadLetteredV1 then
    some topicNotificationDeliveryDlqV1
  else none

/-- `_OUTBOX_EVENT_TYPES`. -/
def outboxEventTypes : List String :=
  [eventNotificationDeliveryRequestedV1, eventNotificationDeliveryDeadLetteredV1]

/-- Each type the publisher claims has a topic. -/
theorem notificationOutboxTopic_isSome {eventType : String} (h : eventType ∈ outboxEventTypes) :
    (notificationOutboxTopic eventType).isSome := by
  simp only [outboxEventTypes, List.mem_cons, List.not_mem_nil, or_false] at h
  rcases h with rfl | rfl <;> decide

/-- `outbox_retry_delay_seconds`; `none` is its `ValueError`. -/
def outboxRetryDelaySeconds (publishAttempts : Nat) : Option Nat :=
  if publishAttempts < 1 then none else some (min (5 * 2 ^ min (publishAttempts - 1) 30) 300)

/-! ### The publisher -/

section Publisher

variable {Payload Value : Type}

/-- The arguments of `add_outbox_event`. -/
structure NewEvent (Payload : Type) where
  aggregateType : String
  aggregateId : String
  eventType : String
  payload : Payload
  idempotencyKey : String
  tenantId : Option Nat

/-- The inserted row: all other columns have their defaults. -/
def NewEvent.row (event : NewEvent Payload) : OutboxEvent Payload where
  aggregateType := event.aggregateType
  aggregateId := event.aggregateId
  eventType := event.eventType
  payload := event.payload
  idempotencyKey := event.idempotencyKey
  tenantId := event.tenantId

/-- What a pass records for an event. -/
inductive Mark where
  | published
  | failed (errorMessage : String) (nextAttemptAt : Int)

/-- The object after the assignments of the mark function. -/
def Mark.assign (mark : Mark) (currentTime : Int) (event : OutboxEvent Payload) :
    OutboxEvent Payload :=
  match mark with
  | .published => event.markPublished currentTime
  | .failed errorMessage nextAttemptAt => event.markPublishFailed errorMessage (some nextAttemptAt)

/-- One pass after its claim: its token, its clock time and the in-memory rows
it has not reached yet. -/
structure Pass (Payload : Type) where
  token : String
  now : Int
  rest : List (Nat × OutboxEvent Payload)

inductive Phase (Payload Value : Type) where
  | idle
  | claimSelected (due : List (Nat × OutboxEvent Payload)) (token : String)
      (leaseSeconds now : Int)
  | claimFlushed (due : List (Nat × OutboxEvent Payload)) (token : String)
      (leaseSeconds now : Int)
  | serving (pass : Pass Payload)
  | publishing (pass : Pass Payload) (entry : Nat × OutboxEvent Payload) (topic : String)
      (value : Value)
  | fencing (pass : Pass Payload) (entry : Nat × OutboxEvent Payload) (mark : Mark)
  | marking (pass : Pass Payload) (entry : Nat × OutboxEvent Payload) (mark : Mark)
  | marked (pass : Pass Payload) (entry : Nat × OutboxEvent Payload) (mark : Mark)

structure State (Payload Value : Type) where
  outbox : Table Worker (OutboxEvent Payload)
  issued : List String
  phase : Worker → Phase Payload Value

/-- The loop of `claim_pending_outbox_events` over the selected objects. -/
def claimAll (due : List (Nat × OutboxEvent Payload)) (token : String) (leaseSeconds now : Int) :
    List (Nat × OutboxEvent Payload) :=
  due.map fun entry => (entry.1, entry.2.claim token leaseSeconds now)

namespace State

def moveTo (s : State Payload Value) (w : Worker) (p : Phase Payload Value) :
    State Payload Value :=
  { s with phase := Function.update s.phase w p }

def commit (s : State Payload Value) (w : Worker) (p : Phase Payload Value) :
    State Payload Value :=
  { s with outbox := s.outbox.commit w }.moveTo w p

def rollback (s : State Payload Value) (w : Worker) : State Payload Value :=
  { s with outbox := s.outbox.rollback w }.moveTo w .idle

/-- A transaction that adds one event and commits. It waits for an uncommitted
event under the same key. -/
def add (s : State Payload Value) (w : Worker) (event : NewEvent Payload) :
    Option (State Payload Value) :=
  if s.outbox.contested w (·.idempotencyKey == event.idempotencyKey) then none
  else if (s.outbox.select w fun _ e => e.idempotencyKey == event.idempotencyKey).isEmpty then
    some { s with outbox := (s.outbox.insert w event.row).commit w }
  else some s

/-- The rows a claim of `w` selects. -/
def due (s : State Payload Value) (w : Worker) (limit : Nat) (now : Int) :
    List (Nat × OutboxEvent Payload) :=
  pendingOutboxEvents s.outbox.rows (some outboxEventTypes) limit now (s.outbox.lockedIds w)

def selectPending (s : State Payload Value) (w : Worker) (limit : Nat) (token : String)
    (leaseSeconds now : Int) : State Payload Value :=
  { s with
    outbox := s.outbox.lock w ((s.due w limit now).map Prod.fst)
    issued := token :: s.issued }.moveTo w
    (.claimSelected (s.due w limit now) token leaseSeconds now)

def updateClaims (s : State Payload Value) (w : Worker) (due : List (Nat × OutboxEvent Payload))
    (token : String) (leaseSeconds now : Int) : State Payload Value :=
  { s with outbox := s.outbox.writeAll w (claimAll due token leaseSeconds now) }.moveTo w
    (.claimFlushed due token leaseSeconds now)

/-- The `UPDATE` of a mark function over the version `stored`. -/
def updateMark (s : State Payload Value) (w : Worker) (pass : Pass Payload)
    (entry : Nat × OutboxEvent Payload) (mark : Mark) (stored : OutboxEvent Payload) :
    State Payload Value :=
  { s with
    outbox := s.outbox.write w entry.1
      (OutboxEvent.update entry.2 (mark.assign pass.now entry.2) stored) }.moveTo w
    (.marked pass entry mark)

end State

/-- The phase after an exception of the publish call. -/
def afterFailure (pass : Pass Payload) (entry : Nat × OutboxEvent Payload)
    (exceptionName : String) : Phase Payload Value :=
  match outboxRetryDelaySeconds entry.2.publishAttempts with
  | none => .idle
  | some delay =>
      .fencing pass entry
        (.failed s!"{exceptionName}: publish failed" (pass.now + seconds delay))

/-- The loop head of `publish_notification_outbox_batch`. -/
def serve (serialize : Payload → Value) (pass : Pass Payload) : Phase Payload Value :=
  match pass.rest with
  | [] => .idle
  | entry :: rest =>
      match notificationOutboxTopic entry.2.eventType with
      | some topic =>
          .publishing { pass with rest := rest } entry topic (serialize entry.2.payload)
      | none => afterFailure { pass with rest := rest } entry "ValueError"

inductive Label (Payload : Type) where
  | add (w : Worker) (event : NewEvent Payload)
  | selectPending (w : Worker) (limit : Nat) (token : String) (leaseSeconds now : Int)
  | publishReturned (w : Worker)
  | publishFailed (w : Worker) (exceptionName : String)
  | advance (w : Worker)
  | rollback (w : Worker)

def Label.worker : Label Payload → Worker
  | .add w _ => w
  | .selectPending w _ _ _ _ => w
  | .publishReturned w => w
  | .publishFailed w _ => w
  | .advance w => w
  | .rollback w => w

/-- The next statement of a pass. -/
def advance (serialize : Payload → Value) (s : State Payload Value) (w : Worker) :
    Option (State Payload Value) :=
  match s.phase w with
  | .idle => none
  | .claimSelected due token leaseSeconds now => some (s.updateClaims w due token leaseSeconds now)
  | .claimFlushed due token leaseSeconds now =>
      some (s.commit w (.serving ⟨token, now, claimAll due token leaseSeconds now⟩))
  | .serving pass => some (s.moveTo w (serve serialize pass))
  | .publishing .. => none
  | .fencing pass entry mark =>
      match (s.outbox.visible w entry.1).filter (·.fence (some pass.token)) with
      | none => some (s.moveTo w (.serving pass))
      | some _ => some (s.moveTo w (.marking pass entry mark))
  | .marking pass entry mark =>
      match s.outbox.visible w entry.1 with
      | none => some (s.rollback w)
      | some stored =>
          if s.outbox.free w entry.1 then some (s.updateMark w pass entry mark stored) else none
  | .marked pass _ _ => some (s.commit w (.serving pass))

/-- One statement of one worker, with tokens no pass has used before. -/
def next (serialize : Payload → Value) (s : State Payload Value) (label : Label Payload) :
    Option (State Payload Value) :=
  match s.phase label.worker, label with
  | .idle, .add w event => if event.eventType ∈ outboxEventTypes then s.add w event else none
  | .idle, .selectPending w limit token leaseSeconds now =>
      if token ∈ s.issued then none else some (s.selectPending w limit token leaseSeconds now)
  | .idle, _ => none
  | .publishing pass entry _ _, .publishReturned w =>
      some (s.moveTo w (.fencing pass entry .published))
  | .publishing pass entry _ _, .publishFailed w exceptionName =>
      some (s.moveTo w (afterFailure pass entry exceptionName))
  | _, .advance w => advance serialize s w
  | _, .rollback w => some (s.rollback w)
  | _, _ => none

/-- No event and no pass: everything happens in the run. -/
def initial : State Payload Value where
  outbox := .ofRows .empty
  issued := []
  phase _ := .idle

/-! ### What one statement does -/

/-- A change of phase that touches no table. `seen` is the committed version
of a row. -/
inductive Moves (serialize : Payload → Value) (seen : Nat → Option (OutboxEvent Payload))
    (w : Worker) : Phase Payload Value → Label Payload → Phase Payload Value → Prop where
  | serve (pass : Pass Payload) :
      Moves serialize seen w (.serving pass) (.advance w) (serve serialize pass)
  | returned (pass : Pass Payload) (entry : Nat × OutboxEvent Payload) (topic : String)
      (value : Value) :
      Moves serialize seen w (.publishing pass entry topic value) (.publishReturned w)
        (.fencing pass entry .published)
  | failed (pass : Pass Payload) (entry : Nat × OutboxEvent Payload) (topic : String)
      (value : Value) (exceptionName : String) :
      Moves serialize seen w (.publishing pass entry topic value) (.publishFailed w exceptionName)
        (afterFailure pass entry exceptionName)
  | refused (pass : Pass Payload) (entry : Nat × OutboxEvent Payload) (mark : Mark) :
      (seen entry.1).filter (·.fence (some pass.token)) = none →
      Moves serialize seen w (.fencing pass entry mark) (.advance w) (.serving pass)
  | passed (pass : Pass Payload) (entry : Nat × OutboxEvent Payload) (mark : Mark)
      (row : OutboxEvent Payload) :
      seen entry.1 = some row → row.claimToken = some pass.token →
      Moves serialize seen w (.fencing pass entry mark) (.advance w) (.marking pass entry mark)

/-- The statements, with what is known where they run. -/
inductive Step (serialize : Payload → Value) (s : State Payload Value) :
    Label Payload → State Payload Value → Prop where
  | add (w : Worker) (event : NewEvent Payload) :
      s.phase w = .idle → event.eventType ∈ outboxEventTypes →
      Step serialize s (.add w event)
        { s with outbox := (s.outbox.insert w event.row).commit w }
  | duplicate (w : Worker) (event : NewEvent Payload) :
      s.phase w = .idle → Step serialize s (.add w event) s
  | selectPending (w : Worker) (limit : Nat) (token : String) (leaseSeconds now : Int) :
      s.phase w = .idle → token ∉ s.issued →
      Step serialize s (.selectPending w limit token leaseSeconds now)
        (s.selectPending w limit token leaseSeconds now)
  | updateClaims (w : Worker) (due : List (Nat × OutboxEvent Payload)) (token : String)
      (leaseSeconds now : Int) :
      s.phase w = .claimSelected due token leaseSeconds now →
      Step serialize s (.advance w) (s.updateClaims w due token leaseSeconds now)
  | commitClaims (w : Worker) (due : List (Nat × OutboxEvent Payload)) (token : String)
      (leaseSeconds now : Int) :
      s.phase w = .claimFlushed due token leaseSeconds now →
      Step serialize s (.advance w)
        (s.commit w (.serving ⟨token, now, claimAll due token leaseSeconds now⟩))
  | move (w : Worker) (label : Label Payload) (p : Phase Payload Value) :
      label.worker = w → Moves serialize (s.outbox.visible w) w (s.phase w) label p →
      Step serialize s label (s.moveTo w p)
  | updateMark (w : Worker) (pass : Pass Payload) (entry : Nat × OutboxEvent Payload)
      (mark : Mark) (stored : OutboxEvent Payload) :
      s.phase w = .marking pass entry mark → s.outbox.visible w entry.1 = some stored →
      s.outbox.free w entry.1 →
      Step serialize s (.advance w) (s.updateMark w pass entry mark stored)
  | commitMark (w : Worker) (pass : Pass Payload) (entry : Nat × OutboxEvent Payload)
      (mark : Mark) :
      s.phase w = .marked pass entry mark →
      Step serialize s (.advance w) (s.commit w (.serving pass))
  | missingRow (w : Worker) (pass : Pass Payload) (entry : Nat × OutboxEvent Payload)
      (mark : Mark) :
      s.phase w = .marking pass entry mark → Step serialize s (.advance w) (s.rollback w)
  | rollback (w : Worker) : Step serialize s (.rollback w) (s.rollback w)

theorem step_add {serialize : Payload → Value} {s s' : State Payload Value} {w : Worker}
    {event : NewEvent Payload} (phase : s.phase w = .idle)
    (known : event.eventType ∈ outboxEventTypes) (h : s.add w event = some s') :
    Step serialize s (.add w event) s' := by
  unfold State.add at h
  split at h
  · cases h
  · split at h
    · cases h
      exact .add w event phase known
    · cases h
      exact .duplicate w event phase

theorem step_advance {serialize : Payload → Value} {s s' : State Payload Value} {w : Worker}
    (h : advance serialize s w = some s') : Step serialize s (.advance w) s' := by
  unfold advance at h
  cases phase : s.phase w with
  | idle => rw [phase] at h; cases h
  | claimSelected due token leaseSeconds now =>
    rw [phase] at h
    cases h
    exact .updateClaims w due token leaseSeconds now phase
  | claimFlushed due token leaseSeconds now =>
    rw [phase] at h
    cases h
    exact .commitClaims w due token leaseSeconds now phase
  | serving pass =>
    rw [phase] at h
    cases h
    exact .move w _ _ rfl (by rw [phase]; exact .serve pass)
  | publishing pass entry topic value => rw [phase] at h; cases h
  | fencing pass entry mark =>
    simp only [phase] at h
    split at h
    · rename_i absent
      cases h
      exact .move w _ _ rfl (by rw [phase]; exact .refused pass entry mark absent)
    · rename_i row found
      cases h
      obtain ⟨seen, fenced⟩ := Option.filter_eq_some_iff.mp found
      refine .move w _ _ rfl ?_
      rw [phase]
      exact .passed pass entry mark row seen (beq_iff_eq.mp fenced)
  | marking pass entry mark =>
    simp only [phase] at h
    split at h
    · cases h
      exact .missingRow w pass entry mark phase
    · rename_i stored seen
      split at h
      · rename_i unlocked
        cases h
        exact .updateMark w pass entry mark stored phase seen unlocked
      · cases h
  | marked pass entry mark =>
    rw [phase] at h
    cases h
    exact .commitMark w pass entry mark phase

/-- **Every enabled label is one of the statements.** -/
theorem next_step {serialize : Payload → Value} {s s' : State Payload Value}
    {label : Label Payload} (h : next serialize s label = some s') : Step serialize s label s' := by
  unfold next at h
  split at h
  · rename_i w event phase
    split at h
    · rename_i known
      exact step_add phase known h
    · cases h
  · rename_i w limit token leaseSeconds now phase
    split at h
    · cases h
    · rename_i unused
      cases h
      exact .selectPending w limit token leaseSeconds now phase unused
  · cases h
  · rename_i pass entry topic value w phase
    cases h
    refine .move w _ _ rfl ?_
    rw [show s.phase w = _ from phase]
    exact .returned pass entry topic value
  · rename_i pass entry topic value w exceptionName phase
    cases h
    refine .move w _ _ rfl ?_
    rw [show s.phase w = _ from phase]
    exact .failed pass entry topic value exceptionName
  · exact step_advance h
  · cases h
    exact .rollback _
  · cases h

/-! ### The open transactions -/

namespace State

@[simp] theorem phase_moveTo_self (s : State Payload Value) (w : Worker)
    (p : Phase Payload Value) : (s.moveTo w p).phase w = p := by
  simp [moveTo]

theorem phase_moveTo_of_ne (s : State Payload Value) {w w' : Worker} (ne : w' ≠ w)
    (p : Phase Payload Value) : (s.moveTo w p).phase w' = s.phase w' := by
  simp [moveTo, ne]

end State

section Frames

variable {serialize : Payload → Value} {s s' : State Payload Value} {label : Label Payload}
  {w : Worker}

/-- **The frame of a statement**: it changes nothing for the other workers. -/
theorem Step.frame (step : Step serialize s label s') (ne : w ≠ label.worker) :
    s'.phase w = s.phase w ∧ Table.Keeps w s.outbox s'.outbox := by
  cases step with
  | add => exact ⟨rfl, (Table.keeps_insert ne _).trans (Table.keeps_commit ne)⟩
  | duplicate => exact ⟨rfl, .refl w _⟩
  | selectPending => exact ⟨State.phase_moveTo_of_ne _ ne _, Table.keeps_lock ne _⟩
  | updateClaims => exact ⟨State.phase_moveTo_of_ne _ ne _, Table.keeps_writeAll ne _⟩
  | commitClaims => exact ⟨State.phase_moveTo_of_ne _ ne _, Table.keeps_commit ne⟩
  | move w₁ label p same moves =>
    exact ⟨State.phase_moveTo_of_ne _ (same ▸ ne) _, .refl w _⟩
  | updateMark => exact ⟨State.phase_moveTo_of_ne _ ne _, Table.keeps_write ne _ _⟩
  | commitMark => exact ⟨State.phase_moveTo_of_ne _ ne _, Table.keeps_commit ne⟩
  | missingRow => exact ⟨State.phase_moveTo_of_ne _ ne _, Table.keeps_rollback ne⟩
  | rollback => exact ⟨State.phase_moveTo_of_ne _ ne _, Table.keeps_rollback ne⟩

/-- The row `e` under `id` is locked by `w`, so its committed version stays `e`
until `w` ends its transaction. -/
structure Locked (s : State Payload Value) (w : Worker) (id : Nat) (e : OutboxEvent Payload) :
    Prop where
  holder : s.outbox.holder id = some w
  stored : s.outbox.rows.get id = some e

theorem Locked.keeps {id : Nat} {e : OutboxEvent Payload} (h : Locked s w id e)
    (keeps : Table.Keeps w s.outbox s'.outbox) : Locked s' w id e :=
  ⟨(keeps.holder id).mpr h.holder, (keeps.row id h.holder).trans h.stored⟩

/-- What the transaction of `w` has locked and written, by phase. -/
def PhaseOk (s : State Payload Value) (w : Worker) : Prop :=
  match s.phase w with
  | .claimSelected due _ _ now =>
      (∀ entry ∈ due, Locked s w entry.1 entry.2 ∧
        entry.2.claimable (some outboxEventTypes) now = true) ∧ s.outbox.Unwritten w
  | .claimFlushed due token leaseSeconds now =>
      (∀ entry ∈ due, Locked s w entry.1 entry.2 ∧
        entry.2.claimable (some outboxEventTypes) now = true ∧
        s.outbox.pending w entry.1 = some (entry.2.claim token leaseSeconds now)) ∧
        ∀ id row, s.outbox.pending w id = some row → ∃ e, (id, e) ∈ due
  | .marked pass entry mark => ∃ stored, Locked s w entry.1 stored ∧
      s.outbox.Wrote w entry.1
        (OutboxEvent.update entry.2 (mark.assign pass.now entry.2) stored)
  | _ => s.outbox.Unwritten w

theorem PhaseOk.keeps (ok : PhaseOk s w) (phase : s'.phase w = s.phase w)
    (keeps : Table.Keeps w s.outbox s'.outbox) : PhaseOk s' w := by
  unfold PhaseOk at ok ⊢
  rw [phase]
  cases current : s.phase w <;> rw [current] at ok
  case claimSelected =>
    exact ⟨fun entry mem => ⟨(ok.1 entry mem).1.keeps keeps, (ok.1 entry mem).2⟩,
      keeps.unwritten ok.2⟩
  case claimFlushed =>
    rw [keeps.pending]
    exact ⟨fun entry mem => ⟨(ok.1 entry mem).1.keeps keeps, (ok.1 entry mem).2⟩, ok.2⟩
  case marked =>
    obtain ⟨stored, locked, wrote⟩ := ok
    exact ⟨stored, locked.keeps keeps, keeps.wrote wrote⟩
  all_goals exact keeps.unwritten ok

/-- The rows of a claim are free, claimable and stored when they are selected. -/
theorem mem_due {limit : Nat} {now : Int} {entry : Nat × OutboxEvent Payload}
    (mem : entry ∈ s.due w limit now) :
    s.outbox.rows.get entry.1 = some entry.2 ∧
      entry.2.claimable (some outboxEventTypes) now = true ∧ s.outbox.free w entry.1 := by
  obtain ⟨stored, conditions⟩ := Rows.mem_select.mp (List.mem_of_mem_take mem)
  simp only [Bool.and_eq_true, Bool.not_eq_true', List.contains_eq_mem,
    decide_eq_false_iff_not] at conditions
  exact ⟨stored, conditions.1,
    (Table.free_iff_not_mem_lockedIds (Rows.lt_nextId stored)).mpr conditions.2⟩

/-- A phase in which no transaction has written. -/
def Quiet : Phase Payload Value → Prop
  | .claimSelected .. | .claimFlushed .. | .marked .. => False
  | _ => True

theorem phaseOk_of_quiet (quiet : Quiet (s.phase w)) (clean : s.outbox.Unwritten w) :
    PhaseOk s w := by
  unfold PhaseOk
  cases phase : s.phase w <;> rw [phase] at quiet
  case claimSelected => exact quiet.elim
  case claimFlushed => exact quiet.elim
  case marked => exact quiet.elim
  all_goals exact clean

theorem PhaseOk.unwritten (ok : PhaseOk s w) (quiet : Quiet (s.phase w)) :
    s.outbox.Unwritten w := by
  unfold PhaseOk at ok
  cases phase : s.phase w <;> rw [phase] at quiet ok
  case claimSelected => exact quiet.elim
  case claimFlushed => exact quiet.elim
  case marked => exact quiet.elim
  all_goals exact ok

theorem quiet_afterFailure (pass : Pass Payload) (entry : Nat × OutboxEvent Payload)
    (exceptionName : String) : Quiet (afterFailure pass entry exceptionName : Phase Payload Value) := by
  unfold afterFailure
  split <;> trivial

theorem quiet_serve (serialize : Payload → Value) (pass : Pass Payload) :
    Quiet (serve serialize pass) := by
  unfold serve
  split
  · trivial
  · split
    · trivial
    · exact quiet_afterFailure _ _ _

theorem Moves.quiet {seen : Nat → Option (OutboxEvent Payload)} {p p' : Phase Payload Value}
    (moves : Moves serialize seen w p label p') : Quiet p ∧ Quiet p' := by
  cases moves with
  | serve pass => exact ⟨trivial, quiet_serve serialize pass⟩
  | returned => exact ⟨trivial, trivial⟩
  | failed pass entry topic value exceptionName =>
    exact ⟨trivial, quiet_afterFailure pass entry exceptionName⟩
  | refused => exact ⟨trivial, trivial⟩
  | passed => exact ⟨trivial, trivial⟩

/-- The flush of a claim writes exactly the claimed rows. -/
theorem phaseOk_updateClaims {due : List (Nat × OutboxEvent Payload)} {token : String}
    {leaseSeconds now : Int} (locked : ∀ entry ∈ due, Locked s w entry.1 entry.2 ∧
      entry.2.claimable (some outboxEventTypes) now = true)
    (clean : s.outbox.Unwritten w) : PhaseOk (s.updateClaims w due token leaseSeconds now) w := by
  have pending : ∀ id, (s.updateClaims w due token leaseSeconds now).outbox.pending w id =
      if s.outbox.holder id = some w then (claimAll due token leaseSeconds now).lookup id
      else none := Table.pending_writeAll clean
  have ofLookup : ∀ id row, (claimAll due token leaseSeconds now).lookup id = some row →
      ∃ e, (id, e) ∈ due ∧ row = e.claim token leaseSeconds now := by
    intro id row lookup
    obtain ⟨before, after, split, -⟩ := List.lookup_eq_some_iff.mp lookup
    have mem : (id, row) ∈ claimAll due token leaseSeconds now := by
      rw [split]; simp
    obtain ⟨⟨i, e⟩, inDue, same⟩ := List.mem_map.mp mem
    obtain ⟨rfl, rfl⟩ := Prod.mk.inj same
    exact ⟨e, inDue, rfl⟩
  simp only [PhaseOk, State.updateClaims, State.phase_moveTo_self]
  refine ⟨fun entry mem => ⟨⟨(locked entry mem).1.holder, (locked entry mem).1.stored⟩,
    (locked entry mem).2, ?_⟩, fun id row written => ?_⟩
  · refine (pending entry.1).trans ?_
    rw [if_pos (locked entry mem).1.holder]
    cases lookup : (claimAll due token leaseSeconds now).lookup entry.1 with
    | none =>
      have absent := List.lookup_eq_none_iff.mp lookup
      have inKeys : (entry.1, entry.2.claim token leaseSeconds now) ∈
          claimAll due token leaseSeconds now := List.mem_map_of_mem mem
      simpa using absent _ inKeys
    | some row =>
      obtain ⟨e, inDue, rfl⟩ := ofLookup entry.1 row lookup
      have same : e = entry.2 := Option.some.inj
        ((locked (entry.1, e) inDue).1.stored.symm.trans (locked entry mem).1.stored)
      rw [same]
  · have written := (pending id).symm.trans written
    split at written
    · obtain ⟨e, inDue, -⟩ := ofLookup id row written
      exact ⟨e, inDue⟩
    · cases written

/-- **The moving worker's transaction stays as its phase says.** -/
theorem Step.phaseOk (step : Step serialize s label s') (ok : PhaseOk s label.worker) :
    PhaseOk s' label.worker := by
  cases step with
  | add w₁ event phase =>
    refine phaseOk_of_quiet ?_ Table.unwritten_commit
    change Quiet (s.phase w₁)
    rw [phase]
    trivial
  | duplicate => exact ok
  | selectPending w₁ limit token leaseSeconds now phase =>
    have clean : s.outbox.Unwritten w₁ := ok.unwritten (by
      change Quiet (s.phase w₁)
      rw [phase]
      trivial)
    simp only [Label.worker, PhaseOk, State.selectPending, State.phase_moveTo_self]
    refine ⟨fun entry mem => ?_, clean.lock _⟩
    obtain ⟨stored, claimable, unlocked⟩ := mem_due mem
    refine ⟨⟨?_, stored⟩, claimable⟩
    exact Table.holder_lock (List.mem_map_of_mem mem) unlocked (Rows.lt_nextId stored)
  | updateClaims w₁ due token leaseSeconds now phase =>
    simp only [PhaseOk, Label.worker, phase] at ok
    exact phaseOk_updateClaims ok.1 ok.2
  | commitClaims =>
    refine phaseOk_of_quiet ?_ Table.unwritten_commit
    simp [State.commit, Label.worker, Quiet]
  | move w₁ label p same moves =>
    subst same
    obtain ⟨quiet, quiet'⟩ := moves.quiet
    exact phaseOk_of_quiet (by rw [State.phase_moveTo_self]; exact quiet') (ok.unwritten quiet)
  | updateMark w₁ pass entry mark stored phase seen unlocked =>
    have clean : s.outbox.Unwritten w₁ := ok.unwritten (by
      change Quiet (s.phase w₁)
      rw [phase]
      trivial)
    rw [clean.visible] at seen
    simp only [Label.worker, PhaseOk, State.updateMark, State.phase_moveTo_self]
    refine ⟨stored, ⟨?_, ?_⟩, clean.write _ unlocked (Rows.lt_nextId seen)⟩
    · simp [State.moveTo, Table.holder_write _ unlocked (Rows.lt_nextId seen)]
    · simpa [State.moveTo] using seen
  | commitMark =>
    refine phaseOk_of_quiet ?_ Table.unwritten_commit
    simp [State.commit, Label.worker, Quiet]
  | missingRow =>
    refine phaseOk_of_quiet ?_ Table.unwritten_rollback
    simp [State.rollback, Label.worker, Quiet]
  | rollback =>
    refine phaseOk_of_quiet ?_ Table.unwritten_rollback
    simp [State.rollback, Label.worker, Quiet]

/-- Every open transaction is as its phase says. -/
def PhasesOk (s : State Payload Value) : Prop := ∀ w, PhaseOk s w

theorem PhasesOk.step (ok : PhasesOk s) (step : Step serialize s label s') : PhasesOk s' := by
  intro w
  by_cases e : w = label.worker
  · subst e
    exact step.phaseOk (ok _)
  · obtain ⟨phase, keeps⟩ := step.frame e
    exact (ok w).keeps phase keeps

/-! ### Committed events -/

/-- The step commits a claim of event `id`. -/
def commitsClaim (s : State Payload Value) (label : Label Payload) (id : Nat) : Bool :=
  match label with
  | .advance w =>
      match s.phase w with
      | .claimFlushed due _ _ _ => due.any fun entry => entry.1 == id
      | _ => false
  | _ => false

/-- What a step can make of the committed event `row` under `id`. -/
inductive RowChange (s : State Payload Value) (label : Label Payload) (id : Nat)
    (row : OutboxEvent Payload) : OutboxEvent Payload → Prop where
  | keep : commitsClaim s label id = false → RowChange s label id row row
  | claim (w : Worker) (due : List (Nat × OutboxEvent Payload)) (token : String)
      (leaseSeconds now : Int) :
      label = .advance w → s.phase w = .claimFlushed due token leaseSeconds now →
      (id, row) ∈ due → row.claimable (some outboxEventTypes) now = true →
      RowChange s label id row (row.claim token leaseSeconds now)
  | mark (w : Worker) (pass : Pass Payload) (entry : Nat × OutboxEvent Payload) (mark : Mark) :
      label = .advance w → s.phase w = .marked pass entry mark → entry.1 = id →
      s.outbox.holder id = some w →
      RowChange s label id row
        (OutboxEvent.update entry.2 (mark.assign pass.now entry.2) row)

/-- A move of phase commits nothing. -/
theorem Moves.uncounted {seen : Nat → Option (OutboxEvent Payload)} {p : Phase Payload Value}
    (moves : Moves serialize seen label.worker (s.phase label.worker) label p) (id : Nat) :
    commitsClaim s label id = false := by
  have quiet := moves.quiet.1
  cases label with
  | advance w =>
    simp only [commitsClaim]
    split
    · rename_i due token leaseSeconds now phase
      simp only [Label.worker, phase, Quiet] at quiet
    · rfl
  | _ => rfl

/-- **Committed events change only by claims and marks**, and a new one is a
row that `add_outbox_event` inserts. -/
theorem Step.row (step : Step serialize s label s') (ok : PhaseOk s label.worker) (id : Nat) :
    match s.outbox.rows.get id with
    | none => commitsClaim s label id = false ∧
        ∀ row', s'.outbox.rows.get id = some row' →
          ∃ event : NewEvent Payload, event.eventType ∈ outboxEventTypes ∧ row' = event.row
    | some row => ∃ row', s'.outbox.rows.get id = some row' ∧ RowChange s label id row row' := by
  have quietly : commitsClaim s label id = false →
      s'.outbox.rows.get id = s.outbox.rows.get id →
      match s.outbox.rows.get id with
      | none => commitsClaim s label id = false ∧
          ∀ row', s'.outbox.rows.get id = some row' →
            ∃ event : NewEvent Payload, event.eventType ∈ outboxEventTypes ∧ row' = event.row
      | some row => ∃ row', s'.outbox.rows.get id = some row' ∧ RowChange s label id row row' := by
    intro uncounted same
    cases stored : s.outbox.rows.get id with
    | none => exact ⟨uncounted, fun row' stored' => by rw [same, stored] at stored'; cases stored'⟩
    | some row => exact ⟨row, same.trans stored, .keep uncounted⟩
  cases step with
  | add w₁ event phase known =>
    have clean : s.outbox.Unwritten w₁ := ok.unwritten (by
      change Quiet (s.phase w₁)
      rw [phase]
      trivial)
    have wrote := clean.insert event.row
    by_cases e : id = s.outbox.rows.nextId
    · subst e
      rw [s.outbox.rows.unused _ (Nat.le_refl _)]
      refine ⟨rfl, fun row' stored' => ⟨event, known, ?_⟩⟩
      exact Option.some.inj (stored'.symm.trans wrote.visible_self)
    · exact quietly rfl (wrote.visible_of_ne e)
  | duplicate => exact quietly rfl rfl
  | selectPending => exact quietly rfl rfl
  | updateClaims w₁ due token leaseSeconds now phase =>
    exact quietly (by simp only [commitsClaim, phase]) rfl
  | commitClaims w₁ due token leaseSeconds now phase =>
    simp only [PhaseOk, Label.worker, phase] at ok
    by_cases mem : ∃ e, (id, e) ∈ due
    · obtain ⟨e, inDue⟩ := mem
      obtain ⟨locked, claimable, written⟩ := ok.1 (id, e) inDue
      rw [locked.stored]
      exact ⟨_, Table.visible_of_pending written,
        .claim w₁ due token leaseSeconds now rfl phase inDue claimable⟩
    · refine quietly ?_ (Table.visible_eq_rows ?_)
      · simp only [commitsClaim, phase, List.any_eq_false, beq_iff_eq]
        rintro ⟨i, e⟩ inDue rfl
        exact mem ⟨e, inDue⟩
      · cases written : s.outbox.pending w₁ id with
        | none => rfl
        | some row => exact absurd (ok.2 id row written) mem
  | move w₁ label p same moves =>
    subst same
    exact quietly (moves.uncounted id) rfl
  | updateMark w₁ pass entry mark stored phase =>
    exact quietly (by simp only [commitsClaim, phase]) (by simp [State.updateMark, State.moveTo])
  | commitMark w₁ pass entry mark phase =>
    simp only [PhaseOk, Label.worker, phase] at ok
    obtain ⟨stored, locked, wrote⟩ := ok
    by_cases e : id = entry.1
    · subst e
      rw [locked.stored]
      exact ⟨_, wrote.visible_self, .mark w₁ pass entry mark rfl phase rfl locked.holder⟩
    · exact quietly (by simp only [commitsClaim, phase]) (wrote.visible_of_ne e)
  | missingRow w₁ pass entry mark phase => exact quietly (by simp only [commitsClaim, phase]) rfl
  | rollback => exact quietly rfl rfl

/-- A stored event is still stored after the step, changed only by a claim or
a mark. -/
theorem Step.row_kept (step : Step serialize s label s') (ok : PhasesOk s) {id : Nat}
    {row : OutboxEvent Payload} (stored : s.outbox.rows.get id = some row) :
    ∃ row', s'.outbox.rows.get id = some row' ∧ RowChange s label id row row' := by
  have after := step.row (ok label.worker) id
  rw [stored] at after
  exact after

end Frames

end Publisher

end ApiObservatory.Outbox
