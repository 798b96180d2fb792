import ApiObservatory.Notification.Statements

/-
Dead-lettered deliveries and their outbox events.

`dead_letter_delivery` writes the terminal status and the outbox event in one
transaction. `Corresponds` is what this gives for one delivery: the event under
its dead-letter key exists once if the committed row is dead-lettered and not
at all otherwise, and it describes the row. `OutboxOk` is the part of an open
transaction the proof needs: the uncommitted event of a dead-letter call is the
only outbox row its transaction wrote, under an id no committed row has.
-/

namespace ApiObservatory.Notification.Statements

open Foundation NotificationDelivery

/-- `e` is a committed outbox event under the dead-letter key of delivery `id`. -/
def DeadLetterEvent (s : State) (id k : Nat) (e : OutboxEvent NotificationEvent) : Prop :=
  s.outbox.rows.get k = some e ∧ e.idempotencyKey = dlqMessageId id

/-- The payload carries the data of the delivery `d` stored under `id`. -/
structure Describes (event : NotificationDeliveryDeadLetteredV1) (id : Nat)
    (d : NotificationDelivery) : Prop where
  deliveryId : event.deliveryId = id
  channel : event.channel = d.channel
  incidentId : event.incidentId = d.incidentId
  sourceId : event.sourceId = d.sourceId
  tenantId : event.tenantId = d.tenantId
  attemptCount : event.attemptCount = d.attemptCount
  firstAttemptAt : d.firstAttemptAt = some event.firstAttemptAt
  lastAttemptAt : d.lastAttemptAt = some event.lastAttemptAt

/-- Delivery `id`, committed as `d`, agrees with the committed outbox. -/
structure Corresponds (s : State) (id : Nat) (d : NotificationDelivery) : Prop where
  once : d.status = .deadLetter → ∃! k, ∃ e, DeadLetterEvent s id k e
  never : d.status ≠ .deadLetter → ∀ k e, ¬ DeadLetterEvent s id k e
  describes : ∀ k e, DeadLetterEvent s id k e →
    ∃ event, e.payload = .deadLettered event ∧ Describes event id d

/-- A delivery that is not dead-lettered has nothing to describe. -/
theorem Corresponds.of_never {s : State} {id : Nat} {d : NotificationDelivery}
    (alive : d.status ≠ .deadLetter) (never : ∀ k e, ¬ DeadLetterEvent s id k e) :
    Corresponds s id d :=
  ⟨fun dead => absurd dead alive, fun _ => never, fun k e here => absurd here (never k e)⟩

/-- The correspondence is about committed outbox rows only. -/
theorem Corresponds.congr {s s' : State} {id : Nat} {d : NotificationDelivery}
    (h : Corresponds s id d) (same : ∀ k, s'.outbox.rows.get k = s.outbox.rows.get k) :
    Corresponds s' id d := by
  have events : ∀ k e, DeadLetterEvent s' id k e ↔ DeadLetterEvent s id k e := by
    intro k e
    rw [DeadLetterEvent, same k, DeadLetterEvent]
  refine ⟨?_, ?_, ?_⟩
  · simpa only [events] using h.once
  · simpa only [events] using h.never
  · simpa only [events] using h.describes

/-- The uncommitted event of a dead-letter call. -/
structure EventWritten (s : State) (w : Worker) (f : Finish) (d : NotificationDelivery)
    (category : NotificationErrorCategory) (code : Option String) (k : Nat)
    (event : NotificationDeliveryDeadLetteredV1) : Prop where
  fields : event.toDeadLetterFields =
    deadLetterFields f.deliveryId category code f.now (f.row d)
  wrote : s.outbox.Wrote w k (deadLetterOutbox f.deliveryId (f.row d) event)
  unused : s.outbox.rows.get k = none

/-- What a finishing call has written to the outbox once its `INSERT` is behind
it. -/
def OutboxWritten (s : State) (w : Worker) (f : Finish) (d : NotificationDelivery) : Prop :=
  match f.outcome with
  | .deadLetter category code _ => ∃ k event, EventWritten s w f d category code k event
  | _ => s.outbox.Unwritten w

/-- The outbox part of the transaction of `w`, by phase. -/
def OutboxOk (s : State) (w : Worker) : Prop :=
  match s.phase w with
  | .idle | .claimSelected .. | .claimFlushed .. | .selected .. => s.outbox.Unwritten w
  | .outboxAdded f d | .flushed f d | .inboxLoaded f d _ | .refreshed f d _ _ | .committing f d =>
      OutboxWritten s w f d

theorem OutboxWritten.frame {s s' : State} {w : Worker} {f : Finish} {d : NotificationDelivery}
    (h : OutboxWritten s w f d) (keeps : Table.Keeps w s.outbox s'.outbox) :
    OutboxWritten s' w f d := by
  unfold OutboxWritten at h ⊢
  cases outcome : f.outcome with
  | delivered reference => rw [outcome] at h; exact keeps.unwritten h
  | retry nextAttemptAt category code detail => rw [outcome] at h; exact keeps.unwritten h
  | deadLetter category code detail =>
    rw [outcome] at h
    obtain ⟨k, event, fields, wrote, unused⟩ := h
    exact ⟨k, event, fields, keeps.wrote wrote, (keeps.row k wrote.holder).trans unused⟩

theorem OutboxOk.frame {s s' : State} {w : Worker} (ok : OutboxOk s w) (frame : Frame w s s') :
    OutboxOk s' w := by
  unfold OutboxOk at ok ⊢
  rw [frame.phase]
  cases phase : s.phase w <;> rw [phase] at ok
  case idle => exact frame.outbox.unwritten ok
  case claimSelected => exact frame.outbox.unwritten ok
  case claimFlushed => exact frame.outbox.unwritten ok
  case selected => exact frame.outbox.unwritten ok
  case outboxAdded => exact ok.frame frame.outbox
  case flushed => exact ok.frame frame.outbox
  case inboxLoaded => exact ok.frame frame.outbox
  case refreshed => exact ok.frame frame.outbox
  case committing => exact ok.frame frame.outbox

/-- The joint invariant. -/
structure DeadLetterInvariant (s : State) : Prop where
  phases : PhasesOk s
  outbox : ∀ w, OutboxOk s w
  corresponds : ∀ id d, s.deliveries.rows.get id = some d → Corresponds s id d

theorem DeadLetterInvariant.never {s : State} (inv : DeadLetterInvariant s) {w : Worker}
    {f : Finish} {d : NotificationDelivery} (fenced : Fenced s w f d) (k : Nat)
    (e : OutboxEvent NotificationEvent) : ¬ DeadLetterEvent s f.deliveryId k e := by
  refine (inv.corresponds _ d fenced.stored).never ?_ k e
  rw [(claimedBy_iff.mp fenced.claimed).1]
  decide

/-- The insertion of a dead-letter call finds no event under its key: its
delivery is fenced, so it is not dead-lettered yet. -/
theorem eventWritten_insertOutbox {s : State} (inv : DeadLetterInvariant s) {w : Worker}
    {f : Finish} {d : NotificationDelivery} {event : NotificationDeliveryDeadLetteredV1}
    {outbox : Table Worker (OutboxEvent NotificationEvent)}
    {category : NotificationErrorCategory} {code : Option String}
    (fenced : Fenced s w f d) (clean : s.outbox.Unwritten w)
    (valid : NotificationDeliveryDeadLetteredV1.validate
      (deadLetterFields f.deliveryId category code f.now (f.row d)) = some event)
    (inserted : s.insertOutbox w (deadLetterOutbox f.deliveryId (f.row d) event) = some outbox)
    (p : Phase) :
    EventWritten ({ s with outbox := outbox }.moveTo w p) w f d category code
      s.outbox.rows.nextId event := by
  rcases insertOutbox_some inserted with rfl | ⟨rfl, k, e, stored, key⟩
  · refine ⟨NotificationDeliveryDeadLetteredV1.validate_some valid, clean.insert _, ?_⟩
    exact s.outbox.rows.unused _ (Nat.le_refl _)
  · rw [clean.visible] at stored
    exact absurd ⟨stored, key⟩ (inv.never fenced k e)

/-- **The moving worker's outbox part stays as its phase says.** -/
theorem Step.outboxOk {s s' : State} {w : Worker} (step : Step s w s')
    (inv : DeadLetterInvariant s) : OutboxOk s' w := by
  have ok := inv.outbox w
  have phaseOk := inv.phases w
  cases step with
  | selectDue limit token leaseSeconds now phase =>
    simp only [OutboxOk, phase] at ok
    simp only [OutboxOk, State.selectDue, State.phase_moveTo_self]
    exact ok
  | unclaimed => exact ok
  | selectClaimed f d phase =>
    simp only [OutboxOk, phase] at ok
    simp only [OutboxOk, State.phase_moveTo_self]
    exact ok
  | updateClaims due token leaseSeconds now phase =>
    simp only [OutboxOk, phase] at ok
    simp only [OutboxOk, State.updateClaims, State.phase_moveTo_self]
    exact ok
  | insertOutbox f d event outbox category code detail phase outcome valid inserted =>
    simp only [OutboxOk, phase] at ok
    simp only [PhaseOk, phase] at phaseOk
    have written := eventWritten_insertOutbox inv phaseOk.1 ok valid inserted (.outboxAdded f d)
    simp only [OutboxOk, State.phase_moveTo_self, OutboxWritten, outcome]
    exact ⟨_, event, written⟩
  | flushSelected f d reference phase outcome =>
    simp only [OutboxOk, phase] at ok
    simp only [OutboxOk, State.flush, State.phase_moveTo_self, OutboxWritten, outcome]
    exact ok
  | flushRetry f d phase retry =>
    simp only [OutboxOk, phase] at ok
    simp only [OutboxOk, State.flush, State.phase_moveTo_self, OutboxWritten]
    cases outcome : f.outcome with
    | retry => exact ok
    | delivered => exact absurd (by simp [Finish.Final, outcome]) retry
    | deadLetter => exact absurd (by simp [Finish.Final, outcome]) retry
  | flushDeadLetter f d phase =>
    simp only [OutboxOk, phase] at ok
    simp only [OutboxOk, State.flush, State.phase_moveTo_self]
    exact ok.frame (.refl w _)
  | loadInbox f d inbox phase =>
    simp only [OutboxOk, phase] at ok
    simp only [OutboxOk, State.phase_moveTo_self]
    exact ok.frame (.refl w _)
  | readStatuses f d inbox phase =>
    simp only [OutboxOk, phase] at ok
    simp only [OutboxOk, State.readStatuses, State.phase_moveTo_self]
    exact ok.frame (.refl w _)
  | keepInbox f d loaded phase =>
    simp only [OutboxOk, phase] at ok
    simp only [OutboxOk, State.phase_moveTo_self]
    exact ok.frame (.refl w _)
  | updateInbox f d loaded changed stored phase =>
    simp only [OutboxOk, phase] at ok
    simp only [OutboxOk, State.updateInbox, State.phase_moveTo_self]
    exact ok.frame (.refl w _)
  | commitClaims =>
    simp only [OutboxOk, State.phase_commit_self]
    exact Table.unwritten_commit
  | commitFinish =>
    simp only [OutboxOk, State.phase_commit_self]
    exact Table.unwritten_commit
  | rollback =>
    simp only [OutboxOk, State.phase_rollback_self]
    exact Table.unwritten_rollback

/-! ### The committed tables -/

/-- A transaction that wrote nothing to the outbox keeps the correspondence of
every delivery it leaves as it was. -/
theorem Corresponds.commit_clean {s : State} {w : Worker} {id : Nat} {d : NotificationDelivery}
    (h : Corresponds s id d) (clean : s.outbox.Unwritten w) : Corresponds (s.commit w) id d :=
  h.congr fun k => clean.visible k

/-- The commit of a claim keeps the correspondence: what it claims is not
dead-lettered before or after. -/
theorem corresponds_commitClaims {s : State} (inv : DeadLetterInvariant s) {w : Worker}
    {due : List (Nat × NotificationDelivery)} {token : String} {leaseSeconds now : Int}
    (phase : s.phase w = .claimFlushed due token leaseSeconds now) {id : Nat}
    {d : NotificationDelivery} (stored : (s.commit w).deliveries.rows.get id = some d) :
    Corresponds (s.commit w) id d := by
  have clean : s.outbox.Unwritten w := by
    have ok := inv.outbox w
    simpa only [OutboxOk, phase] using ok
  have ok := inv.phases w
  simp only [PhaseOk, phase] at ok
  cases written : s.deliveries.pending w id with
  | none =>
    have before : s.deliveries.rows.get id = some d :=
      (Table.visible_eq_rows written).symm.trans stored
    exact (inv.corresponds id d before).commit_clean clean
  | some row =>
    obtain ⟨old, locked, claimable, rfl⟩ := ok.1 id row written
    have same : old.claim token leaseSeconds now = d :=
      Option.some.inj ((Table.visible_of_pending written).symm.trans stored)
    subst same
    have alive : old.status ≠ .deadLetter := by
      intro dead
      rw [not_claimable_of_terminal (by rw [dead]; rfl)] at claimable
      cases claimable
    refine Corresponds.of_never (by simp [NotificationDelivery.claim]) ?_
    exact ((inv.corresponds id old locked.stored).commit_clean clean).never alive

/-- What a dead-letter call publishes: the one event of its delivery. -/
theorem deadLetterEvent_commit {s : State} {w : Worker} {f : Finish} {d : NotificationDelivery}
    {category : NotificationErrorCategory} {code : Option String} {k : Nat}
    {event : NotificationDeliveryDeadLetteredV1}
    (written : EventWritten s w f d category code k event) (id k' : Nat)
    (e : OutboxEvent NotificationEvent) :
    DeadLetterEvent (s.commit w) id k' e ↔
      (k' = k ∧ id = f.deliveryId ∧ e = deadLetterOutbox f.deliveryId (f.row d) event) ∨
        DeadLetterEvent s id k' e := by
  unfold DeadLetterEvent
  by_cases same : k' = k
  · subst same
    rw [show (s.commit w).outbox.rows.get k' = _ from written.wrote.visible_self, written.unused]
    constructor
    · rintro ⟨stored, key⟩
      cases stored
      exact Or.inl ⟨rfl, (dlqMessageId_inj key).symm, rfl⟩
    · rintro (⟨-, rfl, rfl⟩ | ⟨absent, -⟩)
      · exact ⟨rfl, rfl⟩
      · cases absent
  · rw [show (s.commit w).outbox.rows.get k' = _ from written.wrote.visible_of_ne same]
    constructor
    · exact Or.inr
    · rintro (⟨e, -⟩ | here)
      · exact absurd e same
      · exact here

theorem describes_deadLetter {s : State} {w : Worker} {f : Finish} {d : NotificationDelivery}
    {category : NotificationErrorCategory} {code : Option String} {detail : String} {k : Nat}
    {event : NotificationDeliveryDeadLetteredV1}
    (outcome : f.outcome = .deadLetter category code detail)
    (written : EventWritten s w f d category code k event) :
    Describes event f.deliveryId (f.row d) := by
  have row : f.row d = d.deadLetter category code detail f.now := by
    simp [Finish.row, outcome]
  obtain ⟨fields, -, -⟩ := written
  rw [row] at fields ⊢
  constructor <;> rw [fields] <;> rfl

/-- The commit of a dead-letter call publishes status and event together. -/
theorem corresponds_deadLetter {s : State} (inv : DeadLetterInvariant s) {w : Worker} {f : Finish}
    {d : NotificationDelivery} {category : NotificationErrorCategory} {code : Option String}
    {detail : String} {k : Nat} {event : NotificationDeliveryDeadLetteredV1}
    (fenced : Fenced s w f d) (outcome : f.outcome = .deadLetter category code detail)
    (written : EventWritten s w f d category code k event) :
    Corresponds (s.commit w) f.deliveryId (f.row d) := by
  have events := deadLetterEvent_commit written f.deliveryId
  have dead : (f.row d).status = .deadLetter := by
    simp [Finish.row, outcome, NotificationDelivery.deadLetter, clearDeliveryClaim,
      setDeliveryError]
  refine ⟨fun _ => ⟨k, ⟨_, (events k _).mpr (Or.inl ⟨rfl, rfl, rfl⟩)⟩, ?_⟩,
    fun alive => absurd dead alive, ?_⟩
  · rintro k' ⟨e, here⟩
    rcases (events k' e).mp here with ⟨same, -, -⟩ | old
    · exact same
    · exact absurd old (inv.never fenced k' e)
  · intro k' e here
    rcases (events k' e).mp here with ⟨-, -, rfl⟩ | old
    · exact ⟨event, rfl, describes_deadLetter outcome written⟩
    · exact absurd old (inv.never fenced k' e)

/-- The commit of any finishing call keeps the correspondence. -/
theorem corresponds_commitFinish {s : State} (inv : DeadLetterInvariant s) {w : Worker}
    {f : Finish} {d : NotificationDelivery} (phase : s.phase w = .committing f d) {id : Nat}
    {row : NotificationDelivery} (stored : (s.commit w).deliveries.rows.get id = some row) :
    Corresponds (s.commit w) id row := by
  have outboxOk := inv.outbox w
  have ok := inv.phases w
  simp only [OutboxOk, phase, OutboxWritten] at outboxOk
  simp only [PhaseOk, phase] at ok
  obtain ⟨fenced, -, wrote⟩ := ok
  have fencedRow : id = f.deliveryId → row = f.row d := by
    rintro rfl
    exact Option.some.inj (stored.symm.trans wrote.visible_self)
  have otherRow : id ≠ f.deliveryId → s.deliveries.rows.get id = some row := fun ne =>
    (wrote.visible_of_ne ne).symm.trans stored
  -- A call that is not a dead letter leaves the outbox alone and its row alive.
  have clean : (f.row d).status ≠ .deadLetter → s.outbox.Unwritten w →
      Corresponds (s.commit w) id row := by
    intro alive unwritten
    by_cases e : id = f.deliveryId
    · rw [fencedRow e]
      refine Corresponds.of_never alive fun k event here => ?_
      rw [e, DeadLetterEvent, show (s.commit w).outbox.rows.get k = _ from unwritten.visible k]
        at here
      exact inv.never fenced k event here
    · exact (inv.corresponds id row (otherRow e)).commit_clean unwritten
  cases outcome : f.outcome with
  | delivered reference =>
    rw [outcome] at outboxOk
    refine clean ?_ outboxOk
    simp [Finish.row, outcome, markDelivered, clearDeliveryClaim, clearDeliveryError]
  | retry nextAttemptAt category code detail =>
    rw [outcome] at outboxOk
    refine clean ?_ outboxOk
    simp [Finish.row, outcome, scheduleRetry, clearDeliveryClaim, setDeliveryError]
  | deadLetter category code detail =>
    rw [outcome] at outboxOk
    obtain ⟨k, event, written⟩ := outboxOk
    by_cases e : id = f.deliveryId
    · rw [fencedRow e, e]
      exact corresponds_deadLetter inv fenced outcome written
    · have before := inv.corresponds id row (otherRow e)
      have events : ∀ k' e', DeadLetterEvent (s.commit w) id k' e' ↔ DeadLetterEvent s id k' e' := by
        intro k' e'
        rw [deadLetterEvent_commit written]
        exact ⟨fun h => h.resolve_left fun new => e new.2.1, Or.inr⟩
      refine ⟨?_, ?_, ?_⟩
      · simpa only [events] using before.once
      · simpa only [events] using before.never
      · simpa only [events] using before.describes

/-- **Every statement keeps the joint invariant.** -/
theorem DeadLetterInvariant.step {s s' : State} {w : Worker} (inv : DeadLetterInvariant s)
    (step : Step s w s') : DeadLetterInvariant s' := by
  refine ⟨inv.phases.step step, fun w' => ?_, fun id d stored => ?_⟩
  · by_cases e : w' = w
    · subst e
      exact step.outboxOk inv
    · exact (inv.outbox w').frame (step.frame e)
  · have quiet : s'.deliveries.rows.get id = s.deliveries.rows.get id →
        (∀ k, s'.outbox.rows.get k = s.outbox.rows.get k) → Corresponds s' id d := by
      intro same outbox
      exact (inv.corresponds id d (same.symm.trans stored)).congr outbox
    cases step with
    | insertOutbox f d event outbox category code detail _ _ _ inserted =>
      refine quiet rfl fun k => ?_
      rcases insertOutbox_some inserted with rfl | ⟨rfl, -⟩
      · exact Table.get_insert _ k
      · rfl
    | flushSelected => exact quiet (by simp [State.flush, State.moveTo]) fun _ => rfl
    | flushRetry => exact quiet (by simp [State.flush, State.moveTo]) fun _ => rfl
    | flushDeadLetter => exact quiet (by simp [State.flush, State.moveTo]) fun _ => rfl
    | commitClaims due token leaseSeconds now phase => exact corresponds_commitClaims inv phase stored
    | commitFinish f d phase => exact corresponds_commitFinish inv phase stored
    | _ => exact quiet rfl fun _ => rfl

/-- The database before the first claim: deliveries as the intake leaves them,
and no dead-letter event yet. -/
structure Accepted (db : Db) : Prop where
  fresh : ∀ id d, db.deliveries.get id = some d → Fresh d
  noDeadLetters : ∀ k e id, db.outbox.get k = some e → e.idempotencyKey ≠ dlqMessageId id

theorem Accepted.invariant {db : Db} (accepted : Accepted db) :
    DeadLetterInvariant (.ofDb db) := by
  refine ⟨phasesOk_ofDb db, fun w => Table.unwritten_ofRows _, fun id d stored => ?_⟩
  refine Corresponds.of_never ?_ fun k e here => accepted.noDeadLetters k e id here.1 here.2
  rw [(accepted.fresh id d stored).pending]
  decide

theorem deadLetterInvariant {db : Db} {s : State} {history : List (State × Label)}
    (accepted : Accepted db) (run : Run next (.ofDb db) history s) : DeadLetterInvariant s :=
  Run.stateInvariant accepted.invariant (fun inv step => inv.step (next_step step)) run

/-- **Dead letters and outbox events correspond.** In every state that any
interleaving of the statements of any number of workers reaches, rollbacks and
stale calls included, a delivery is committed as dead-lettered exactly when one
event is committed under its dead-letter key. Otherwise there is none. The
event describes the delivery as it was dead-lettered: the row does not change
any more. -/
theorem dead_letter_correspondence {db : Db} {s : State} {history : List (State × Label)}
    (accepted : Accepted db) (run : Run next (.ofDb db) history s) {id : Nat}
    {d : NotificationDelivery} (stored : s.deliveries.rows.get id = some d) :
    (d.status = .deadLetter ↔ ∃! k, ∃ e, DeadLetterEvent s id k e) ∧
      (d.status ≠ .deadLetter → ∀ k e, ¬ DeadLetterEvent s id k e) ∧
      (∀ k e, DeadLetterEvent s id k e →
        ∃ event, e.payload = .deadLettered event ∧ Describes event id d ∧
          ∀ later s', Run next s later s' → s'.deliveries.rows.get id = some d) := by
  have inv := deadLetterInvariant accepted run
  have corresponds := inv.corresponds id d stored
  refine ⟨⟨corresponds.once, ?_⟩, corresponds.never, ?_⟩
  · rintro ⟨k, ⟨e, here⟩, -⟩
    by_contra alive
    exact corresponds.never alive k e here
  · intro k e here
    obtain ⟨event, payload, describes⟩ := corresponds.describes k e here
    have dead : d.status = .deadLetter := by
      by_contra alive
      exact corresponds.never alive k e here
    refine ⟨event, payload, describes, fun later s' run' => ?_⟩
    have final : DeadLetterInvariant s' ∧ s'.deliveries.rows.get id = some d := by
      refine Run.stateInvariant (I := fun s => DeadLetterInvariant s ∧
        s.deliveries.rows.get id = some d) ⟨inv, stored⟩ ?_ run'
      rintro s₁ label s₂ ⟨inv₁, stored₁⟩ step
      have step := next_step step
      exact ⟨inv₁.step step, step.terminal_stays (inv₁.phases _) stored₁ (by rw [dead]; rfl)⟩
    exact final.2

/-! ### A stale worker and a rollback -/

/-- Worker 1 claims delivery 1 and loses its lease to worker 2, whose first
dead-letter transaction is rolled back; then worker 1 comes back. -/
def staleWorkerLabels : List Label :=
  let dead (token : String) (now : Int) : Finish :=
    ⟨1, token, .deadLetter .transport (some "timeout") "timed out", now⟩
  [.selectDue 1 1 "worker-1" 30 0, .advance 1, .advance 1,
    .selectDue 2 1 "worker-2" 30 (seconds 30), .advance 2, .advance 2,
    .selectClaimed 2 (dead "worker-2" (seconds 31)), .advance 2, .advance 2, .rollback 2,
    .selectClaimed 2 (dead "worker-2" (seconds 32)),
    .advance 2, .advance 2, .advance 2, .advance 2, .advance 2, .advance 2,
    .selectClaimed 1 (dead "worker-1" (seconds 40))]

theorem accepted_acceptedDb : Accepted acceptedDb where
  fresh _ _ := fresh_acceptedDb
  noDeadLetters k e id stored := by
    have absent : (Rows.empty : Rows (OutboxEvent NotificationEvent)).get k = none := rfl
    exact absurd (stored.symm.trans absent) nofun

theorem dead_letter_correspondence_stale :
    ∃ history s, Run next (.ofDb acceptedDb) history s ∧ ∃! k, ∃ e, DeadLetterEvent s 1 k e := by
  obtain ⟨history, run⟩ := run_of_isSome
    (show (finalState next (.ofDb acceptedDb) staleWorkerLabels).isSome = true by decide)
  obtain ⟨d, stored, dead⟩ : ∃ d, ((finalState next (.ofDb acceptedDb) staleWorkerLabels).get
      (by decide)).deliveries.rows.get 1 = some d ∧ d.status = .deadLetter := ⟨_, rfl, rfl⟩
  exact ⟨history, _, run, (dead_letter_correspondence accepted_acceptedDb run stored).1.mp dead⟩

end ApiObservatory.Notification.Statements
