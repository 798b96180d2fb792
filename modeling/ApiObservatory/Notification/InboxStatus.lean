import ApiObservatory.Notification.Statements

/-
The inbox status and the deliveries of an inbox row.

A finishing call reads the statuses of the sibling deliveries without locking
them. Two calls that finish the last two deliveries of an inbox row can each
miss the other's uncommitted status, and then both leave the row in
`processing`: `inbox_left_processing` is such a run.

`BlindRead` is the read at which this becomes certain. It is the last one: each
other delivery of the inbox row is committed as terminal or belongs to a
transaction that has done its own read, and at least one is of the second kind.
In a run without a blind read the status agrees with the deliveries. The
invariant `Progress` says where the aggregate of an inbox row is still to come
from: a delivery whose finishing call has not read yet, a transaction that has
planned the right row, or neither because the row is there.
-/

namespace ApiObservatory.Notification.Statements

open Foundation NotificationDelivery

/-! ### Aggregates -/

/-- `inbox` is the aggregate of the deliveries of inbox row `i`. -/
structure Agrees (get : Nat → Option NotificationDelivery) (i : Nat) (inbox : InboxConsumption) :
    Prop where
  completed : (∀ id d, get id = some d → d.inboxConsumptionId = i → d.status = .delivered) →
    inbox.status = .completed
  deadLetter : (∀ id d, get id = some d → d.inboxConsumptionId = i → d.status = .deadLetter) →
    inbox.status = .deadLetter
  mixed : (∃ id d, get id = some d ∧ d.inboxConsumptionId = i ∧ d.status ≠ .delivered) →
    (∃ id d, get id = some d ∧ d.inboxConsumptionId = i ∧ d.status ≠ .deadLetter) →
    inbox.status = .completedWithDeadLetters
  processed : inbox.processedAt.isSome
  unleased : inbox.leaseExpiresAt = none

/-- An aggregate status is terminal. -/
theorem Agrees.terminal {get : Nat → Option NotificationDelivery} {i : Nat}
    {inbox : InboxConsumption} (h : Agrees get i inbox) : inbox.status.terminal = true := by
  by_cases delivered : ∀ id d, get id = some d → d.inboxConsumptionId = i → d.status = .delivered
  · rw [h.completed delivered]; rfl
  by_cases dead : ∀ id d, get id = some d → d.inboxConsumptionId = i → d.status = .deadLetter
  · rw [h.deadLetter dead]; rfl
  push Not at delivered dead
  rw [h.mixed delivered dead]
  rfl

/-- The aggregate depends on the deliveries of its inbox row only. -/
theorem Agrees.congr {get get' : Nat → Option NotificationDelivery} {i : Nat}
    {inbox : InboxConsumption} (h : Agrees get i inbox)
    (same : ∀ id d, d.inboxConsumptionId = i → (get' id = some d ↔ get id = some d)) :
    Agrees get' i inbox := by
  refine ⟨fun all => h.completed fun id d stored here => ?_,
    fun all => h.deadLetter fun id d stored here => ?_, ?_, h.processed, h.unleased⟩
  · exact all id d ((same id d here).mpr stored) here
  · exact all id d ((same id d here).mpr stored) here
  · rintro ⟨id, d, stored, here, status⟩ ⟨id', d', stored', here', status'⟩
    exact h.mixed ⟨id, d, (same id d here).mp stored, here, status⟩
      ⟨id', d', (same id' d' here').mp stored', here', status'⟩

/-- The row an `UPDATE` writes over the loaded one has the assigned columns. -/
theorem Agrees.inboxUpdate {get : Nat → Option NotificationDelivery} {i : Nat}
    {loaded changed : InboxConsumption} (h : Agrees get i changed) :
    Agrees get i (inboxUpdate loaded changed loaded) := by
  refine ⟨fun all => ?_, fun all => ?_, fun a b => ?_, ?_, ?_⟩ <;>
    simp only [Statements.inboxUpdate, columnUpdate_loaded]
  · exact h.completed all
  · exact h.deadLetter all
  · exact h.mixed a b
  · exact h.processed
  · exact h.unleased

/-- A status list that holds exactly the statuses of the deliveries of `i`. -/
def StatusesOf (get : Nat → Option NotificationDelivery) (i : Nat)
    (statuses : List DeliveryStatus) : Prop :=
  ∀ status, status ∈ statuses ↔
    ∃ id d, get id = some d ∧ d.inboxConsumptionId = i ∧ d.status = status

/-- `_refresh_inbox_status` computes the aggregate of terminal deliveries. -/
theorem refreshed_agrees {get : Nat → Option NotificationDelivery} {i : Nat}
    {statuses : List DeliveryStatus} (of : StatusesOf get i statuses)
    (some_delivery : ∃ id d, get id = some d ∧ d.inboxConsumptionId = i)
    (terminal : ∀ id d, get id = some d → d.inboxConsumptionId = i → d.status.terminal = true)
    (inbox : InboxConsumption) (now : Int) : Agrees get i (inbox.refreshed statuses now) := by
  obtain ⟨id₀, d₀, stored₀, here₀⟩ := some_delivery
  have mem₀ : d₀.status ∈ statuses := (of _).mpr ⟨id₀, d₀, stored₀, here₀, rfl⟩
  have finished : (statuses.isEmpty || !statuses.all DeliveryStatus.terminal) = false := by
    have nonempty : statuses.isEmpty = false :=
      List.isEmpty_eq_false_iff.mpr (List.ne_nil_of_mem mem₀)
    have all : statuses.all DeliveryStatus.terminal = true := by
      rw [List.all_eq_true]
      intro status mem
      obtain ⟨id, d, stored, here, rfl⟩ := (of status).mp mem
      exact terminal id d stored here
    rw [nonempty, all]; rfl
  have eachIs : ∀ status : DeliveryStatus, statuses.all (· == status) = true ↔
      ∀ id d, get id = some d → d.inboxConsumptionId = i → d.status = status := by
    intro status
    rw [List.all_eq_true]
    constructor
    · intro all id d stored here
      exact beq_iff_eq.mp (all d.status ((of _).mpr ⟨id, d, stored, here, rfl⟩))
    · intro all other mem
      obtain ⟨id, d, stored, here, rfl⟩ := (of other).mp mem
      exact beq_iff_eq.mpr (all id d stored here)
  have row : inbox.refreshed statuses now =
      { inbox with
        status :=
          if statuses.all (· == .delivered) then .completed
          else if statuses.all (· == .deadLetter) then .deadLetter
          else .completedWithDeadLetters
        leaseExpiresAt := none
        processedAt := some now } := by
    rw [InboxConsumption.refreshed, finished]
    rfl
  rw [row]
  refine ⟨fun all => ?_, fun all => ?_, fun some_not some_not' => ?_, rfl, rfl⟩
  · exact if_pos ((eachIs _).mpr all)
  · have notDelivered : ¬ statuses.all (· == .delivered) = true := by
      intro delivered
      have both := (all id₀ d₀ stored₀ here₀).symm.trans
        ((eachIs _).mp delivered id₀ d₀ stored₀ here₀)
      cases both
    exact (if_neg notDelivered).trans (if_pos ((eachIs _).mpr all))
  · have notDelivered : ¬ statuses.all (· == .delivered) = true := by
      intro delivered
      obtain ⟨id, d, stored, here, status⟩ := some_not
      exact status ((eachIs _).mp delivered id d stored here)
    have notDead : ¬ statuses.all (· == .deadLetter) = true := by
      intro dead
      obtain ⟨id, d, stored, here, status⟩ := some_not'
      exact status ((eachIs _).mp dead id d stored here)
    exact (if_neg notDelivered).trans (if_neg notDead)

/-- With a delivery that is not terminal, `_refresh_inbox_status` changes
nothing in a row that is still `processing`. -/
theorem refreshed_eq_self {get : Nat → Option NotificationDelivery} {i : Nat}
    {statuses : List DeliveryStatus} (of : StatusesOf get i statuses) {id : Nat}
    {d : NotificationDelivery} (stored : get id = some d) (here : d.inboxConsumptionId = i)
    (unfinished : d.status.terminal = false) {inbox : InboxConsumption}
    (processing : inbox.status = .processing) (now : Int) :
    inbox.refreshed statuses now = inbox := by
  have mem : d.status ∈ statuses := (of _).mpr ⟨id, d, stored, here, rfl⟩
  have some_not : statuses.all DeliveryStatus.terminal = false := by
    rw [List.all_eq_false]
    exact ⟨d.status, mem, by rw [unfinished]; decide⟩
  rw [InboxConsumption.refreshed, some_not]
  simp only [Bool.not_false, Bool.or_true, if_true]
  rw [← processing]

/-! ### Reads -/

/-- The transaction of `w` has flushed a terminal status and read the
statuses of the siblings. -/
def HasRead (s : State) (w : Worker) (f : Finish) (d : NotificationDelivery) : Prop :=
  (∃ loaded changed, s.phase w = .refreshed f d loaded changed) ∨
    (s.phase w = .committing f d ∧ f.Final)

/-- A sibling read of the call `f` would come last and miss a terminal status
of its inbox row. -/
def Blind (s : State) (f : Finish) (d : NotificationDelivery) : Prop :=
  (∀ id row, s.deliveries.rows.get id = some row →
    row.inboxConsumptionId = d.inboxConsumptionId →
    row.status.terminal = true ∨ id = f.deliveryId ∨
      ∃ w f' d', HasRead s w f' d' ∧ f'.deliveryId = id) ∧
  ∃ id row w f' d', s.deliveries.rows.get id = some row ∧
    row.inboxConsumptionId = d.inboxConsumptionId ∧ id ≠ f.deliveryId ∧
    HasRead s w f' d' ∧ f'.deliveryId = id

/-- The step is a blind sibling read. -/
def BlindRead (s : State) (label : Label) : Prop :=
  ∃ w f d inbox, label = .advance w ∧ s.phase w = .inboxLoaded f d inbox ∧ Blind s f d

theorem HasRead.writes {s : State} (phases : PhasesOk s) {w : Worker} {f : Finish}
    {d : NotificationDelivery} (read : HasRead s w f d) :
    Fenced s w f d ∧ f.Final ∧ s.deliveries.Wrote w f.deliveryId (f.row d) := by
  have ok := phases w
  rcases read with ⟨loaded, changed, phase⟩ | ⟨phase, final⟩
  · simp only [PhaseOk, phase] at ok
    exact ⟨ok.1, ok.2.1, ok.2.2.2.1⟩
  · simp only [PhaseOk, phase] at ok
    exact ⟨ok.1, final, ok.2.2⟩

theorem Fenced.unfinished {s : State} {w : Worker} {f : Finish} {d : NotificationDelivery}
    (h : Fenced s w f d) : d.status.terminal = false := by
  rw [(claimedBy_iff.mp h.claimed).1]
  rfl

theorem Finish.row_terminal {f : Finish} (d : NotificationDelivery) :
    (f.row d).status.terminal = true ↔ f.Final := by
  unfold Finish.row Finish.Final
  cases f.outcome <;> simp [markDelivered, scheduleRetry, NotificationDelivery.deadLetter,
    clearDeliveryClaim, clearDeliveryError, setDeliveryError, DeliveryStatus.terminal]

/-- Two transactions never finish the same delivery at once. -/
theorem Fenced.worker_eq {s : State} {w w' : Worker} {f f' : Finish} {d d' : NotificationDelivery}
    (h : Fenced s w f d) (h' : Fenced s w' f' d') (same : f'.deliveryId = f.deliveryId) :
    w' = w := by
  have holder := h'.holder
  rw [same, h.holder] at holder
  exact (Option.some.inj holder).symm

/-- A statement adds to the transactions that have read only by reading. -/
theorem Step.hasRead {s s' : State} {w w' : Worker} {f : Finish} {d : NotificationDelivery}
    (step : Step s w s') (read : HasRead s' w' f d) :
    HasRead s w' f d ∨ (w' = w ∧ ∃ inbox, s.phase w = .inboxLoaded f d inbox ∧
      s' = s.readStatuses w f d inbox) := by
  by_cases e : w' = w
  · subst e
    unfold HasRead at read ⊢
    cases step with
    | unclaimed => exact Or.inl read
    | flushRetry f₁ d₁ phase retry allowed =>
      simp only [State.flush, State.phase_moveTo_self] at read
      rcases read with ⟨loaded, changed, absurdPhase⟩ | ⟨same, final⟩
      · cases absurdPhase
      · cases same
        exact absurd final retry
    | readStatuses f₁ d₁ inbox phase =>
      simp only [State.readStatuses, State.phase_moveTo_self] at read
      rcases read with ⟨loaded, changed, same⟩ | ⟨same, -⟩
      · cases same
        exact Or.inr ⟨rfl, inbox, phase, rfl⟩
      · cases same
    | keepInbox f₁ d₁ loaded phase =>
      simp only [State.phase_moveTo_self] at read
      rcases read with ⟨loaded, changed, same⟩ | ⟨same, -⟩
      · cases same
      · cases same
        exact Or.inl (Or.inl ⟨loaded, loaded, phase⟩)
    | updateInbox f₁ d₁ loaded changed stored phase =>
      simp only [State.updateInbox, State.phase_moveTo_self] at read
      rcases read with ⟨loaded, changed, same⟩ | ⟨same, -⟩
      · cases same
      · cases same
        exact Or.inl (Or.inl ⟨loaded, changed, phase⟩)
    | _ =>
      rcases read with ⟨loaded, changed, same⟩ | ⟨same, -⟩ <;>
        simp [State.selectDue, State.updateClaims, State.flush] at same
  · left
    simpa only [HasRead, (step.frame e).phase] using read

/-! ### The invariant -/

/-- Every delivery of the inbox row, but for the one that is being finished, is
committed as terminal. -/
def OthersTerminal (s : State) (f : Finish) (d : NotificationDelivery) : Prop :=
  ∀ id row, s.deliveries.rows.get id = some row →
    row.inboxConsumptionId = d.inboxConsumptionId → id ≠ f.deliveryId →
    row.status.terminal = true

/-- The transaction of `w` finishes the last delivery of its inbox row and will
commit the aggregate. -/
def WillAgree (s : State) (w : Worker) (f : Finish) (d : NotificationDelivery) : Prop :=
  OthersTerminal s f d ∧
    ((∃ loaded changed, s.phase w = .refreshed f d loaded changed ∧
        Agrees (s.deliveries.visible w) d.inboxConsumptionId changed) ∨
      (s.phase w = .committing f d ∧ f.Final ∧ ∃ row,
        s.inbox.Wrote w d.inboxConsumptionId row ∧
        Agrees (s.deliveries.visible w) d.inboxConsumptionId row))

theorem WillAgree.hasRead {s : State} {w : Worker} {f : Finish} {d : NotificationDelivery}
    (h : WillAgree s w f d) : HasRead s w f d := by
  rcases h.2 with ⟨loaded, changed, phase, -⟩ | ⟨phase, final, -⟩
  · exact Or.inl ⟨loaded, changed, phase⟩
  · exact Or.inr ⟨phase, final⟩

/-- The database after the intake of the requests: every delivery is fresh and
its inbox row is in `processing`. -/
structure Materialized (db : Db) : Prop where
  fresh : ∀ id d, db.deliveries.get id = some d → Fresh d ∧ d.deletedAt = none
  inbox : ∀ id d, db.deliveries.get id = some d →
    ∃ inbox, db.inbox.get d.inboxConsumptionId = some inbox ∧ inbox.status = .processing

/-- The inbox part of the transaction of `w`, by phase. -/
def InboxOk (db : Db) (s : State) (w : Worker) : Prop :=
  match s.phase w with
  | .inboxLoaded _ d inbox => db.inbox.get d.inboxConsumptionId = some inbox
  | .refreshed f d loaded changed =>
      db.inbox.get d.inboxConsumptionId = some loaded ∧ (changed = loaded ∨ WillAgree s w f d)
  | .committing f d => s.inbox.Unwritten w ∨ WillAgree s w f d
  | _ => True

/-- The delivery is not terminal and no transaction that finishes it has read
the sibling statuses yet. -/
structure Unread (s : State) (i id : Nat) (d : NotificationDelivery) : Prop where
  stored : s.deliveries.rows.get id = some d
  here : d.inboxConsumptionId = i
  unfinished : d.status.terminal = false
  unread : ∀ w f d', HasRead s w f d' → f.deliveryId ≠ id

/-- All deliveries of the inbox row are terminal and it holds their aggregate. -/
def Aggregated (s : State) (i : Nat) : Prop :=
  (∀ id d, s.deliveries.rows.get id = some d → d.inboxConsumptionId = i →
    d.status.terminal = true) ∧
    ∃ inbox, s.inbox.rows.get i = some inbox ∧ Agrees s.deliveries.rows.get i inbox

/-- Where the aggregate of inbox row `i` comes from. -/
def Progress (s : State) (i : Nat) : Prop :=
  (∃ id d, Unread s i id d) ∨
    (∃ w f d, d.inboxConsumptionId = i ∧ WillAgree s w f d) ∨ Aggregated s i

structure InboxInvariant (db : Db) (s : State) : Prop where
  phases : PhasesOk s
  rows : ∀ id d, s.deliveries.rows.get id = some d → d.deletedAt = none ∧
    ∃ inbox, db.inbox.get d.inboxConsumptionId = some inbox ∧ inbox.status = .processing
  inbox : ∀ w, InboxOk db s w
  untouched : ∀ id d, s.deliveries.rows.get id = some d → d.status.terminal = false →
    s.inbox.rows.get d.inboxConsumptionId = db.inbox.get d.inboxConsumptionId
  progress : ∀ id d, s.deliveries.rows.get id = some d → Progress s d.inboxConsumptionId

/-! ### The deliveries of one inbox row -/

/-- Every committed row after a statement was a row of the same request
before. -/
theorem Step.row_before {s s' : State} {w : Worker} (step : Step s w s') (phases : PhasesOk s)
    {id : Nat} {d' : NotificationDelivery} (stored' : s'.deliveries.rows.get id = some d') :
    ∃ now d, s.deliveries.rows.get id = some d ∧ RowStep now d d' := by
  have moved := step.row_step (phases w) id
  cases stored : s.deliveries.rows.get id with
  | none =>
    rw [stored] at moved
    rw [moved] at stored'
    cases stored'
  | some d =>
    rw [stored] at moved
    obtain ⟨now, d'', stored'', rowStep⟩ := moved
    rw [stored''] at stored'
    cases stored'
    exact ⟨now, d, rfl, rowStep⟩

/-- The deliveries of an inbox row stay as they are while each is terminal or
locked by another transaction. -/
theorem Step.family {s s' : State} {w : Worker} (step : Step s w s') (phases : PhasesOk s)
    {i : Nat}
    (settled : ∀ id d, s.deliveries.rows.get id = some d → d.inboxConsumptionId = i →
      d.status.terminal = true ∨ ∃ w', w' ≠ w ∧ s.deliveries.holder id = some w')
    (id : Nat) (d : NotificationDelivery) (here : d.inboxConsumptionId = i) :
    s'.deliveries.rows.get id = some d ↔ s.deliveries.rows.get id = some d := by
  have stays : ∀ row, s.deliveries.rows.get id = some row → row.inboxConsumptionId = i →
      s'.deliveries.rows.get id = some row := by
    intro row stored inFamily
    rcases settled id row stored inFamily with terminal | ⟨w', ne, holder⟩
    · exact step.terminal_stays (phases w) stored terminal
    · exact ((step.frame ne).deliveries.row id holder).trans stored
  constructor
  · intro stored'
    obtain ⟨now, row, stored, rowStep⟩ := step.row_before phases stored'
    have after := stays row stored (rowStep.sameRequest.inboxConsumptionId.symm.trans here)
    rw [stored', ← stored] at after
    exact after.symm
  · intro stored
    exact stays d stored here

/-- What a transaction sees of an inbox row follows its committed rows. -/
theorem visible_family {T T' : Table Worker NotificationDelivery} {w : Worker} {i : Nat}
    (pending : T'.pending w = T.pending w)
    (rows : ∀ id d, d.inboxConsumptionId = i → (T'.rows.get id = some d ↔ T.rows.get id = some d))
    (id : Nat) (d : NotificationDelivery) (here : d.inboxConsumptionId = i) :
    T'.visible w id = some d ↔ T.visible w id = some d := by
  unfold Table.visible
  rw [pending]
  cases T.pending w id with
  | none => simpa using rows id d here
  | some row => simp

/-- **A planned aggregate stays right** while other workers move. -/
theorem WillAgree.frame {s s' : State} {w w' : Worker} {f : Finish} {d : NotificationDelivery}
    (h : WillAgree s w' f d) (phases : PhasesOk s) (step : Step s w s') (ne : w' ≠ w) :
    WillAgree s' w' f d := by
  obtain ⟨fenced, -, -⟩ := h.hasRead.writes phases
  have frame := step.frame ne
  have family := step.family phases (i := d.inboxConsumptionId) fun id row stored here => by
    by_cases e : id = f.deliveryId
    · exact Or.inr ⟨w', ne, by rw [e]; exact fenced.holder⟩
    · exact Or.inl (h.1 id row stored here e)
  refine ⟨fun id row stored here => h.1 id row ((family id row here).mp stored) here, ?_⟩
  have visible := visible_family frame.deliveries.pending family
  rcases h.2 with ⟨loaded, changed, phase, agrees⟩ | ⟨phase, final, row, wrote, agrees⟩
  · exact Or.inl ⟨loaded, changed, frame.phase.trans phase, agrees.congr visible⟩
  · exact Or.inr ⟨frame.phase.trans phase, final, row, frame.inbox.wrote wrote,
      agrees.congr visible⟩

theorem InboxOk.frame {db : Db} {s s' : State} {w w' : Worker} (ok : InboxOk db s w')
    (phases : PhasesOk s) (step : Step s w s') (ne : w' ≠ w) : InboxOk db s' w' := by
  unfold InboxOk at ok ⊢
  rw [(step.frame ne).phase]
  cases phase : s.phase w' <;> rw [phase] at ok
  case inboxLoaded => exact ok
  case refreshed =>
    exact ⟨ok.1, ok.2.imp_right fun planned => planned.frame phases step ne⟩
  case committing =>
    exact ok.imp (step.frame ne).inbox.unwritten fun planned => planned.frame phases step ne
  all_goals trivial

/-! ### The moving worker -/

section Mover

variable {db : Db} {s s' : State} {w : Worker}

/-- The statuses a finishing call reads are those of the deliveries it sees. -/
theorem statusesOf_siblingStatuses (inv : InboxInvariant db s) {f : Finish}
    {d : NotificationDelivery} (fenced : Fenced s w f d)
    (wrote : s.deliveries.Wrote w f.deliveryId (f.row d)) (i : Nat) :
    StatusesOf (s.deliveries.visible w) i (s.siblingStatuses w i) := by
  have live : ∀ id row, s.deliveries.visible w id = some row → row.deletedAt = none := by
    intro id row seen
    by_cases e : id = f.deliveryId
    · rw [e, wrote.visible_self] at seen
      cases seen
      have same := (f.sameRequest d).deletedAt
      exact same.trans (inv.rows _ d fenced.stored).1
    · rw [wrote.visible_of_ne e] at seen
      exact (inv.rows id row seen).1
  intro status
  simp only [State.siblingStatuses, List.mem_map, Prod.exists, Table.mem_select,
    Bool.and_eq_true, beq_iff_eq, Option.isNone_iff_eq_none]
  constructor
  · rintro ⟨id, row, ⟨seen, here, -⟩, same⟩
    exact ⟨id, row, seen, here, same⟩
  · rintro ⟨id, row, seen, here, same⟩
    exact ⟨id, row, ⟨seen, here, live id row seen⟩, same⟩

/-- The sibling read of a call whose siblings are all terminal plans the
aggregate. -/
theorem willAgree_readStatuses (inv : InboxInvariant db s) {f : Finish}
    {d : NotificationDelivery} {inbox : InboxConsumption}
    (phase : s.phase w = .inboxLoaded f d inbox) (others : OthersTerminal s f d) :
    WillAgree (s.readStatuses w f d inbox) w f d := by
  have ok := inv.phases w
  simp only [PhaseOk, phase] at ok
  obtain ⟨fenced, final, -, wrote, -⟩ := ok
  refine ⟨others, Or.inl ⟨_, _, State.phase_moveTo_self _ _ _, ?_⟩⟩
  refine refreshed_agrees (statusesOf_siblingStatuses inv fenced wrote _) ?_ ?_ _ _
  · exact ⟨f.deliveryId, f.row d, wrote.visible_self,
      (f.sameRequest d).inboxConsumptionId⟩
  · intro id row seen here
    by_cases e : id = f.deliveryId
    · have same : row = f.row d := by
        rw [e] at seen
        exact Option.some.inj (seen.symm.trans wrote.visible_self)
      rw [same]
      exact (Finish.row_terminal d).mpr final
    · exact others id row ((wrote.visible_of_ne e).symm.trans seen) here e

/-- The sibling read of any other call plans no change. -/
theorem refreshed_of_unfinished_sibling (inv : InboxInvariant db s) {f : Finish}
    {d : NotificationDelivery} {inbox : InboxConsumption}
    (phase : s.phase w = .inboxLoaded f d inbox) (some_open : ¬ OthersTerminal s f d) :
    inbox.refreshed (s.siblingStatuses w d.inboxConsumptionId) f.now = inbox := by
  have ok := inv.phases w
  have loaded := inv.inbox w
  simp only [PhaseOk, phase] at ok
  simp only [InboxOk, phase] at loaded
  obtain ⟨fenced, -, -, wrote, -⟩ := ok
  unfold OthersTerminal at some_open
  push Not at some_open
  obtain ⟨id, row, stored, here, ne, unfinished⟩ := some_open
  obtain ⟨-, row₀, stored₀, processing⟩ := inv.rows _ d fenced.stored
  rw [loaded] at stored₀
  cases stored₀
  have seen : s.deliveries.visible w id = some row := (wrote.visible_of_ne ne).trans stored
  exact refreshed_eq_self (statusesOf_siblingStatuses inv fenced wrote _) seen here
    (by simpa using unfinished) processing f.now

/-- **The moving worker's inbox part stays as its phase says.** -/
theorem Step.inboxOk (step : Step s w s') (inv : InboxInvariant db s) : InboxOk db s' w := by
  have ok := inv.phases w
  have inboxOk := inv.inbox w
  cases step with
  | unclaimed => exact inboxOk
  | flushRetry f d phase retry allowed =>
    simp only [PhaseOk, phase] at ok
    simp only [InboxOk, State.flush, State.phase_moveTo_self]
    exact Or.inl ok.2.2
  | loadInbox f d inbox phase stored =>
    simp only [PhaseOk, phase] at ok
    obtain ⟨fenced, -, -, -, clean⟩ := ok
    simp only [InboxOk, State.phase_moveTo_self]
    rw [clean.visible, inv.untouched _ d fenced.stored fenced.unfinished] at stored
    exact stored
  | readStatuses f d inbox phase =>
    simp only [InboxOk, phase] at inboxOk
    simp only [InboxOk, State.readStatuses, State.phase_moveTo_self]
    refine ⟨inboxOk, ?_⟩
    by_cases others : OthersTerminal s f d
    · exact Or.inr (willAgree_readStatuses inv phase others)
    · exact Or.inl (refreshed_of_unfinished_sibling inv phase others)
  | keepInbox f d loaded phase =>
    simp only [PhaseOk, phase] at ok
    simp only [InboxOk, State.phase_moveTo_self]
    exact Or.inl ok.2.2.2.2
  | updateInbox f d loaded changed stored phase differs seen unlocked =>
    simp only [PhaseOk, phase] at ok
    simp only [InboxOk, phase] at inboxOk
    obtain ⟨fenced, final, -, -, clean⟩ := ok
    obtain ⟨loaded₀, planned⟩ := inboxOk
    obtain ⟨others, plan⟩ := planned.resolve_left differs
    have agrees : Agrees (s.deliveries.visible w) d.inboxConsumptionId changed := by
      rcases plan with ⟨l, c, same, agrees⟩ | ⟨same, -, -⟩
      · rw [phase] at same
        cases same
        exact agrees
      · rw [phase] at same
        cases same
    have row : s.inbox.rows.get d.inboxConsumptionId = some stored :=
      (clean.visible _).symm.trans seen
    -- While the delivery is unfinished, the committed row is the loaded one.
    have same : stored = loaded := by
      rw [inv.untouched _ d fenced.stored fenced.unfinished, loaded₀] at row
      exact (Option.some.inj row).symm
    subst same
    simp only [InboxOk, State.updateInbox, State.phase_moveTo_self]
    exact Or.inr ⟨others, Or.inr ⟨State.phase_moveTo_self _ _ _, final, _,
      clean.write _ unlocked (Rows.lt_nextId row), agrees.inboxUpdate⟩⟩
  | _ => simp [InboxOk, State.selectDue, State.updateClaims, State.flush]

/-! ### Committed rows -/

/-- Only the commit of a planned aggregate changes a committed inbox row. -/
theorem Step.inbox_get (step : Step s w s') (inv : InboxInvariant db s) (i : Nat) :
    s'.inbox.rows.get i = s.inbox.rows.get i ∨
      ∃ f d, s.phase w = .committing f d ∧ d.inboxConsumptionId = i ∧ WillAgree s w f d ∧
        s' = s.commit w := by
  have ok := inv.phases w
  have inboxOk := inv.inbox w
  cases step with
  | updateInbox => exact Or.inl (by simp [State.updateInbox, State.moveTo])
  | commitClaims due token leaseSeconds now phase =>
    simp only [PhaseOk, phase] at ok
    exact Or.inl (ok.2.visible i)
  | commitFinish f d phase =>
    simp only [InboxOk, phase] at inboxOk
    rcases inboxOk with clean | planned
    · exact Or.inl (clean.visible i)
    · by_cases here : d.inboxConsumptionId = i
      · exact Or.inr ⟨f, d, phase, here, planned, rfl⟩
      · left
        rcases planned.2 with ⟨loaded, changed, other, -⟩ | ⟨-, -, row, wrote, -⟩
        · rw [phase] at other
          cases other
        · exact wrote.visible_of_ne (Ne.symm here)
  | _ => exact Or.inl rfl

/-- A delivery becomes terminal only by the commit of a call that has read. -/
theorem Step.unfinished_stays (step : Step s w s') (phases : PhasesOk s) {id : Nat}
    {d d' : NotificationDelivery} (stored : s.deliveries.rows.get id = some d)
    (unfinished : d.status.terminal = false) (stored' : s'.deliveries.rows.get id = some d') :
    d'.status.terminal = false ∨
      ∃ f d₀, s.phase w = .committing f d₀ ∧ f.Final ∧ f.deliveryId = id := by
  have ok := phases w
  have keep : s'.deliveries.rows.get id = s.deliveries.rows.get id → d'.status.terminal = false := by
    intro same
    rw [stored', stored] at same
    cases same
    exact unfinished
  cases step with
  | flushSelected => exact Or.inl (keep (by simp [State.flush, State.moveTo]))
  | flushRetry => exact Or.inl (keep (by simp [State.flush, State.moveTo]))
  | flushDeadLetter => exact Or.inl (keep (by simp [State.flush, State.moveTo]))
  | commitClaims due token leaseSeconds now phase =>
    simp only [PhaseOk, phase] at ok
    cases written : s.deliveries.pending w id with
    | none => exact Or.inl (keep (Table.visible_eq_rows written))
    | some row =>
      obtain ⟨old, -, -, rfl⟩ := ok.1 id row written
      have same := stored'.symm.trans (Table.visible_of_pending written)
      cases same
      exact Or.inl rfl
  | commitFinish f d₀ phase =>
    simp only [PhaseOk, phase] at ok
    obtain ⟨fenced, -, wrote⟩ := ok
    by_cases e : id = f.deliveryId
    · subst e
      have same := stored'.symm.trans wrote.visible_self
      cases same
      by_cases final : f.Final
      · exact Or.inr ⟨f, d₀, phase, final, rfl⟩
      · left
        have terminal := (Finish.row_terminal d₀ (f := f)).not.mpr final
        simpa using terminal
    · exact Or.inl (keep (wrote.visible_of_ne e))
  | _ => exact Or.inl (keep rfl)

/-- The commit of a planned aggregate leaves no delivery of the inbox row
unfinished. -/
theorem aggregated_commit (phases : PhasesOk s) {f : Finish} {d : NotificationDelivery}
    (phase : s.phase w = .committing f d) (planned : WillAgree s w f d) :
    Aggregated (s.commit w) d.inboxConsumptionId := by
  obtain ⟨-, final, written⟩ := planned.hasRead.writes phases
  obtain ⟨others, plan⟩ := planned
  rcases plan with ⟨loaded, changed, other, -⟩ | ⟨-, -, row, wrote, agrees⟩
  · rw [phase] at other
    cases other
  refine ⟨fun id row' stored here => ?_, row, wrote.visible_self, agrees⟩
  by_cases e : id = f.deliveryId
  · have same : row' = f.row d := by
      rw [e] at stored
      exact Option.some.inj (stored.symm.trans written.visible_self)
    rw [same]
    exact (Finish.row_terminal d).mpr final
  · exact others id row' ((written.visible_of_ne e).symm.trans stored) here e

/-- An aggregated inbox row stays aggregated. -/
theorem Aggregated.step {i : Nat} (h : Aggregated s i) (step : Step s w s')
    (inv : InboxInvariant db s) : Aggregated s' i := by
  obtain ⟨terminal, inbox, stored, agrees⟩ := h
  have family := step.family inv.phases fun id d stored here => Or.inl (terminal id d stored here)
  have row : s'.inbox.rows.get i = s.inbox.rows.get i := by
    rcases step.inbox_get inv i with same | ⟨f, d, -, here, planned, -⟩
    · exact same
    · obtain ⟨fenced, -, -⟩ := planned.hasRead.writes inv.phases
      have finished := terminal _ d fenced.stored here
      rw [fenced.unfinished] at finished
      cases finished
  exact ⟨fun id d stored' here => terminal id d ((family id d here).mp stored') here,
    inbox, row.trans stored, agrees.congr family⟩

/-- A delivery stays unread until its own call reads. -/
theorem Unread.step {i id : Nat} {d : NotificationDelivery} (h : Unread s i id d)
    (step : Step s w s') (phases : PhasesOk s) :
    (∃ d', Unread s' i id d') ∨
      ∃ f d₀ inbox, s.phase w = .inboxLoaded f d₀ inbox ∧
        s' = s.readStatuses w f d₀ inbox ∧ f.deliveryId = id := by
  by_cases reads : ∃ f d₀ inbox, s.phase w = .inboxLoaded f d₀ inbox ∧
      s' = s.readStatuses w f d₀ inbox ∧ f.deliveryId = id
  · exact Or.inr reads
  left
  have moved := step.row_step (phases w) id
  rw [h.stored] at moved
  obtain ⟨now, d', stored', rowStep⟩ := moved
  refine ⟨d', stored', rowStep.sameRequest.inboxConsumptionId.trans h.here, ?_, ?_⟩
  · rcases step.unfinished_stays phases h.stored h.unfinished stored' with
      unfinished | ⟨f, d₀, phase, final, same⟩
    · exact unfinished
    · exact absurd same (h.unread w f d₀ (Or.inr ⟨phase, final⟩))
  · intro w' f d₀ read same
    rcases step.hasRead read with before | ⟨-, inbox, phase, after⟩
    · exact h.unread w' f d₀ before same
    · exact reads ⟨f, d₀, inbox, phase, after, same⟩

/-- What a transaction that has read can do next. -/
theorem Step.of_hasRead {f : Finish} {d : NotificationDelivery} (step : Step s w s')
    (read : HasRead s w f d) :
    s' = s.rollback w ∨ (s.phase w = .committing f d ∧ s' = s.commit w) ∨
      (∃ loaded, s.phase w = .refreshed f d loaded loaded) ∨
      ∃ loaded changed stored, s.phase w = .refreshed f d loaded changed ∧
        s.inbox.visible w d.inboxConsumptionId = some stored ∧
        s.inbox.free w d.inboxConsumptionId ∧
        s' = s.updateInbox w f d loaded changed stored := by
  rcases read with ⟨l, c, phase⟩ | ⟨phase, final⟩
  · cases step
    case rollback => exact Or.inl rfl
    case keepInbox f₁ d₁ loaded phase₁ =>
      rw [phase] at phase₁
      cases phase₁
      exact Or.inr (Or.inr (Or.inl ⟨l, phase⟩))
    case updateInbox f₁ d₁ loaded changed stored phase₁ _ seen unlocked =>
      rw [phase] at phase₁
      cases phase₁
      exact Or.inr (Or.inr (Or.inr ⟨l, c, stored, phase, seen, unlocked, rfl⟩))
    all_goals simp_all only [reduceCtorEq]
  · cases step
    case rollback => exact Or.inl rfl
    case commitFinish => exact Or.inr (Or.inl ⟨phase, rfl⟩)
    all_goals simp_all only [reduceCtorEq]

/-- A transaction that has planned the aggregate commits it, or leaves its
delivery to a later call. -/
theorem WillAgree.step {f : Finish} {d : NotificationDelivery} (h : WillAgree s w f d)
    (step : Step s w s') (inv : InboxInvariant db s) : Progress s' d.inboxConsumptionId := by
  obtain ⟨fenced, final, wrote⟩ := h.hasRead.writes inv.phases
  have inboxOk := step.inboxOk inv
  rcases step.of_hasRead h.hasRead with rfl | ⟨phase, rfl⟩ | ⟨loaded, phase⟩ |
    ⟨loaded, changed, stored, phase, seen, unlocked, rfl⟩
  · refine Or.inl ⟨f.deliveryId, d, fenced.stored, rfl, fenced.unfinished, ?_⟩
    intro w' f' d' read same
    rcases step.hasRead read with before | ⟨rfl, inbox, phase, -⟩
    · have owner := fenced.worker_eq (before.writes inv.phases).1 same
      subst owner
      rcases read with ⟨l, c, phase⟩ | ⟨phase, -⟩ <;> simp at phase
    · rcases h.hasRead with ⟨l, c, other⟩ | ⟨other, -⟩ <;> rw [phase] at other <;> cases other
  · exact Or.inr (Or.inr (aggregated_commit inv.phases phase h))
  · -- The planned row is terminal and the loaded one is not.
    rcases h.2 with ⟨l, c, other, agrees⟩ | ⟨other, -⟩
    · rw [phase] at other
      cases other
      have before := inv.inbox w
      simp only [InboxOk, phase] at before
      obtain ⟨-, row, stored, processing⟩ := inv.rows _ d fenced.stored
      rw [before.1] at stored
      cases stored
      have finished := agrees.terminal
      rw [processing] at finished
      cases finished
    · rw [phase] at other
      cases other
  · simp only [InboxOk, State.updateInbox, State.phase_moveTo_self] at inboxOk
    refine Or.inr (Or.inl ⟨w, f, d, rfl, inboxOk.resolve_left fun clean => ?_⟩)
    have before := inv.phases w
    simp only [PhaseOk, phase] at before
    have wroteInbox := before.2.2.2.2.write (inboxUpdate loaded changed stored) unlocked
      (Table.visible_lt_nextId seen)
    have absent : (s.inbox.write w d.inboxConsumptionId
        (inboxUpdate loaded changed stored)).pending w d.inboxConsumptionId = none :=
      congrFun clean _
    rw [wroteInbox, Function.update_self] at absent
    cases absent

/-- A read that is not blind and leaves no other delivery unread finds all
siblings terminal. -/
theorem othersTerminal_of_not_blind {f : Finish} {d : NotificationDelivery}
    (sighted : ¬ Blind s f d)
    (last : ∀ id row, Unread s d.inboxConsumptionId id row → id = f.deliveryId) :
    OthersTerminal s f d := by
  have covered : ∀ id row, s.deliveries.rows.get id = some row →
      row.inboxConsumptionId = d.inboxConsumptionId →
      row.status.terminal = true ∨ id = f.deliveryId ∨
        ∃ w f' d', HasRead s w f' d' ∧ f'.deliveryId = id := by
    intro id row stored here
    by_contra open_row
    push Not at open_row
    obtain ⟨unfinished, ne, unread⟩ := open_row
    exact ne (last id row ⟨stored, here, by simpa using unfinished, unread⟩)
  intro id row stored here ne
  rcases covered id row stored here with terminal | same | ⟨w', f', d', read, same⟩
  · exact terminal
  · exact absurd same ne
  · exact absurd ⟨covered, id, row, w', f', d', stored, here, ne, read, same⟩ sighted

/-- **Progress is kept by every statement that is not a blind read.** -/
theorem Progress.step {i : Nat} (h : Progress s i) (step : Step s w s')
    (inv : InboxInvariant db s)
    (sighted : ∀ f d inbox, s.phase w = .inboxLoaded f d inbox →
      s' = s.readStatuses w f d inbox → ¬ Blind s f d) : Progress s' i := by
  rcases h with ⟨id, d, unread⟩ | ⟨w', f, d, rfl, planned⟩ | aggregated
  · rcases unread.step step inv.phases with still | ⟨f, d₀, inbox, phase, rfl, rfl⟩
    · exact Or.inl ⟨id, still⟩
    have ok := inv.phases w
    simp only [PhaseOk, phase] at ok
    have same : d₀ = d := Option.some.inj (ok.1.stored.symm.trans unread.stored)
    subst same
    by_cases other : ∃ id' row, Unread s i id' row ∧ id' ≠ f.deliveryId
    · obtain ⟨id', row, unread', ne⟩ := other
      rcases unread'.step step inv.phases with still | ⟨f', d', inbox', phase', -, same⟩
      · exact Or.inl ⟨id', still⟩
      · rw [phase] at phase'
        cases phase'
        exact absurd same.symm ne
    · push Not at other
      have others : OthersTerminal s f d₀ := by
        refine othersTerminal_of_not_blind (sighted f d₀ inbox phase rfl) ?_
        rw [unread.here]
        exact other
      exact Or.inr (Or.inl ⟨w, f, d₀, unread.here, willAgree_readStatuses inv phase others⟩)
  · by_cases e : w' = w
    · subst e
      exact planned.step step inv
    · exact Or.inr (Or.inl ⟨w', f, d, rfl, planned.frame inv.phases step e⟩)
  · exact Or.inr (Or.inr (aggregated.step step inv))

/-- **The joint invariant is kept by every statement that is not a blind
read.** -/
theorem InboxInvariant.step (inv : InboxInvariant db s) (step : Step s w s')
    (sighted : ∀ f d inbox, s.phase w = .inboxLoaded f d inbox →
      s' = s.readStatuses w f d inbox → ¬ Blind s f d) : InboxInvariant db s' := by
  refine ⟨inv.phases.step step, ?_, fun w' => ?_, ?_, ?_⟩
  · intro id d' stored'
    obtain ⟨now, d, stored, rowStep⟩ := step.row_before inv.phases stored'
    obtain ⟨live, origin⟩ := inv.rows id d stored
    rw [rowStep.sameRequest.deletedAt, rowStep.sameRequest.inboxConsumptionId]
    exact ⟨live, origin⟩
  · by_cases e : w' = w
    · subst e
      exact step.inboxOk inv
    · exact (inv.inbox w').frame inv.phases step e
  · intro id d' stored' unfinished'
    obtain ⟨now, d, stored, rowStep⟩ := step.row_before inv.phases stored'
    have unfinished : d.status.terminal = false := by
      by_contra terminal
      have same := rowStep.eq_of_terminal (by simpa using terminal)
      rw [same] at unfinished'
      exact terminal unfinished'
    have before := inv.untouched id d stored unfinished
    rw [rowStep.sameRequest.inboxConsumptionId]
    rcases step.inbox_get inv d.inboxConsumptionId with same | ⟨f, d₀, phase, here, planned, rfl⟩
    · rw [same, before]
    · -- The commit of an aggregate leaves no delivery of its inbox row unfinished.
      have finished := (aggregated_commit inv.phases phase planned).1 id d' stored'
        (rowStep.sameRequest.inboxConsumptionId.trans here.symm)
      rw [unfinished'] at finished
      cases finished
  · intro id d' stored'
    obtain ⟨now, d, stored, rowStep⟩ := step.row_before inv.phases stored'
    rw [rowStep.sameRequest.inboxConsumptionId]
    exact (inv.progress id d stored).step step inv sighted

end Mover

/-! ### Runs -/

theorem Materialized.invariant {db : Db} (materialized : Materialized db) :
    InboxInvariant db (.ofDb db) := by
  refine ⟨phasesOk_ofDb db, fun id d stored => ?_, fun w => trivial, fun _ _ _ _ => rfl, ?_⟩
  · exact ⟨(materialized.fresh id d stored).2, materialized.inbox id d stored⟩
  · intro id d stored
    refine Or.inl ⟨id, d, stored, rfl, ?_, ?_⟩
    · rw [(materialized.fresh id d stored).1.pending]
      rfl
    · rintro w f d' (⟨loaded, changed, phase⟩ | ⟨phase, -⟩) <;> cases phase

/-- A step that is not a blind read keeps the joint invariant. -/
theorem InboxInvariant.next {db : Db} {s s' : State} {label : Label} (inv : InboxInvariant db s)
    (sighted : ¬ BlindRead s label) (step : next s label = some s') : InboxInvariant db s' := by
  refine inv.step (next_step step) fun f d inbox phase after blind => ?_
  refine sighted ⟨label.worker, f, d, inbox, ?_, phase, blind⟩
  cases label with
  | advance w => rfl
  | selectDue w limit token leaseSeconds now =>
    simp only [Label.worker] at phase
    simp [Statements.next, Label.worker, phase] at step
  | selectClaimed w f =>
    simp only [Label.worker] at phase
    simp [Statements.next, Label.worker, phase] at step
  | rollback w =>
    simp only [Label.worker] at phase after
    simp only [Statements.next, Label.worker, phase, Option.some.injEq] at step
    have idle : s'.phase w = .idle := by rw [← step]; exact State.phase_rollback_self s w
    rw [after, State.readStatuses, State.phase_moveTo_self] at idle
    cases idle

/-- **Without blind reads the inbox status agrees with its deliveries.** In
every state of a run none of whose steps is a blind read, an inbox row whose
deliveries are all terminal holds their aggregate, with `processed_at` set and
no lease. -/
theorem inbox_agrees_without_blind_reads {db : Db} {s : State} {history : List (State × Label)}
    (materialized : Materialized db) (run : Run next (.ofDb db) history s)
    (sighted : Along (fun s label => ¬ BlindRead s label) history) {i : Nat}
    (some_delivery : ∃ id d, s.deliveries.rows.get id = some d ∧ d.inboxConsumptionId = i)
    (terminal : ∀ id d, s.deliveries.rows.get id = some d → d.inboxConsumptionId = i →
      d.status.terminal = true) :
    ∃ inbox, s.inbox.rows.get i = some inbox ∧ Agrees s.deliveries.rows.get i inbox := by
  have inv : InboxInvariant db s :=
    Run.invariant_of_along materialized.invariant (fun inv ok step => inv.next ok step) run sighted
  obtain ⟨id, d, stored, rfl⟩ := some_delivery
  rcases inv.progress id d stored with ⟨id', d', unread⟩ | ⟨w, f, d', here, planned⟩ | aggregated
  · have finished := terminal id' d' unread.stored unread.here
    rw [unread.unfinished] at finished
    cases finished
  · obtain ⟨fenced, -, -⟩ := planned.hasRead.writes inv.phases
    have finished := terminal _ d' fenced.stored here
    rw [fenced.unfinished] at finished
    cases finished
  · exact aggregated.2

/-! ### One worker and two workers -/

/-- A worker that takes no step stays where it is. -/
theorem phase_of_not_moved {start s : State} {history : List (State × Label)} {w : Worker}
    (run : Run next start history s) (still : ∀ entry ∈ history, entry.2.worker ≠ w) :
    s.phase w = start.phase w :=
  @Run.unmoved _ _ _ _ _ _ _ (fun s => s.phase w) (fun label => label.worker = w)
    (fun step other => ((next_step step).frame (Ne.symm other)).phase) run still

/-- With all other workers idle, no read is blind. -/
theorem not_blindRead_of_alone {s : State} {w : Worker} (label : Label)
    (alone : ∀ w', w' ≠ w → s.phase w' = .idle) : ¬ BlindRead s label := by
  rintro ⟨w₁, f, d, inbox, -, phase, -, ⟨id, row, w₂, f', d', -, -, -, read, -⟩⟩
  have first : w₁ = w := by
    by_contra ne
    rw [alone w₁ ne] at phase
    cases phase
  have second : w₂ = w := by
    by_contra ne
    rcases read with ⟨l, c, other⟩ | ⟨other, -⟩ <;> rw [alone w₂ ne] at other <;> cases other
  subst first
  subst second
  rcases read with ⟨l, c, other⟩ | ⟨other, -⟩ <;> rw [phase] at other <;> cases other

/-- A single worker never reads blindly. -/
theorem sighted_of_one_worker {db : Db} {s : State} {history : List (State × Label)} {w : Worker}
    (run : Run next (.ofDb db) history s) (one : ∀ entry ∈ history, entry.2.worker = w) :
    Along (fun s label => ¬ BlindRead s label) history := by
  induction run with
  | init => exact along_nil _
  | snoc run step ih =>
    obtain ⟨-, before⟩ := List.forall_mem_cons.mp one
    refine (along_cons _ _ _).mpr ⟨not_blindRead_of_alone (w := w) _ fun w' ne => ?_, ih before⟩
    exact phase_of_not_moved run fun entry mem same => ne (same.symm.trans (before entry mem))

theorem materialized_acceptedDb : Materialized acceptedDb where
  fresh id d stored := by
    have absent : (Rows.empty : Rows NotificationDelivery).get id = none := rfl
    obtain ⟨channel, -, rfl⟩ :=
      @get_addChannelDeliveries_new 1 id twoChannelRequest d twoChannelRequest.channels _ absent
        stored
    exact ⟨fresh_channelDelivery 1 twoChannelRequest channel, rfl⟩
  inbox id d stored := by
    have absent : (Rows.empty : Rows NotificationDelivery).get id = none := rfl
    obtain ⟨channel, -, rfl⟩ :=
      @get_addChannelDeliveries_new 1 id twoChannelRequest d twoChannelRequest.channels _ absent
        stored
    exact ⟨_, rfl, rfl⟩

/-- One worker delivers the webhook and dead-letters the mail. -/
def mixedOutcomeLabels : List Label :=
  [.selectDue 1 2 "worker-1" 30 0, .advance 1, .advance 1,
    .selectClaimed 1 ⟨1, "worker-1", .delivered none, seconds 1⟩,
    .advance 1, .advance 1, .advance 1, .advance 1, .advance 1,
    .selectClaimed 1 ⟨2, "worker-1", .deadLetter .configuration none "no address", seconds 2⟩,
    .advance 1, .advance 1, .advance 1, .advance 1, .advance 1, .advance 1]

theorem inbox_agrees_mixed_outcome :
    ∃ history s inbox, Run next (.ofDb acceptedDb) history s ∧ s.inbox.rows.get 1 = some inbox ∧
      Agrees s.deliveries.rows.get 1 inbox := by
  obtain ⟨history, run, labels⟩ := run_of_isSome_labels
    (show (finalState next (.ofDb acceptedDb) mixedOutcomeLabels).isSome = true by decide)
  have one : ∀ entry ∈ history, entry.2.worker = 1 := by
    have all : ∀ label ∈ mixedOutcomeLabels.reverse, label.worker = 1 := by decide
    intro entry mem
    exact all entry.2 (labels ▸ List.mem_map_of_mem mem)
  have last : ∀ id d, ((finalState next (.ofDb acceptedDb) mixedOutcomeLabels).get
      (by decide)).deliveries.rows.get id = some d → d.status.terminal = true := by
    intro id d stored
    have lt : id < 3 := Rows.lt_nextId stored
    obtain rfl | rfl | rfl : id = 0 ∨ id = 1 ∨ id = 2 := by omega
    · cases stored
    · cases stored; rfl
    · cases stored; rfl
  obtain ⟨inbox, stored, agrees⟩ := inbox_agrees_without_blind_reads materialized_acceptedDb run
    (sighted_of_one_worker run one) (i := 1) ⟨1, _, rfl, rfl⟩ fun id d stored _ => last id d stored
  exact ⟨history, _, inbox, run, stored, agrees⟩

/-- Two workers finish the two deliveries of one inbox row at the same time. -/
def overlappingLabels : List Label :=
  [.selectDue 1 1 "worker-1" 30 0, .advance 1, .advance 1,
    .selectDue 2 1 "worker-2" 30 0, .advance 2, .advance 2,
    .selectClaimed 1 ⟨1, "worker-1", .delivered none, seconds 1⟩,
    .selectClaimed 2 ⟨2, "worker-2", .delivered none, seconds 1⟩,
    .advance 1, .advance 2, .advance 1, .advance 2, .advance 1, .advance 2, .advance 1, .advance 2,
    .advance 1, .advance 2]

/-- **Two overlapping calls leave the inbox row in `processing`**: both
deliveries are committed as delivered, no transaction is open, and the inbox
row has neither a terminal status nor a `processed_at`. -/
theorem inbox_left_processing :
    ∃ history s inbox, Run next (.ofDb acceptedDb) history s ∧ (∀ w, s.phase w = .idle) ∧
      (∃ d, s.deliveries.rows.get 1 = some d ∧ d.inboxConsumptionId = 1) ∧
      (∀ id d, s.deliveries.rows.get id = some d →
        d.inboxConsumptionId = 1 ∧ d.status = .delivered) ∧
      s.inbox.rows.get 1 = some inbox ∧ inbox.status = .processing ∧
      inbox.processedAt = none := by
  obtain ⟨history, run, labels⟩ := run_of_isSome_labels
    (show (finalState next (.ofDb acceptedDb) overlappingLabels).isSome = true by decide)
  refine ⟨history, _, _, run, fun w => ?_, ⟨_, rfl, rfl⟩, fun id d stored => ?_, rfl, rfl, rfl⟩
  · by_cases e : w = 1 ∨ w = 2
    · rcases e with rfl | rfl <;> rfl
    · have all : ∀ label ∈ overlappingLabels.reverse, label.worker = 1 ∨ label.worker = 2 := by
        decide
      have still : ∀ entry ∈ history, entry.2.worker ≠ w := by
        intro entry mem same
        rw [← same] at e
        exact e (all entry.2 (labels ▸ List.mem_map_of_mem mem))
      exact phase_of_not_moved run still
  · have lt : id < 3 := Rows.lt_nextId stored
    obtain rfl | rfl | rfl : id = 0 ∨ id = 1 ∨ id = 2 := by omega
    · cases stored
    · cases stored; exact ⟨rfl, rfl⟩
    · cases stored; exact ⟨rfl, rfl⟩

end ApiObservatory.Notification.Statements
