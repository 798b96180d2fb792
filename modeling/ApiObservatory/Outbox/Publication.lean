import ApiObservatory.Foundation.Window
import ApiObservatory.Outbox.Publisher

/-
At-least-once publication.

`PublishInvariant` relates the committed events and the in-memory rows of the
passes to the history of a run: a set `published_at` has a successful publish
call with the topic and value of its event behind it, and `publish_attempts`
counts the committed claims. The mark functions write only the columns in
which the session's object changed, so a late failure mark never clears or sets
`published_at`. An event that is not published is claimed again by the next
claim whose limit reaches it.
-/

namespace ApiObservatory.Outbox

open Foundation

variable {Payload Value : Type}

/-- What a publish call sends of an event never changes. -/
structure SameContent (e e' : OutboxEvent Payload) : Prop where
  eventType : e'.eventType = e.eventType
  payload : e'.payload = e.payload

theorem SameContent.refl (e : OutboxEvent Payload) : SameContent e e := ⟨rfl, rfl⟩

theorem SameContent.symm {e e' : OutboxEvent Payload} (h : SameContent e e') : SameContent e' e :=
  ⟨h.eventType.symm, h.payload.symm⟩

theorem SameContent.trans {e e' e'' : OutboxEvent Payload} (first : SameContent e e')
    (second : SameContent e' e'') : SameContent e e'' :=
  ⟨second.eventType.trans first.eventType, second.payload.trans first.payload⟩

/-- The in-memory rows of a pass. -/
def Phase.entries : Phase Payload Value → List (Nat × OutboxEvent Payload)
  | .idle => []
  | .claimSelected due _ _ _ => due
  | .claimFlushed due _ _ _ => due
  | .serving pass => pass.rest
  | .publishing pass entry _ _ => entry :: pass.rest
  | .fencing pass entry _ => entry :: pass.rest
  | .marking pass entry _ => entry :: pass.rest
  | .marked pass entry _ => entry :: pass.rest

/-- The pass is about to record a successful publish call of `entry`. -/
def Phase.recordsSuccess (p : Phase Payload Value) (entry : Nat × OutboxEvent Payload) : Prop :=
  ∃ pass, p = .fencing pass entry .published ∨ p = .marking pass entry .published ∨
    p = .marked pass entry .published

/-! ### One statement -/

section Statement

variable {serialize : Payload → Value} {s s' : State Payload Value} {label : Label Payload}

theorem sameContent_claim (token : String) (leaseSeconds now : Int) (e : OutboxEvent Payload) :
    SameContent e (e.claim token leaseSeconds now) :=
  ⟨rfl, rfl⟩

/-- A claim or a mark keeps content, and a claim counts one attempt. -/
theorem RowChange.kept {id : Nat} {row row' : OutboxEvent Payload}
    (change : RowChange s label id row row') :
    SameContent row row' ∧ row'.deletedAt = row.deletedAt ∧
      row'.publishAttempts = row.publishAttempts + (commitsClaim s label id).toNat := by
  cases change with
  | keep uncounted => exact ⟨.refl row, rfl, by rw [uncounted]; rfl⟩
  | claim w due token leaseSeconds now step phase mem claimable =>
    refine ⟨⟨rfl, rfl⟩, rfl, ?_⟩
    have counted : commitsClaim s label id = true := by
      subst step
      simp only [commitsClaim, phase, List.any_eq_true]
      exact ⟨_, mem, beq_self_eq_true id⟩
    rw [counted]
    rfl
  | mark w pass entry m step phase same holder =>
    refine ⟨⟨rfl, rfl⟩, rfl, ?_⟩
    have uncounted : commitsClaim s label id = false := by
      subst step
      simp only [commitsClaim, phase]
    rw [uncounted]
    rfl

/-- `published_at` becomes set only by the mark of a successful publish call. -/
theorem RowChange.published {id : Nat} {row row' : OutboxEvent Payload}
    (change : RowChange s label id row row') (set : row'.publishedAt.isSome = true) :
    row.publishedAt.isSome = true ∨
      ∃ w entry, (s.phase w).recordsSuccess entry ∧ entry.1 = id := by
  cases change with
  | keep => exact Or.inl set
  | claim => exact Or.inl set
  | mark w pass entry m step phase same holder =>
    cases m with
    | published => exact Or.inr ⟨w, entry, ⟨pass, Or.inr (Or.inr phase)⟩, same⟩
    | failed errorMessage nextAttemptAt =>
      left
      -- A failure mark assigns `None`, so a value it leaves was stored before.
      have left : (columnUpdate entry.2.publishedAt none row.publishedAt).isSome = true := set
      rcases columnUpdate_eq_or entry.2.publishedAt none row.publishedAt with stored | cleared
      · rwa [stored] at left
      · rw [cleared] at left
        cases left

theorem mem_entries_afterFailure {pass : Pass Payload} {entry current : Nat × OutboxEvent Payload}
    {exceptionName : String}
    (mem : entry ∈ (afterFailure pass current exceptionName : Phase Payload Value).entries) :
    entry ∈ current :: pass.rest := by
  unfold afterFailure at mem
  split at mem
  · cases mem
  · exact mem

theorem mem_entries_serve {pass : Pass Payload} {entry : Nat × OutboxEvent Payload}
    (mem : entry ∈ (serve serialize pass).entries) : entry ∈ pass.rest := by
  unfold serve at mem
  split at mem
  · cases mem
  · rename_i current rest split
    rw [split]
    split at mem
    · exact mem
    · exact mem_entries_afterFailure mem

/-- A move of phase adds no in-memory row. -/
theorem Moves.entries {seen : Nat → Option (OutboxEvent Payload)} {w : Worker}
    {p p' : Phase Payload Value} (moves : Moves serialize seen w p label p')
    {entry : Nat × OutboxEvent Payload} (mem : entry ∈ p'.entries) : entry ∈ p.entries := by
  cases moves with
  | serve pass => exact mem_entries_serve mem
  | returned => exact mem
  | failed pass current topic value exceptionName => exact mem_entries_afterFailure mem
  | refused pass current mark => exact List.mem_cons_of_mem _ mem
  | passed => exact mem

/-- The in-memory rows of the moving worker are older ones, with the same
content, or just read from the table. -/
theorem Step.entries (step : Step serialize s label s') {entry : Nat × OutboxEvent Payload}
    (mem : entry ∈ (s'.phase label.worker).entries) :
    (∃ older ∈ (s.phase label.worker).entries, older.1 = entry.1 ∧
      SameContent older.2 entry.2) ∨ s.outbox.rows.get entry.1 = some entry.2 := by
  have kept : entry ∈ (s.phase label.worker).entries →
      (∃ older ∈ (s.phase label.worker).entries, older.1 = entry.1 ∧
        SameContent older.2 entry.2) ∨ s.outbox.rows.get entry.1 = some entry.2 :=
    fun old => Or.inl ⟨entry, old, rfl, .refl _⟩
  cases step with
  | add => exact kept mem
  | duplicate => exact kept mem
  | selectPending w limit token leaseSeconds now phase unused =>
    simp only [State.selectPending, Label.worker, State.phase_moveTo_self, Phase.entries] at mem
    exact Or.inr (mem_due mem).1
  | updateClaims w due token leaseSeconds now phase =>
    simp only [State.updateClaims, Label.worker, State.phase_moveTo_self, Phase.entries] at mem
    refine kept ?_
    simp only [Label.worker, phase, Phase.entries]
    exact mem
  | commitClaims w due token leaseSeconds now phase =>
    simp only [State.commit, Label.worker, State.phase_moveTo_self, Phase.entries] at mem
    obtain ⟨older, inDue, rfl⟩ := List.mem_map.mp mem
    left
    simp only [Label.worker, phase, Phase.entries]
    exact ⟨older, inDue, rfl, sameContent_claim _ _ _ _⟩
  | move w label p same moves =>
    subst same
    rw [State.phase_moveTo_self] at mem
    exact kept (moves.entries mem)
  | updateMark w pass current mark stored phase =>
    simp only [State.updateMark, Label.worker, State.phase_moveTo_self, Phase.entries] at mem
    refine kept ?_
    simp only [Label.worker, phase, Phase.entries]
    exact mem
  | commitMark w pass current mark phase =>
    simp only [State.commit, Label.worker, State.phase_moveTo_self, Phase.entries] at mem
    refine kept ?_
    simp only [Label.worker, phase, Phase.entries]
    exact List.mem_cons_of_mem _ mem
  | missingRow => simp [State.rollback, Label.worker, Phase.entries] at mem
  | rollback => simp [State.rollback, Label.worker, Phase.entries] at mem

theorem not_recordsSuccess_afterFailure {pass : Pass Payload}
    {entry current : Nat × OutboxEvent Payload} {exceptionName : String} :
    ¬ (afterFailure pass current exceptionName : Phase Payload Value).recordsSuccess entry := by
  rintro ⟨p, same⟩
  unfold afterFailure at same
  split at same <;> simp at same

theorem not_recordsSuccess_serve {pass : Pass Payload} {entry : Nat × OutboxEvent Payload} :
    ¬ (serve serialize pass).recordsSuccess entry := by
  unfold serve
  split
  · rintro ⟨p, same⟩
    simp at same
  · split
    · rintro ⟨p, same⟩
      simp at same
    · exact not_recordsSuccess_afterFailure

/-- A move of phase records a success it recorded before, or one whose publish
call returns. -/
theorem Moves.recordsSuccess {seen : Nat → Option (OutboxEvent Payload)} {w : Worker}
    {p p' : Phase Payload Value} (moves : Moves serialize seen w p label p')
    {entry : Nat × OutboxEvent Payload} (records : p'.recordsSuccess entry) :
    p.recordsSuccess entry ∨ (label = .publishReturned w ∧
      ∃ pass topic value, p = .publishing pass entry topic value) := by
  cases moves with
  | serve => exact absurd records not_recordsSuccess_serve
  | returned pass current topic value =>
    obtain ⟨_, same⟩ := records
    simp only [Phase.fencing.injEq, reduceCtorEq, or_false] at same
    obtain ⟨-, rfl, -⟩ := same
    exact Or.inr ⟨rfl, pass, topic, value, rfl⟩
  | failed => exact absurd records not_recordsSuccess_afterFailure
  | refused =>
    obtain ⟨_, same⟩ := records
    simp at same
  | passed pass current mark row seen fenced =>
    obtain ⟨_, same⟩ := records
    simp only [Phase.marking.injEq, reduceCtorEq, false_or, or_false] at same
    obtain ⟨-, rfl, rfl⟩ := same
    exact Or.inl ⟨pass, Or.inl rfl⟩

/-- A pass records a success it recorded before, or one whose publish call
returns in this step. -/
theorem Step.recordsSuccess (step : Step serialize s label s') {w : Worker}
    {entry : Nat × OutboxEvent Payload} (records : (s'.phase w).recordsSuccess entry) :
    (s.phase w).recordsSuccess entry ∨ (label = .publishReturned w ∧
      ∃ pass topic value, s.phase w = .publishing pass entry topic value) := by
  by_cases e : w = label.worker
  · subst e
    cases step with
    | add => exact Or.inl records
    | duplicate => exact Or.inl records
    | move w₁ label p same moves =>
      subst same
      rw [State.phase_moveTo_self] at records
      exact moves.recordsSuccess records
    | updateMark w₁ pass current mark stored phase =>
      obtain ⟨_, same⟩ := records
      simp only [State.updateMark, Label.worker, State.phase_moveTo_self, Phase.marked.injEq,
        reduceCtorEq, false_or] at same
      obtain ⟨-, rfl, rfl⟩ := same
      exact Or.inl ⟨pass, Or.inr (Or.inl phase)⟩
    | _ =>
      obtain ⟨_, same⟩ := records
      simp [State.selectPending, State.updateClaims, State.commit, State.rollback,
        Label.worker] at same
  · left
    rwa [(step.frame e).1] at records

theorem afterFailure_ne_publishing {pass pass' : Pass Payload}
    {entry entry' : Nat × OutboxEvent Payload} {exceptionName topic : String} {value : Value} :
    afterFailure pass entry exceptionName ≠ .publishing pass' entry' topic value := by
  unfold afterFailure
  split <;> simp

/-- A publish call starts with the topic and the value of its event. -/
theorem Moves.publishing {seen : Nat → Option (OutboxEvent Payload)} {w : Worker}
    {p p' : Phase Payload Value} (moves : Moves serialize seen w p label p')
    {pass : Pass Payload} {entry : Nat × OutboxEvent Payload} {topic : String} {value : Value}
    (phase : p' = .publishing pass entry topic value) :
    notificationOutboxTopic entry.2.eventType = some topic ∧
      value = serialize entry.2.payload := by
  cases moves with
  | serve pass₁ =>
    unfold Outbox.serve at phase
    split at phase
    · cases phase
    · split at phase
      · rename_i found
        cases phase
        exact ⟨found, rfl⟩
      · exact absurd phase afterFailure_ne_publishing
  | failed => exact absurd phase afterFailure_ne_publishing
  | _ => cases phase

/-- A publish call sends the topic and the value of its event. -/
theorem Step.publishing (step : Step serialize s label s') {pass : Pass Payload}
    {entry : Nat × OutboxEvent Payload} {topic : String} {value : Value} {w : Worker}
    (phase : s'.phase w = .publishing pass entry topic value) :
    s.phase w = .publishing pass entry topic value ∨
      (notificationOutboxTopic entry.2.eventType = some topic ∧
        value = serialize entry.2.payload) := by
  by_cases e : w = label.worker
  · subst e
    cases step with
    | add => exact Or.inl phase
    | duplicate => exact Or.inl phase
    | move w₁ label p same moves =>
      subst same
      rw [State.phase_moveTo_self] at phase
      exact Or.inr (moves.publishing phase)
    | _ =>
      simp [State.selectPending, State.updateClaims, State.updateMark, State.commit,
        State.rollback, Label.worker] at phase
  · left
    rwa [(step.frame e).1] at phase

end Statement

/-! ### The invariant -/

section Invariant

variable {serialize : Payload → Value} {s s' : State Payload Value} {label : Label Payload}
  {history : List (State Payload Value × Label Payload)}

/-- A publish call for event `id`, with the topic and the serialized payload of
`e`, returned earlier in the run. -/
def PublishedFor (serialize : Payload → Value)
    (history : List (State Payload Value × Label Payload)) (id : Nat) (e : OutboxEvent Payload) :
    Prop :=
  ∃ earlier w pass entry topic value,
    (earlier, Label.publishReturned w) ∈ history ∧
      earlier.phase w = .publishing pass entry topic value ∧ entry.1 = id ∧
      notificationOutboxTopic e.eventType = some topic ∧ value = serialize e.payload

theorem PublishedFor.later {id : Nat} {e : OutboxEvent Payload}
    (h : PublishedFor serialize history id e) (entry : State Payload Value × Label Payload) :
    PublishedFor serialize (entry :: history) id e := by
  obtain ⟨earlier, w, pass, event, topic, value, mem, rest⟩ := h
  exact ⟨earlier, w, pass, event, topic, value, List.mem_cons_of_mem _ mem, rest⟩

theorem PublishedFor.congr {id : Nat} {e e' : OutboxEvent Payload}
    (h : PublishedFor serialize history id e) (same : SameContent e e') :
    PublishedFor serialize history id e' := by
  obtain ⟨earlier, w, pass, event, topic, value, mem, phase, named, found, sent⟩ := h
  exact ⟨earlier, w, pass, event, topic, value, mem, phase, named,
    by rw [same.eventType, found], by rw [same.payload, sent]⟩

/-- How often a claim of event `id` was committed. -/
def claimsOf (history : List (State Payload Value × Label Payload)) (id : Nat) : Nat :=
  history.countP fun entry => commitsClaim entry.1 entry.2 id

theorem claimsOf_cons (s : State Payload Value) (label : Label Payload) (id : Nat) :
    claimsOf ((s, label) :: history) id =
      claimsOf history id + (commitsClaim s label id).toNat := by
  rw [claimsOf, List.countP_cons]
  cases commitsClaim s label id <;> rfl

/-- What the history says about a committed event. -/
structure RowOk (serialize : Payload → Value)
    (history : List (State Payload Value × Label Payload)) (id : Nat) (row : OutboxEvent Payload) :
    Prop where
  live : row.deletedAt = none
  eventType : row.eventType ∈ outboxEventTypes
  published : row.publishedAt.isSome = true → PublishedFor serialize history id row
  attempts : row.publishAttempts = claimsOf history id

structure PublishInvariant (serialize : Payload → Value)
    (history : List (State Payload Value × Label Payload)) (s : State Payload Value) : Prop where
  phases : PhasesOk s
  known : ∀ w, ∀ entry ∈ (s.phase w).entries,
    ∃ row, s.outbox.rows.get entry.1 = some row ∧ SameContent row entry.2
  calls : ∀ {w pass entry topic value}, s.phase w = .publishing pass entry topic value →
    notificationOutboxTopic entry.2.eventType = some topic ∧ value = serialize entry.2.payload
  records : ∀ {w entry}, (s.phase w).recordsSuccess entry →
    PublishedFor serialize history entry.1 entry.2
  rows : ∀ {id row}, s.outbox.rows.get id = some row → RowOk serialize history id row
  absent : ∀ {id}, s.outbox.rows.get id = none → claimsOf history id = 0

theorem PublishInvariant.known_step (inv : PublishInvariant serialize history s)
    (step : Step serialize s label s') {w : Worker} {entry : Nat × OutboxEvent Payload}
    (mem : entry ∈ (s'.phase w).entries) :
    ∃ row, s'.outbox.rows.get entry.1 = some row ∧ SameContent row entry.2 := by
  have before : ∃ row, s.outbox.rows.get entry.1 = some row ∧ SameContent row entry.2 := by
    by_cases e : w = label.worker
    · subst e
      rcases step.entries mem with ⟨older, inOld, named, same⟩ | stored
      · obtain ⟨row, stored, content⟩ := inv.known _ older inOld
        exact ⟨row, named ▸ stored, content.trans same⟩
      · exact ⟨entry.2, stored, .refl _⟩
    · rw [(step.frame e).1] at mem
      exact inv.known w entry mem
  obtain ⟨row, stored, content⟩ := before
  obtain ⟨row', stored', change⟩ := step.row_kept inv.phases stored
  exact ⟨row', stored', change.kept.1.symm.trans content⟩

/-- A pass that records a success has a publish call that returned behind it. -/
theorem PublishInvariant.records_step (inv : PublishInvariant serialize history s)
    (step : Step serialize s label s') {w : Worker} {entry : Nat × OutboxEvent Payload}
    (records : (s'.phase w).recordsSuccess entry) :
    PublishedFor serialize ((s, label) :: history) entry.1 entry.2 := by
  rcases step.recordsSuccess records with earlier | ⟨rfl, pass, topic, value, phase⟩
  · exact (inv.records earlier).later _
  · obtain ⟨found, sent⟩ := inv.calls phase
    exact ⟨s, w, pass, entry, topic, value, List.mem_cons_self, phase, rfl, found, sent⟩

theorem mem_entries_of_recordsSuccess {p : Phase Payload Value} {entry : Nat × OutboxEvent Payload}
    (records : p.recordsSuccess entry) : entry ∈ p.entries := by
  obtain ⟨pass, rfl | rfl | rfl⟩ := records
  · exact List.mem_cons_self
  · exact List.mem_cons_self
  · exact List.mem_cons_self

theorem PublishInvariant.row_step (inv : PublishInvariant serialize history s) {id : Nat}
    {row row' : OutboxEvent Payload} (stored : s.outbox.rows.get id = some row)
    (change : RowChange s label id row row') :
    RowOk serialize ((s, label) :: history) id row' := by
  have ok := inv.rows stored
  obtain ⟨same, deleted, attempts⟩ := change.kept
  refine ⟨deleted.trans ok.live, same.eventType ▸ ok.eventType, fun set => ?_, ?_⟩
  · rcases change.published set with before | ⟨w, entry, records, rfl⟩
    · exact ((ok.published before).congr same).later _
    · -- The in-memory row of the pass has the content of the stored one.
      obtain ⟨known, knownStored, content⟩ :=
        inv.known w entry (mem_entries_of_recordsSuccess records)
      cases knownStored.symm.trans stored
      exact (((inv.records records).congr content.symm).congr same).later _
  · rw [attempts, ok.attempts, claimsOf_cons]

theorem rowOk_new {id : Nat} {event : NewEvent Payload}
    (eventType : event.eventType ∈ outboxEventTypes) (unclaimed : claimsOf history id = 0) :
    RowOk serialize history id event.row where
  live := rfl
  eventType := eventType
  published set := nomatch set
  attempts := unclaimed.symm

/-- **Every statement keeps the invariant.** -/
theorem PublishInvariant.step (inv : PublishInvariant serialize history s)
    (step : Step serialize s label s') :
    PublishInvariant serialize ((s, label) :: history) s' where
  phases := inv.phases.step step
  known w entry mem := inv.known_step step mem
  calls phase := (step.publishing phase).elim inv.calls id
  records := inv.records_step step
  rows {id row'} stored' := by
    have after := step.row (inv.phases label.worker) id
    cases stored : s.outbox.rows.get id with
    | none =>
      rw [stored] at after
      obtain ⟨event, known, rfl⟩ := after.2 row' stored'
      refine rowOk_new known ?_
      rw [claimsOf_cons, inv.absent stored, after.1]
      rfl
    | some row =>
      rw [stored] at after
      obtain ⟨row₁, stored₁, change⟩ := after
      cases stored₁.symm.trans stored'
      exact inv.row_step stored change
  absent {id} missing := by
    have after := step.row (inv.phases label.worker) id
    cases stored : s.outbox.rows.get id with
    | none =>
      rw [stored] at after
      rw [claimsOf_cons, inv.absent stored, after.1]
      rfl
    | some row =>
      rw [stored] at after
      obtain ⟨row₁, stored₁, -⟩ := after
      cases stored₁.symm.trans missing

theorem publishInvariant_initial :
    PublishInvariant serialize [] (initial : State Payload Value) where
  phases _ := Table.unwritten_ofRows _
  known _ _ mem := nomatch mem
  calls phase := nomatch phase
  records := fun ⟨_, phase⟩ => by simp [initial] at phase
  rows stored := nomatch stored
  absent _ := rfl

theorem publishInvariant (run : Run (next serialize) initial history s) :
    PublishInvariant serialize history s :=
  run.invariant publishInvariant_initial fun _ inv step => inv.step (next_step step)

end Invariant

/-! ### Reclaiming -/

section Reclaim

variable {serialize : Payload → Value} {s s' : State Payload Value} {label : Label Payload}
  {history : List (State Payload Value × Label Payload)} {w : Worker}

/-- The committed events before `id` that a claim at `now` may take. -/
def olderEligible (s : State Payload Value) (id : Nat) (now : Int) :
    List (Nat × OutboxEvent Payload) :=
  s.outbox.rows.select fun i e => e.claimable (some outboxEventTypes) now && decide (i < id)

theorem claimable_of_waited {row : OutboxEvent Payload} {now : Int} (live : row.deletedAt = none)
    (eventType : row.eventType ∈ outboxEventTypes) (unpublished : row.publishedAt = none)
    (lease : ∀ t ∈ row.leaseExpiresAt, t ≤ now) (retry : ∀ t ∈ row.nextAttemptAt, t ≤ now) :
    row.claimable (some outboxEventTypes) now = true := by
  have past : ∀ column : Option Int, (∀ t ∈ column, t ≤ now) →
      (column.isNone || atOrBefore column now) = true := by
    intro column waited
    cases column with
    | none => rfl
    | some t => simpa using waited t rfl
  simp [OutboxEvent.claimable, live, unpublished, eventType, past _ lease, past _ retry]

/-- **The limit reaches an event** that few eligible events precede. -/
theorem mem_due_of_few_older {limit id : Nat} {now : Int} {row : OutboxEvent Payload}
    (stored : s.outbox.rows.get id = some row)
    (claimable : row.claimable (some outboxEventTypes) now = true) (unlocked : s.outbox.free w id)
    (few : (olderEligible s id now).length < limit) : (id, row) ∈ s.due w limit now := by
  have selected : (id, row) ∈ s.outbox.rows.select fun i e =>
      e.claimable (some outboxEventTypes) now && !(s.outbox.lockedIds w).contains i := by
    rw [Rows.mem_select]
    refine ⟨stored, ?_⟩
    have skipped := (Table.free_iff_not_mem_lockedIds (Rows.lt_nextId stored)).mp unlocked
    simp [claimable, skipped]
  refine (mem_take_iff (Rows.select_sorted _ _)).mpr ⟨selected, ?_⟩
  -- Skipping locked rows only shortens the list in front of the event.
  refine Nat.lt_of_le_of_lt ?_ few
  simp only [olderEligible, Rows.select, List.filter_filter, ← List.countP_eq_length_filter]
  refine List.countP_mono_left fun entry _ before => ?_
  simp only [Bool.and_eq_true, decide_eq_true_eq] at before ⊢
  exact ⟨before.2.1, before.1⟩

/-- Statements of other workers leave the phase of `w`. -/
theorem phase_of_others (run : Run (next serialize) s history s')
    (others : ∀ entry ∈ history, entry.2.worker ≠ w) : s'.phase w = s.phase w :=
  @Run.unmoved _ _ _ _ _ _ _ (·.phase w) (·.worker = w)
    (fun step ne => ((next_step step).frame (Ne.symm ne)).1) run others

/-- A claim that starts now returns `entry`: its three statements go through,
whatever other workers do in between. -/
def ClaimReturns (serialize : Payload → Value) (s : State Payload Value) (w : Worker)
    (limit : Nat) (token : String) (leaseSeconds now : Int)
    (entry : Nat × OutboxEvent Payload) : Prop :=
  ∃ s₁, next serialize s (.selectPending w limit token leaseSeconds now) = some s₁ ∧
    ∀ between s₂, Run (next serialize) s₁ between s₂ → (∀ e ∈ between, e.2.worker ≠ w) →
      ∃ s₃, next serialize s₂ (.advance w) = some s₃ ∧
        ∀ between' s₄, Run (next serialize) s₃ between' s₄ → (∀ e ∈ between', e.2.worker ≠ w) →
          ∃ s₅ pass, next serialize s₄ (.advance w) = some s₅ ∧
            s₅.phase w = .serving pass ∧ entry ∈ pass.rest

theorem next_advance_claimSelected {due : List (Nat × OutboxEvent Payload)} {token : String}
    {leaseSeconds now : Int} (phase : s.phase w = .claimSelected due token leaseSeconds now) :
    next serialize s (.advance w) = some (s.updateClaims w due token leaseSeconds now) := by
  simp [next, advance, Label.worker, phase]

theorem next_advance_claimFlushed {due : List (Nat × OutboxEvent Payload)} {token : String}
    {leaseSeconds now : Int} (phase : s.phase w = .claimFlushed due token leaseSeconds now) :
    next serialize s (.advance w) =
      some (s.commit w (.serving ⟨token, now, claimAll due token leaseSeconds now⟩)) := by
  simp [next, advance, Label.worker, phase]

theorem claimReturns_of_mem_due {limit : Nat} {token : String} {leaseSeconds now : Int}
    {entry : Nat × OutboxEvent Payload} (idle : s.phase w = .idle) (unused : token ∉ s.issued)
    (mem : entry ∈ s.due w limit now) :
    ClaimReturns serialize s w limit token leaseSeconds now
      (entry.1, entry.2.claim token leaseSeconds now) := by
  refine ⟨s.selectPending w limit token leaseSeconds now, ?_, fun between s₂ run others => ?_⟩
  · simp [next, Label.worker, idle, unused]
  · have selected : s₂.phase w = .claimSelected (s.due w limit now) token leaseSeconds now := by
      rw [phase_of_others run others, State.selectPending, State.phase_moveTo_self]
    refine ⟨_, next_advance_claimSelected selected, fun between' s₄ run' others' => ?_⟩
    have flushed : s₄.phase w = .claimFlushed (s.due w limit now) token leaseSeconds now := by
      rw [phase_of_others run' others', State.updateClaims, State.phase_moveTo_self]
    refine ⟨_, _, next_advance_claimFlushed flushed, State.phase_moveTo_self _ _ _, ?_⟩
    exact List.mem_map_of_mem mem

end Reclaim

/-! ### At-least-once publication -/

/-- **Outbox publication is at-least-once.** In every state of every run, a set
`published_at` has a publish call of the event that returned; an unpublished
event whose lease and retry time are over is returned by a claim whose limit
exceeds the number of older eligible events, unless another transaction holds
it; and `publish_attempts` counts the committed claims. -/
theorem outbox_publication (serialize : Payload → Value)
    (history : List (State Payload Value × Label Payload)) (s : State Payload Value)
    (run : Run (next serialize) initial history s) (id : Nat) (row : OutboxEvent Payload)
    (stored : s.outbox.rows.get id = some row) :
    (row.publishedAt.isSome = true → PublishedFor serialize history id row) ∧
    (row.publishedAt = none → ∀ (w : Worker) (limit : Nat) (token : String)
      (leaseSeconds now : Int),
      (∀ t ∈ row.leaseExpiresAt, t ≤ now) → (∀ t ∈ row.nextAttemptAt, t ≤ now) →
      (olderEligible s id now).length < limit → s.outbox.free w id →
      s.phase w = .idle → token ∉ s.issued →
      ClaimReturns serialize s w limit token leaseSeconds now
        (id, row.claim token leaseSeconds now)) ∧
    row.publishAttempts = claimsOf history id := by
  have ok := (publishInvariant run).rows stored
  refine ⟨ok.published, ?_, ok.attempts⟩
  intro unpublished w limit token leaseSeconds now lease retry few unlocked idle unused
  have claimable := claimable_of_waited ok.live ok.eventType unpublished lease retry
  exact claimReturns_of_mem_due idle unused (mem_due_of_few_older stored claimable unlocked few)

/-- An event whose payload is its own serialization. -/
def requestedEvent (key : String) : NewEvent String where
  aggregateType := "incident"
  aggregateId := "7"
  eventType := eventNotificationDeliveryRequestedV1
  payload := key
  idempotencyKey := key
  tenantId := none

/-- One pass over two events: the first publish call returns, the second times
out. -/
def oneEachLabels : List (Label String) :=
  [.add 0 (requestedEvent "first"), .add 0 (requestedEvent "second"),
    .selectPending 1 10 "token-1" 120 0, .advance 1, .advance 1,
    .advance 1, .publishReturned 1, .advance 1, .advance 1, .advance 1,
    .advance 1, .publishFailed 1 "TimeoutError", .advance 1, .advance 1, .advance 1]

/-- After the pass the first event is published, and the retry delay of five
seconds later a claim of one event returns the second. -/
theorem outbox_publication_one_each :
    ∃ (history : List (State String String × Label String)) (s : State String String)
      (published failed : OutboxEvent String), Run (next id) initial history s ∧
      s.outbox.rows.get 1 = some published ∧ PublishedFor id history 1 published ∧
      s.outbox.rows.get 2 = some failed ∧ failed.publishAttempts = claimsOf history 2 ∧
      ClaimReturns id s 2 1 "token-2" 120 (seconds 5)
        (2, failed.claim "token-2" 120 (seconds 5)) := by
  obtain ⟨history, run⟩ := run_of_isSome
    (show (finalState (next id) initial oneEachLabels).isSome = true by decide)
  have first := outbox_publication id history _ run 1 _ rfl
  have second := outbox_publication id history _ run 2 _ rfl
  refine ⟨history, _, _, _, run, rfl, first.1 rfl, rfl, second.2.2, ?_⟩
  exact second.2.1 rfl 2 1 "token-2" 120 (seconds 5) (fun t none => by cases none)
    (fun t due => by cases due; decide) (by decide) (by decide) rfl (by decide)

end ApiObservatory.Outbox
