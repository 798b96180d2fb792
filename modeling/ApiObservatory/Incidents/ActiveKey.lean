import ApiObservatory.Incidents.Transactions

/-
Status and active key of incidents under concurrent operators and probes.

The guard of an acknowledgement is evaluated on the row its route has read, and
its `UPDATE` writes the status alone. So an acknowledgement over a row that was
resolved in between leaves an acknowledged incident without a key
(`acknowledged_after_resolution`). In every run without this overlap each
incident is active under its fingerprint or resolved without a key, a resolved
incident stays resolved, and a fingerprint has at most one active incident.

The index part is `Table.Indexed`; the rest follows from what an `UPDATE` can
make of a row (`Evolves`).
-/

namespace ApiObservatory.Incidents

open Foundation

variable {Details : Type}

/-- The change acknowledges an incident that was loaded as open. -/
def Change.Acknowledges (change : Change Details) : Prop :=
  change.changed.status = .acknowledged ∧ change.loaded.status = .opened

/-- The step commits the resolution of an incident that an acknowledgement has
read and not yet written. -/
def ResolvesUnderAcknowledgement (s : State Details) (label : Label Details) : Prop :=
  ∃ w p w' change, label = .advance w ∧ s.phase w = .flushing [] ∧
    s.phase w' = .flushing [change] ∧ change.Acknowledges ∧
    s.incidents.pending w change.id = some p ∧ p.status = .resolved

/-- A change that some call has made, other than an acknowledgement. -/
def Change.Ordinary (change : Change Details) : Prop :=
  StatusChange change.loaded change.changed ∧ ¬ change.Acknowledges

/-- The objects of a transaction: ordinary changes, or the one of an
acknowledgement over a row it still sees unresolved. -/
def PhaseOk (s : State Details) (w : Worker) : Prop :=
  match s.phase w with
  | .idle => True
  | .probing _ _ changes => ∀ change ∈ changes, change.Ordinary
  | .inserting _ _ changes new =>
      (∀ change ∈ changes, change.Ordinary) ∧ new.status = .opened ∧
        new.activeKey = some new.fingerprint
  | .flushing changes =>
      (∀ change ∈ changes, change.Ordinary) ∨
        ∃ change row, changes = [change] ∧ StatusChange change.loaded change.changed ∧
          s.incidents.visible w change.id = some row ∧ row.status ≠ .resolved

structure Invariant (s : State Details) : Prop where
  indexed : s.incidents.Indexed (·.activeKey)
  coherent : ∀ {id row}, s.incidents.rows.get id = some row → row.Coherent
  pending : ∀ {w id p}, s.incidents.pending w id = some p →
    p.Coherent ∧ ∀ row, s.incidents.rows.get id = some row → Evolves row p
  phases : ∀ w, PhaseOk s w

theorem Invariant.visible {s : State Details} (inv : Invariant s) {w : Worker} {id : Nat}
    {row : DependencyIncident Details} (seen : s.incidents.visible w id = some row) :
    row.Coherent ∧ ∀ stored, s.incidents.rows.get id = some stored → Evolves stored row := by
  rcases Table.pending_or_stored seen with wrote | ⟨-, there⟩
  · exact inv.pending wrote
  · refine ⟨inv.coherent there, fun stored same => ?_⟩
    cases same.symm.trans there
    exact .refl row

theorem invariant_initial : Invariant (initial : State Details) where
  indexed := Table.indexed_ofRows_empty
  coherent stored := nomatch stored
  pending wrote := nomatch wrote
  phases _ := trivial

/-! ### One statement -/

/-- What is left after one `UPDATE` of a flush is ordinary. -/
theorem PhaseOk.sent {s s' : State Details} {w : Worker} {change : Change Details} {p : Phase Details}
    (ok : PhaseOk s w) (sends : Sends (s.phase w) change p) (phase : s'.phase w = p) :
    PhaseOk s' w := by
  unfold PhaseOk at ok ⊢
  rw [phase]
  generalize s.phase w = current at ok sends
  cases sends with
  | inserting source calls change rest new =>
    exact ⟨fun other mem => ok.1 other (List.mem_cons_of_mem _ mem), ok.2⟩
  | flushing change rest =>
    rcases ok with all | ⟨change, row, same, -, -, -⟩
    · exact Or.inl fun other mem => all other (List.mem_cons_of_mem _ mem)
    · cases same
      exact Or.inl fun _ none => (List.not_mem_nil none).elim

theorem mem_addChange {change other : Change Details} {changes : List (Change Details)}
    (mem : other ∈ addChange change changes) : other = change ∨ other ∈ changes :=
  (List.mem_orderedInsert _).mp mem

section Statement

variable [DecidableEq Details] {s s' : State Details} {w : Worker} {label : Label Details}

/-- The change a flush writes next may be written over what its transaction sees. -/
theorem PhaseOk.sends {change : Change Details} {p : Phase Details}
    {stored : DependencyIncident Details} (ok : PhaseOk s w) (sends : Sends (s.phase w) change p)
    (seen : s.incidents.visible w change.id = some stored) :
    Evolves stored (DependencyIncident.update change.loaded change.changed stored) := by
  have ordinary : change.Ordinary →
      Evolves stored (DependencyIncident.update change.loaded change.changed stored) :=
    fun h => h.1.evolves fun acknowledged opened => absurd ⟨acknowledged, opened⟩ h.2
  unfold PhaseOk at ok
  generalize s.phase w = phase at ok sends
  cases sends with
  | inserting source calls change rest new => exact ordinary (ok.1 change List.mem_cons_self)
  | flushing change rest =>
    rcases ok with all | ⟨change, row, same, is, sees, active⟩
    · exact ordinary (all change List.mem_cons_self)
    · cases same
      cases sees.symm.trans seen
      exact is.evolves fun _ _ => active

/-- **The objects of the moving transaction** stay as the invariant says. -/
theorem Step.phaseOk (step : Step s label s') (inv : Invariant s) : PhaseOk s' label.worker := by
  have before := inv.phases label.worker
  cases step with
  | refused w₁ label same phase =>
    subst same
    simp [PhaseOk]
  | acknowledge w₁ id caller now row changed phase seen done =>
    obtain ⟨opened, status, key⟩ := statusChange_acknowledge done
    simp only [PhaseOk, Label.worker, phase_moveTo_self]
    exact Or.inr ⟨_, row, rfl, .acknowledges opened status key, seen, by rw [opened]; decide⟩
  | resolve w₁ id caller now row changed phase seen done =>
    obtain ⟨change, resolved⟩ := statusChange_resolve (inv.visible seen).1 done
    simp only [PhaseOk, Label.worker, phase_moveTo_self]
    refine Or.inl fun other mem => ?_
    rw [List.mem_singleton] at mem
    subst mem
    refine ⟨change, fun acknowledges => ?_⟩
    cases acknowledges.1.symm.trans resolved
  | probe w₁ source calls phase => simp [PhaseOk, Label.worker]
  | load w₁ source call rest changes change phase seen is kept =>
    simp only [PhaseOk, Label.worker, phase] at before
    simp only [PhaseOk, Label.worker, phase_moveTo_self]
    intro other mem
    rcases mem_addChange mem with rfl | old
    · refine ⟨is (inv.visible seen).1, fun ⟨acknowledged, opened⟩ => ?_⟩
      rw [kept acknowledged] at opened
      cases opened
    · exact before other old
  | skip w₁ source call rest changes phase =>
    simp only [PhaseOk, Label.worker, phase] at before
    simpa only [PhaseOk, Label.worker, phase_moveTo_self] using before
  | create w₁ source call rest changes new phase status key =>
    simp only [PhaseOk, Label.worker, phase] at before
    simp only [PhaseOk, Label.worker, phase_moveTo_self]
    exact ⟨before, status, key⟩
  | finish w₁ source changes phase =>
    simp only [PhaseOk, Label.worker, phase] at before
    simp only [PhaseOk, Label.worker, phase_moveTo_self]
    exact Or.inl before
  | update w₁ change p stored sends seen unlocked =>
    exact before.sent sends (phase_moveTo_self p)
  | insert w₁ source calls new phase => simp [PhaseOk, Label.worker, State.insert]
  | commit => simp [PhaseOk, Label.worker, State.commit]
  | rollback w₁ label same =>
    subst same
    simp [PhaseOk, State.rollback]

theorem Invariant.indexed_step (inv : Invariant s) (step : Step s label s') :
    s'.incidents.Indexed (·.activeKey) := by
  cases step with
  | update w₁ change p stored sends seen unlocked =>
    exact inv.indexed.write seen unlocked ((inv.phases w₁).sends sends seen).key
  | insert w₁ source calls new phase uncontested absent =>
    have ok := inv.phases w₁
    simp only [PhaseOk, phase] at ok
    refine inv.indexed.insert ok.2.2 (fun other wrote => ?_) fun seen => selectActive_none absent seen
    simpa using Table.contested_eq_false uncontested other wrote
  | commit => exact inv.indexed.commit
  | rollback => exact inv.indexed.rollback
  | _ => exact inv.indexed

/-- **What a step makes of a committed incident.** -/
theorem Invariant.evolves (inv : Invariant s) (step : Step s label s') {id : Nat}
    {row : DependencyIncident Details} (stored : s.incidents.rows.get id = some row) :
    ∃ row', s'.incidents.rows.get id = some row' ∧ Evolves row row' := by
  rcases step.rows id with same | ⟨-, -, published⟩
  · exact ⟨row, same.trans stored, .refl row⟩
  · cases wrote : s.incidents.pending label.worker id with
    | none => exact ⟨row, (published.trans (Table.visible_eq_rows wrote)).trans stored, .refl row⟩
    | some p =>
      exact ⟨p, published.trans (Table.visible_of_pending wrote), (inv.pending wrote).2 row stored⟩

theorem Invariant.coherent_step (inv : Invariant s) (step : Step s label s') {id : Nat}
    {row : DependencyIncident Details} (stored : s'.incidents.rows.get id = some row) :
    row.Coherent := by
  rcases step.rows id with same | ⟨-, -, published⟩
  · exact inv.coherent (same.symm.trans stored)
  · exact (inv.visible (published.symm.trans stored)).1

theorem Invariant.pending_step (inv : Invariant s) (step : Step s label s') {w : Worker} {id : Nat}
    {p : DependencyIncident Details} (wrote : s'.incidents.pending w id = some p) :
    p.Coherent ∧ ∀ row, s'.incidents.rows.get id = some row → Evolves row p := by
  cases step with
  | update w₁ change next stored sends seen unlocked =>
    simp only [State.update, State.moveTo, Table.rows_write] at wrote ⊢
    rcases Table.pending_write_cases wrote with ⟨rfl, rfl, rfl⟩ | old
    · have evolves := (inv.phases w).sends sends seen
      obtain ⟨coherent, after⟩ := inv.visible seen
      exact ⟨evolves.coherent coherent, fun row there => (after row there).trans evolves⟩
    · exact inv.pending old
  | insert w₁ source calls new phase =>
    have ok := inv.phases w₁
    simp only [PhaseOk, phase] at ok
    rcases Table.pending_insert_cases wrote with ⟨rfl, rfl, rfl⟩ | old
    · refine ⟨Or.inl ⟨by rw [ok.2.1]; decide, ok.2.2⟩, fun row there => ?_⟩
      have before : s.incidents.rows.get s.incidents.rows.nextId = some row := there
      exact absurd (Rows.lt_nextId before) (Nat.lt_irrefl _)
    · exact inv.pending old
  | commit w₁ =>
    obtain ⟨ne, old⟩ := Table.pending_commit_cases wrote
    refine ⟨(inv.pending old).1, fun row there => ?_⟩
    have kept : (s.incidents.commit w₁).rows.get id = s.incidents.rows.get id := by
      refine Table.get_commit_of_not_held ?_
      rw [s.incidents.held old]
      simpa using ne
    exact (inv.pending old).2 row (kept.symm.trans there)
  | rollback =>
    obtain ⟨-, old⟩ := Table.pending_rollback_cases wrote
    exact inv.pending old
  | _ => exact inv.pending wrote

/-- A committed incident that an acknowledgement has read as open is not
resolved by the step. -/
theorem Step.stays_active (step : Step s label s')
    (apart : ¬ ResolvesUnderAcknowledgement s label) {change : Change Details}
    (phase : s.phase w = .flushing [change]) (acknowledges : change.Acknowledges)
    {row : DependencyIncident Details} (stored : s.incidents.rows.get change.id = some row)
    (active : row.status ≠ .resolved) :
    ∃ row', s'.incidents.rows.get change.id = some row' ∧ row'.status ≠ .resolved := by
  rcases step.rows change.id with same | ⟨is, commits, published⟩
  · exact ⟨row, same.trans stored, active⟩
  · cases wrote : s.incidents.pending label.worker change.id with
    | none =>
      exact ⟨row, (published.trans (Table.visible_eq_rows wrote)).trans stored, active⟩
    | some p =>
      refine ⟨p, published.trans (Table.visible_of_pending wrote), fun resolved => apart ?_⟩
      exact ⟨label.worker, p, w, change, is, commits, phase, acknowledges, wrote, resolved⟩

/-- A statement of another worker leaves an acknowledgement over an unresolved
row, unless it commits a resolution there. -/
theorem Invariant.phaseOk_frame (inv : Invariant s) (step : Step s label s')
    (apart : ¬ ResolvesUnderAcknowledgement s label) (ne : w ≠ label.worker) : PhaseOk s' w := by
  obtain ⟨phase, keeps⟩ := step.frame ne
  have before := inv.phases w
  unfold PhaseOk at before ⊢
  rw [phase]
  cases current : s.phase w with
  | idle => trivial
  | probing source calls changes =>
    rw [current] at before
    exact before
  | inserting source calls changes new =>
    rw [current] at before
    exact before
  | flushing changes =>
    rw [current] at before
    rcases before with ordinary | ⟨change, row, rfl, is, seen, active⟩
    · exact Or.inl ordinary
    · by_cases acknowledges : change.Acknowledges
      · right
        rcases Table.pending_or_stored seen with wrote | ⟨unwritten, there⟩
        · rw [← keeps.pending] at wrote
          exact ⟨change, row, rfl, is, Table.visible_of_pending wrote, active⟩
        · rw [← keeps.pending] at unwritten
          obtain ⟨row', stored', active'⟩ :=
            step.stays_active apart current acknowledges there active
          exact ⟨change, row', rfl, is, (Table.visible_eq_rows unwritten).trans stored', active'⟩
      · refine Or.inl fun other mem => ?_
        rw [List.mem_singleton] at mem
        subst mem
        exact ⟨is, acknowledges⟩

/-- **Every statement that resolves under no acknowledgement keeps the invariant.** -/
theorem Invariant.step (inv : Invariant s) (apart : ¬ ResolvesUnderAcknowledgement s label)
    (step : Step s label s') : Invariant s' where
  indexed := inv.indexed_step step
  coherent := inv.coherent_step step
  pending := inv.pending_step step
  phases w := by
    by_cases e : w = label.worker
    · subst e
      exact step.phaseOk inv
    · exact inv.phaseOk_frame step apart e

end Statement

/-! ### Every run -/

section Runs

variable [DecidableEq Details] {s s' : State Details} {history : List (State Details × Label Details)}

theorem invariant (run : Run next initial history s)
    (apart : Along (fun s label => ¬ ResolvesUnderAcknowledgement s label) history) :
    Invariant s :=
  run.invariant_of_along invariant_initial (fun inv apart step => inv.step apart (next_step step))
    apart

/-- A resolved incident stays resolved along a run. -/
theorem Invariant.resolved_stays (inv : Invariant s) (run : Run next s history s')
    (apart : Along (fun s label => ¬ ResolvesUnderAcknowledgement s label) history) {id : Nat}
    {row : DependencyIncident Details} (stored : s.incidents.rows.get id = some row)
    (resolved : row.status = .resolved) :
    ∃ row', s'.incidents.rows.get id = some row' ∧ row'.status = .resolved := by
  induction run with
  | init => exact ⟨row, stored, resolved⟩
  | snoc run step ih =>
    rw [along_cons] at apart
    have inv₁ := run.invariant_of_along inv
      (fun inv apart step => inv.step apart (next_step step)) apart.2
    obtain ⟨row₁, stored₁, resolved₁⟩ := ih apart.2
    obtain ⟨row₂, stored₂, evolves⟩ := inv₁.evolves (next_step step) stored₁
    exact ⟨row₂, stored₂, evolves.resolved_stays resolved₁⟩

/-- **Incident states without a resolution under an acknowledgement.** In every
state of such a run an incident is active exactly under its fingerprint and
resolved exactly without an active key, it stays resolved from then on, and a
fingerprint has at most one active incident. -/
theorem incident_states (history : List (State Details × Label Details)) (s : State Details)
    (run : Run next initial history s)
    (apart : Along (fun s label => ¬ ResolvesUnderAcknowledgement s label) history) :
    (∀ id row, s.incidents.rows.get id = some row →
      ((row.status = .opened ∨ row.status = .acknowledged) ↔
        row.activeKey = some row.fingerprint) ∧
      (row.status = .resolved ↔ row.activeKey = none)) ∧
    (∀ id row, s.incidents.rows.get id = some row → row.status = .resolved →
      ∀ later s', Run next s later s' →
        Along (fun s label => ¬ ResolvesUnderAcknowledgement s label) later →
        ∃ row', s'.incidents.rows.get id = some row' ∧ row'.status = .resolved) ∧
    (∀ id id' row row', s.incidents.rows.get id = some row → s.incidents.rows.get id' = some row' →
      row.fingerprint = row'.fingerprint → row.status ≠ .resolved → row'.status ≠ .resolved →
      id = id') := by
  have inv := invariant run apart
  refine ⟨fun id row stored => ?_, fun id row stored resolved later s' run' apart' => ?_,
    fun id id' row row' stored stored' same active active' => ?_⟩
  · rcases inv.coherent stored with ⟨active, key⟩ | ⟨resolved, key⟩
    · rw [key]
      cases status : row.status <;> simp_all
    · rw [key, resolved]
      simp
  · exact inv.resolved_stays run' apart' stored resolved
  · refine inv.indexed.unique stored stored' ((inv.coherent stored).key_of_active active) ?_
    rw [same]
    exact (inv.coherent stored').key_of_active active'

end Runs

/-! ### One session, and two that overlap -/

/-- One session resolves under no acknowledgement. -/
theorem apart_of_one_worker {history : List (State Unit × Label Unit)} {s : State Unit}
    {w : Worker} (run : Run next initial history s) (one : ∀ entry ∈ history, entry.2.worker = w) :
    Along (fun s label => ¬ ResolvesUnderAcknowledgement s label) history := by
  induction run with
  | init => exact along_nil _
  | @snoc history s s' label run step ih =>
    obtain ⟨here, before⟩ := List.forall_mem_cons.mp one
    refine (along_cons _ _ _).mpr ⟨?_, ih before⟩
    rintro ⟨w₁, p, w₂, change, rfl, commits, reads, -⟩
    have idle : ∀ other, other ≠ w → s.phase other = .idle := fun other ne =>
      run.unmoved (fun step still => ((next_step step).frame (Ne.symm still)).1)
        fun entry mem same => ne (same.symm.trans (before entry mem))
    have own : w₂ = w := by
      by_contra ne
      cases (idle w₂ ne).symm.trans reads
    rw [own, ← here] at reads
    cases commits.symm.trans reads

def exampleSource : SourceProfile :=
  { id := 3, name := "billing", baseUrl := "https://billing.example", tenantId := some 1 }

def operator (actor : String) : Caller := ⟨some 1, false, actor⟩

/-- A probe opens incident 1. -/
def openLabels : List (Label Unit) :=
  [.probe 1 exampleSource [.openOrUpdate .availability "critical" "2 consecutive probes failed" () 0 0],
    .advance 1, .advance 1, .advance 1, .advance 1]

/-- The session of the probe then acknowledges the incident. -/
def acknowledgeLabels : List (Label Unit) :=
  openLabels ++ [.acknowledge 1 1 (operator "ann") 5, .advance 1, .advance 1]

theorem incident_states_acknowledged :
    ∃ (history : List (State Unit × Label Unit)) (s : State Unit) (row : DependencyIncident Unit),
      Run next initial history s ∧ s.incidents.rows.get 1 = some row ∧
      row.activeKey = some row.fingerprint := by
  obtain ⟨history, run, labels⟩ := run_of_isSome_labels
    (show (finalState next initial acknowledgeLabels).isSome = true by decide)
  have one : ∀ entry ∈ history, entry.2.worker = 1 := by
    have all : ∀ label ∈ acknowledgeLabels.reverse, label.worker = 1 := by decide
    intro entry mem
    exact all entry.2 (labels ▸ List.mem_map_of_mem mem)
  have states := incident_states history _ run (apart_of_one_worker run one)
  exact ⟨history, _, _, run, rfl, (states.1 1 _ rfl).1.mp (Or.inr rfl)⟩

/-- Two routes read the open incident, and the resolution commits. -/
def overlapLabels : List (Label Unit) :=
  openLabels ++ [.acknowledge 1 1 (operator "ann") 5, .resolve 2 1 (operator "ben") 6, .advance 2,
    .advance 2]

/-- **A resolved incident is acknowledged** by the route that has read it as
open, and is then acknowledged without an active key. -/
theorem acknowledged_after_resolution :
    ∃ (history later : List (State Unit × Label Unit)) (s s' : State Unit)
      (row row' : DependencyIncident Unit), Run next initial history s ∧
      s.incidents.rows.get 1 = some row ∧ row.status = .resolved ∧ Run next s later s' ∧
      s'.incidents.rows.get 1 = some row' ∧ row'.status = .acknowledged ∧
      row'.activeKey = none := by
  obtain ⟨history, run⟩ := run_of_isSome
    (show (finalState next initial overlapLabels).isSome = true by decide)
  obtain ⟨later, run'⟩ := run_of_isSome
    (show (finalState next ((finalState next initial overlapLabels).get (by decide))
      [.advance 1, .advance 1]).isSome = true by decide)
  exact ⟨history, later, _, _, _, _, run, rfl, rfl, run', rfl, rfl, rfl⟩

end ApiObservatory.Incidents
