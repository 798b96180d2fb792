import ApiObservatory.Foundation.UniqueIndex
import ApiObservatory.ContractDrift.Transactions

/-
Ingestion that overlaps an acceptance.

An ingestion that waits for the baseline an acceptance is replacing finds
neither the old baseline, which is superseded by then, nor the new one, which
was inserted after its `SELECT` started. It takes the source for one without a
baseline, inserts version 1 again and fails (`ingestion_fails_under_acceptance`).
In every run in which no acceptance commits while an ingestion waits for it, no
call fails, and every ingestion is compared with the baseline that is active
when it commits.

A call is engaged from the lock on the active baseline to its end. At most one
call is engaged, so nothing it has read changes before it commits.
-/

namespace ApiObservatory.ContractDrift.Overlap

open Foundation

/-! ### The condition -/

/-- No acceptance commits while an ingestion waits for the row it replaces. -/
def Undisturbed (s : State) : Label → Prop
  | .advance w _ => ∀ id baseline, s.phase w = .promoting id baseline →
      ∀ w' payload createdAt snapshotId,
        s.phase w' ≠ .awaitingBaseline payload createdAt snapshotId id
  | _ => True

/-! ### The invariant -/

def committed (s : State) : ContractDb where
  sources := .empty
  snapshots := s.snapshots.rows
  baselines := s.baselines.rows
  driftEvents := s.driftEvents.rows

/-- The database once the call `w` commits. -/
def seen (s : State) (w : Worker) : ContractDb where
  sources := .empty
  snapshots := s.snapshots.published w
  baselines := s.baselines.published w
  driftEvents := s.driftEvents.published w

/-- The baselines are the history of the source. -/
structure Sound (sourceId : Nat) (db : ContractDb) : Prop where
  history : ∃ n, BaselineHistory db sourceId n
  owned : ∀ id baseline, db.baselines.get id = some baseline → baseline.sourceId = sourceId

/-- What a call has selected, from its lock on the baseline to its end. -/
def Phase.engaged : Phase → Option Selected
  | .baselineSelected _ _ _ selected => some selected
  | .createWritten _ _ _ selected => some selected
  | .acceptSelected _ id baseline => some (some (id, baseline))
  | .superseding _ id baseline _ _ => some (some (id, baseline))
  | .promoting id baseline => some (some (id, baseline))
  | _ => none

/-- The call holds the lock on the row of the source. -/
def Phase.creates : Phase → Bool
  | .sourceLocked _ => true
  | .snapshotInserted _ _ _ => true
  | .awaitingBaseline _ _ _ _ => true
  | .baselineSelected _ _ _ _ => true
  | .createWritten _ _ _ _ => true
  | _ => false

/-- The call has selected the active baseline and holds its row. -/
structure Engages (s : State) (sourceId : Nat) (w : Worker) (selected : Selected) : Prop where
  active : ∀ id baseline, Active s.baselines.rows sourceId id baseline ↔
    selected = some (id, baseline)
  holds : ∀ id baseline, selected = some (id, baseline) → s.baselines.holder id = some w

/-- The snapshot of a call after its comparison with the selected baseline. -/
def Compared (sha256 : String → String) (s : State) (w : Worker) (payload : ContractSnapshotCreate)
    (createdAt : Int) (snapshotId : Nat) : Selected → Prop
  | none => s.snapshots.Wrote w snapshotId (newSnapshot sha256 payload createdAt)
  | some (_, baseline) => ∃ base, s.snapshots.rows.get baseline.baselineSnapshotId = some base ∧
      s.snapshots.Wrote w snapshotId { newSnapshot sha256 payload createdAt with
        compatibilityScore := compatibilityScore
          (diffContract (structureOf base.payloadSchema) (structureOf payload.payloadSchema)) }

def PhaseOk (sha256 : String → String) (sourceId : Nat) (s : State) (w : Worker) : Prop :=
  match s.phase w with
  | .submitted payload =>
      payload.sourceId = sourceId ∧ s.baselines.Unwritten w ∧ s.snapshots.Unwritten w
  | .sourceLocked payload =>
      payload.sourceId = sourceId ∧ s.baselines.Unwritten w ∧ s.snapshots.Unwritten w
  | .snapshotInserted payload createdAt snapshotId =>
      payload.sourceId = sourceId ∧ s.baselines.Unwritten w ∧
        s.snapshots.Wrote w snapshotId (newSnapshot sha256 payload createdAt)
  | .awaitingBaseline payload createdAt snapshotId id =>
      payload.sourceId = sourceId ∧ s.baselines.Unwritten w ∧
        s.snapshots.Wrote w snapshotId (newSnapshot sha256 payload createdAt) ∧
        ∃ baseline, Active s.baselines.rows sourceId id baseline
  | .baselineSelected payload createdAt snapshotId _ =>
      payload.sourceId = sourceId ∧ s.baselines.Unwritten w ∧
        s.snapshots.Wrote w snapshotId (newSnapshot sha256 payload createdAt)
  | .createWritten payload createdAt snapshotId selected =>
      payload.sourceId = sourceId ∧ Sound sourceId (seen s w) ∧
        Compared sha256 s w payload createdAt snapshotId selected
  | .stored payload snapshotId =>
      s.baselines.Unwritten w ∧ s.snapshots.Unwritten w ∧
        ∃ snapshot, s.snapshots.rows.get snapshotId = some snapshot ∧
          snapshot.sourceId = payload.sourceId ∧ snapshot.payloadSchema = payload.payloadSchema
  | .violated => False
  | .failed _ => False
  | .superseding _ id baseline candidateId now =>
      s.baselines.Wrote w id (supersededBaseline baseline now) ∧ s.snapshots.Unwritten w ∧
        ∃ candidate, s.snapshots.rows.get candidateId = some candidate ∧
          candidate.sourceId = sourceId
  | .promoting _ _ => Sound sourceId (seen s w) ∧ s.snapshots.Unwritten w
  | _ => s.baselines.Unwritten w ∧ s.snapshots.Unwritten w

structure Invariant (sha256 : String → String) (sourceId : Nat) (s : State) : Prop where
  sound : Sound sourceId (committed s)
  newSnapshots : ∀ w id snapshot, s.snapshots.pending w id = some snapshot →
    s.snapshots.rows.get id = none
  sourceLock : ∀ w, s.sourceHolder = some w ↔ (s.phase w).creates = true
  engaged : ∀ w selected, (s.phase w).engaged = some selected → Engages s sourceId w selected
  held : ∀ w id, s.baselines.holder id = some w → (s.phase w).engaged.isSome = true
  phases : ∀ w, PhaseOk sha256 sourceId s w

section Facts

variable {sha256 : String → String} {sourceId : Nat} {s s' : State} {w : Worker}

/-- Soundness is read from the stored rows. -/
theorem Sound.congr {db db' : ContractDb} (sound : Sound sourceId db)
    (baselines : ∀ id, db'.baselines.get id = db.baselines.get id)
    (snapshots : ∀ id, db'.snapshots.get id = db.snapshots.get id) : Sound sourceId db' := by
  obtain ⟨⟨n, h⟩, owned⟩ := sound
  refine ⟨⟨n, h.congr ?_ ?_ ?_ ?_⟩, ?_⟩
  · intro id new own
    exact ⟨new, ⟨(baselines id).symm.trans own.1, own.2⟩, rfl⟩
  · intro id old own
    exact ⟨old, ⟨(baselines id).trans own.1, own.2⟩, rfl⟩
  · intro id snapshot stored
    exact (snapshots id).trans stored
  · intro id snapshot stored own
    exact h.begun id snapshot ((snapshots id).symm.trans stored) own
  · intro id baseline stored
    exact owned id baseline ((baselines id).symm.trans stored)

theorem Sound.unique {db : ContractDb} (sound : Sound sourceId db) {id id' : Nat}
    {baseline baseline' : ContractBaseline} (active : Active db.baselines sourceId id baseline)
    (active' : Active db.baselines sourceId id' baseline') : id = id' := by
  obtain ⟨⟨n, h⟩, -⟩ := sound
  refine h.once id id' baseline baseline' (owned_of_active active) (owned_of_active active') ?_
  exact (h.version_of_active active).trans (h.version_of_active active').symm

/-- **One call is engaged at a time.** -/
theorem Invariant.engaged_unique (inv : Invariant sha256 sourceId s) {w' : Worker}
    {selected selected' : Selected} (engaged : (s.phase w).engaged = some selected)
    (engaged' : (s.phase w').engaged = some selected') : w = w' := by
  obtain ⟨active, holds⟩ := inv.engaged w selected engaged
  obtain ⟨active', holds'⟩ := inv.engaged w' selected' engaged'
  -- without a baseline only an ingestion is engaged, and that holds the source
  have locked : ∀ {v}, (s.phase v).engaged = some none → s.sourceHolder = some v := by
    intro v none
    refine (inv.sourceLock v).mpr ?_
    generalize s.phase v = p at none
    cases p with
    | baselineSelected => rfl
    | createWritten => rfl
    | _ => cases none
  cases selected with
  | some entry =>
    obtain ⟨id, baseline⟩ := entry
    have same := (active' id baseline).mp ((active id baseline).mpr rfl)
    exact Option.some.inj ((holds id baseline rfl).symm.trans (holds' id baseline same))
  | none =>
    cases selected' with
    | some entry =>
      obtain ⟨id, baseline⟩ := entry
      cases (active id baseline).mp ((active' id baseline).mpr rfl)
    | none => exact Option.some.inj ((locked engaged).symm.trans (locked engaged'))

end Facts

/-! ### Statements before a commit -/

/-- A statement that commits nothing takes the call `w` to the phase `p`. -/
structure Quiet (s s' : State) (w : Worker) (p : Phase) : Prop where
  phase : s'.phase = Function.update s.phase w p
  baselines : ∀ w', w' ≠ w → Table.Keeps w' s.baselines s'.baselines
  snapshots : ∀ w', w' ≠ w → Table.Keeps w' s.snapshots s'.snapshots
  baselineRows : ∀ id, s'.baselines.rows.get id = s.baselines.rows.get id
  snapshotRows : ∀ id, s'.snapshots.rows.get id = s.snapshots.rows.get id
  holder : ∀ w', w' ≠ w → (s'.sourceHolder = some w' ↔ s.sourceHolder = some w')

section Statements

variable {sha256 : String → String} {sourceId : Nat} {s s' : State} {w : Worker} {p : Phase}

theorem active_congr {baselines baselines' : Rows ContractBaseline}
    (same : ∀ id, baselines'.get id = baselines.get id) (id : Nat) (baseline : ContractBaseline) :
    Active baselines' sourceId id baseline ↔ Active baselines sourceId id baseline := by
  simp only [Active, same id]

/-- What `w` sees depends on what it wrote and on the committed rows. -/
theorem visible_congr {Row : Type} {T T' : Table Worker Row} (keeps : T'.pending w = T.pending w)
    (rows : ∀ id, T'.rows.get id = T.rows.get id) (id : Nat) :
    T'.visible w id = T.visible w id := by
  simp only [Table.visible, keeps, rows id]

/-- A statement of another call leaves a phase as it is. -/
theorem PhaseOk.keeps (ok : PhaseOk sha256 sourceId s w) (phase : s'.phase w = s.phase w)
    (baselines : Table.Keeps w s.baselines s'.baselines)
    (snapshots : Table.Keeps w s.snapshots s'.snapshots)
    (baselineRows : ∀ id, s'.baselines.rows.get id = s.baselines.rows.get id)
    (snapshotRows : ∀ id, s'.snapshots.rows.get id = s.snapshots.rows.get id) :
    PhaseOk sha256 sourceId s' w := by
  have ready : Sound sourceId (seen s w) → Sound sourceId (seen s' w) := fun sound =>
    sound.congr (visible_congr baselines.pending baselineRows)
      (visible_congr snapshots.pending snapshotRows)
  unfold PhaseOk at ok ⊢
  rw [phase]
  generalize s.phase w = current at ok
  cases current with
  | submitted payload => exact ⟨ok.1, baselines.unwritten ok.2.1, snapshots.unwritten ok.2.2⟩
  | sourceLocked payload => exact ⟨ok.1, baselines.unwritten ok.2.1, snapshots.unwritten ok.2.2⟩
  | snapshotInserted payload createdAt snapshotId =>
    exact ⟨ok.1, baselines.unwritten ok.2.1, snapshots.wrote ok.2.2⟩
  | awaitingBaseline payload createdAt snapshotId id =>
    obtain ⟨own, unwritten, wrote, baseline, active⟩ := ok
    exact ⟨own, baselines.unwritten unwritten, snapshots.wrote wrote, baseline,
      (active_congr baselineRows id baseline).mpr active⟩
  | baselineSelected payload createdAt snapshotId selected =>
    exact ⟨ok.1, baselines.unwritten ok.2.1, snapshots.wrote ok.2.2⟩
  | createWritten payload createdAt snapshotId selected =>
    obtain ⟨own, sound, compared⟩ := ok
    refine ⟨own, ready sound, ?_⟩
    cases selected with
    | none => exact snapshots.wrote compared
    | some entry =>
      obtain ⟨base, stored, wrote⟩ := compared
      exact ⟨base, (snapshotRows _).trans stored, snapshots.wrote wrote⟩
  | stored payload snapshotId =>
    obtain ⟨unwritten, unwritten', snapshot, there, same⟩ := ok
    exact ⟨baselines.unwritten unwritten, snapshots.unwritten unwritten', snapshot,
      (snapshotRows _).trans there, same⟩
  | violated => exact ok
  | failed text => exact ok
  | superseding acceptance id baseline candidateId now =>
    obtain ⟨wrote, unwritten, candidate, there, own⟩ := ok
    exact ⟨baselines.wrote wrote, snapshots.unwritten unwritten, candidate,
      (snapshotRows _).trans there, own⟩
  | promoting id baseline => exact ⟨ready ok.1, snapshots.unwritten ok.2⟩
  | _ => exact ⟨baselines.unwritten ok.1, snapshots.unwritten ok.2⟩

/-- **A statement that commits nothing** keeps the invariant if its own call is
in order afterwards. -/
theorem Invariant.quiet (inv : Invariant sha256 sourceId s) (quiet : Quiet s s' w p)
    (fresh : ∀ id snapshot, s'.snapshots.pending w id = some snapshot →
      s.snapshots.rows.get id = none)
    (lock : s'.sourceHolder = some w ↔ p.creates = true)
    (engaged : ∀ selected, p.engaged = some selected → Engages s' sourceId w selected)
    (held : ∀ id, s'.baselines.holder id = some w → p.engaged.isSome = true)
    (ok : PhaseOk sha256 sourceId s' w) : Invariant sha256 sourceId s' := by
  have here : s'.phase w = p := by rw [quiet.phase, Function.update_self]
  have there : ∀ {w'}, w' ≠ w → s'.phase w' = s.phase w' := fun ne => by
    rw [quiet.phase, Function.update_of_ne ne]
  refine ⟨inv.sound.congr quiet.baselineRows quiet.snapshotRows, ?_, ?_, ?_, ?_, ?_⟩
  · intro w' id snapshot wrote
    rw [quiet.snapshotRows]
    by_cases e : w' = w
    · subst e
      exact fresh id snapshot wrote
    · rw [(quiet.snapshots w' e).pending] at wrote
      exact inv.newSnapshots w' id snapshot wrote
  · intro w'
    by_cases e : w' = w
    · subst e
      rw [here]
      exact lock
    · rw [there e]
      exact (quiet.holder w' e).trans (inv.sourceLock w')
  · intro w' selected is
    by_cases e : w' = w
    · subst e
      exact engaged selected (here ▸ is)
    · rw [there e] at is
      obtain ⟨active, holds⟩ := inv.engaged w' selected is
      refine ⟨?_, ?_⟩
      · intro id baseline
        exact (active_congr quiet.baselineRows id baseline).trans (active id baseline)
      · intro id baseline same
        exact ((quiet.baselines w' e).holder id).mpr (holds id baseline same)
  · intro w' id holds
    by_cases e : w' = w
    · subst e
      rw [here]
      exact held id holds
    · rw [there e]
      exact inv.held w' id (((quiet.baselines w' e).holder id).mp holds)
  · intro w'
    by_cases e : w' = w
    · subst e
      exact ok
    · exact (inv.phases w').keeps (there e) (quiet.baselines w' e) (quiet.snapshots w' e)
        quiet.baselineRows quiet.snapshotRows

/-! ### The commit of an engaged call -/

/-- A call gives up the row of the source, and no other loses it. -/
theorem released_iff {holder : Option Worker} {w' : Worker} :
    (if holder = some w then none else holder) = some w' ↔ w' ≠ w ∧ holder = some w' := by
  split
  · rename_i own
    rw [own]
    constructor
    · intro none
      cases none
    · rintro ⟨ne, same⟩
      exact absurd (Option.some.inj same).symm ne
  · rename_i other
    constructor
    · intro same
      refine ⟨?_, same⟩
      rintro rfl
      exact other same
    · intro h
      exact h.2

theorem get_commit_of_some {id : Nat} {snapshot : ContractSnapshot}
    (inv : Invariant sha256 sourceId s) (stored : s.snapshots.rows.get id = some snapshot) :
    (s.snapshots.commit w).rows.get id = some snapshot := by
  rw [Table.get_commit]
  cases wrote : s.snapshots.pending w id with
  | none => rw [Table.visible_eq_rows wrote, stored]
  | some new =>
    have unstored := inv.newSnapshots w id new wrote
    rw [stored] at unstored
    cases unstored

/-- **The commit of an engaged call** keeps the invariant: no other call is
engaged, and none waits for the row it replaces. -/
theorem Invariant.commit (inv : Invariant sha256 sourceId s) {selected : Selected}
    (engaged : (s.phase w).engaged = some selected) (sound : Sound sourceId (seen s w))
    (calm : ∀ w', w' ≠ w → ∀ payload createdAt snapshotId id,
      s.phase w' ≠ .awaitingBaseline payload createdAt snapshotId id)
    (done : p.creates = false ∧ p.engaged = none)
    (ok : PhaseOk sha256 sourceId (s.commit w p) w) : Invariant sha256 sourceId (s.commit w p) := by
  have here : (s.commit w p).phase w = p := by simp [State.commit, State.moveTo]
  have there : ∀ {w'}, w' ≠ w → (s.commit w p).phase w' = s.phase w' := fun ne => by
    simp [State.commit, State.moveTo, ne]
  have alone : ∀ {w'}, w' ≠ w → (s.phase w').engaged = none := by
    intro w' ne
    cases other : (s.phase w').engaged with
    | none => rfl
    | some selected' => exact absurd (inv.engaged_unique other engaged) ne
  refine ⟨sound.congr (fun _ => rfl) (fun _ => rfl), ?_, ?_, ?_, ?_, ?_⟩
  · intro w' id snapshot wrote
    obtain ⟨ne, old⟩ : w' ≠ w ∧ s.snapshots.pending w' id = some snapshot := by
      by_cases e : w' = w
      · subst e
        exact nomatch (Table.pending_commit id).symm.trans wrote
      · exact ⟨e, (congrFun (Table.keeps_commit e).pending id).symm.trans wrote⟩
    refine (Table.get_commit_of_not_held ?_).trans (inv.newSnapshots w' id snapshot old)
    rw [s.snapshots.held old]
    simpa using ne
  · intro w'
    by_cases e : w' = w
    · subst e
      rw [here, done.1]
      exact iff_of_false (fun holder => (released_iff.mp holder).1 rfl) (by simp)
    · rw [there e, ← inv.sourceLock w']
      exact released_iff.trans (and_iff_right e)
  · intro w' selected' is
    by_cases e : w' = w
    · subst e
      rw [here, done.2] at is
      cases is
    · rw [there e, alone e] at is
      cases is
  · intro w' id holds
    by_cases e : w' = w
    · subst e
      exact absurd holds (Table.holder_commit id)
    · rw [there e]
      have keeps : Table.Keeps w' s.baselines (s.commit w p).baselines := Table.keeps_commit e
      exact inv.held w' id ((keeps.holder id).mp holds)
  · intro w'
    by_cases e : w' = w
    · subst e
      exact ok
    · have baselines : Table.Keeps w' s.baselines (s.commit w p).baselines := Table.keeps_commit e
      have snapshots : Table.Keeps w' s.snapshots (s.commit w p).snapshots := Table.keeps_commit e
      have ok' := inv.phases w'
      have idle := alone e
      have waits := calm w' e
      unfold PhaseOk at ok' ⊢
      rw [there e]
      generalize s.phase w' = current at ok' idle waits
      cases current with
      | submitted payload => exact ⟨ok'.1, baselines.unwritten ok'.2.1, snapshots.unwritten ok'.2.2⟩
      | sourceLocked payload =>
        exact ⟨ok'.1, baselines.unwritten ok'.2.1, snapshots.unwritten ok'.2.2⟩
      | snapshotInserted payload createdAt snapshotId =>
        exact ⟨ok'.1, baselines.unwritten ok'.2.1, snapshots.wrote ok'.2.2⟩
      | awaitingBaseline payload createdAt snapshotId id => exact absurd rfl (waits _ _ _ _)
      | baselineSelected payload createdAt snapshotId selected => cases idle
      | createWritten payload createdAt snapshotId selected => cases idle
      | stored payload snapshotId =>
        obtain ⟨unwritten, unwritten', snapshot, stored, same⟩ := ok'
        exact ⟨baselines.unwritten unwritten, snapshots.unwritten unwritten', snapshot,
          get_commit_of_some inv stored, same⟩
      | violated => exact ok'
      | failed text => exact ok'
      | acceptSelected acceptance id baseline => cases idle
      | superseding acceptance id baseline candidateId now => cases idle
      | promoting id baseline => cases idle
      | _ => exact ⟨baselines.unwritten ok'.1, snapshots.unwritten ok'.2⟩

end Statements

/-! ### The statements of one call -/

section Calls

variable {sha256 : String → String} {sourceId : Nat} {s : State} {w : Worker} {p : Phase}

theorem quiet_moveTo (s : State) (w : Worker) (p : Phase) : Quiet s (s.moveTo w p) w p :=
  ⟨rfl, fun _ _ => .refl _ _, fun _ _ => .refl _ _, fun _ => rfl, fun _ => rfl, fun _ _ => Iff.rfl⟩

theorem quiet_rollback (s : State) (w : Worker) (p : Phase) : Quiet s (s.rollback w p) w p := by
  refine ⟨rfl, fun _ ne => Table.keeps_rollback ne, fun _ ne => Table.keeps_rollback ne,
    fun _ => rfl, fun _ => rfl, ?_⟩
  intro w' ne
  exact released_iff.trans (and_iff_right ne)

theorem quiet_baselines (s : State) (w : Worker) (p : Phase) (T : Table Worker ContractBaseline)
    (keeps : ∀ w', w' ≠ w → Table.Keeps w' s.baselines T)
    (rows : ∀ id, T.rows.get id = s.baselines.rows.get id) :
    Quiet s ({ s with baselines := T }.moveTo w p) w p :=
  ⟨rfl, keeps, fun _ _ => .refl _ _, rows, fun _ => rfl, fun _ _ => Iff.rfl⟩

/-- A call that ends without having written leaves the invariant. -/
theorem Invariant.refuse (inv : Invariant sha256 sourceId s) (text : String) :
    Invariant sha256 sourceId (s.rollback w (.refused text)) := by
  refine inv.quiet (quiet_rollback s w (.refused text)) ?_ ?_ ?_ ?_ ?_
  · intro id snapshot wrote
    exact nomatch (Table.pending_rollback id).symm.trans wrote
  · exact iff_of_false (fun holder => (released_iff.mp holder).1 rfl) (by simp [Phase.creates])
  · intro selected is
    cases is
  · intro id holds
    exact absurd holds (Table.holder_rollback id)
  · have here : (s.rollback w (.refused text)).phase w = .refused text := by
      simp [State.rollback, State.moveTo]
    unfold PhaseOk
    rw [here]
    exact ⟨Table.unwritten_rollback, Table.unwritten_rollback⟩

/-- A call that is not engaged holds no baseline. -/
theorem Invariant.holder_ne (inv : Invariant sha256 sourceId s)
    (unengaged : (s.phase w).engaged = none) (id : Nat) : s.baselines.holder id ≠ some w := by
  intro holds
  have engaged := inv.held w id holds
  rw [unengaged] at engaged
  cases engaged

/-- A call that moves on without having written. -/
theorem Invariant.move (inv : Invariant sha256 sourceId s) (before : (s.phase w).engaged = none)
    (after : p.engaged = none) (same : p.creates = (s.phase w).creates)
    (ok : PhaseOk sha256 sourceId (s.moveTo w p) w) : Invariant sha256 sourceId (s.moveTo w p) := by
  refine inv.quiet (quiet_moveTo s w p) (inv.newSnapshots w) ?_ ?_ ?_ ok
  · rw [same]
    exact inv.sourceLock w
  · intro selected is
    rw [after] at is
    cases is
  · exact fun id holds => absurd holds (inv.holder_ne before id)

@[simp] theorem phase_moveTo_self (s : State) (w : Worker) (p : Phase) :
    (s.moveTo w p).phase w = p := by
  simp [State.moveTo]

theorem findBaseline_some {id : Nat} {baseline : ContractBaseline}
    (found : s.findBaseline w sourceId = some (id, baseline)) (clean : s.baselines.Unwritten w) :
    Active s.baselines.rows sourceId id baseline := by
  obtain ⟨visible, active⟩ := Table.mem_select.mp (List.mem_of_head? found)
  exact ⟨(clean.visible id).symm.trans visible, active⟩

theorem findBaseline_none (absent : s.findBaseline w sourceId = none)
    (clean : s.baselines.Unwritten w) (id : Nat) (baseline : ContractBaseline) :
    ¬ Active s.baselines.rows sourceId id baseline := by
  rintro ⟨stored, active⟩
  have mem : (id, baseline) ∈ s.baselines.select w fun _ b => b.isActive sourceId :=
    Table.mem_select.mpr ⟨(clean.visible id).trans stored, active⟩
  rw [List.head?_eq_none_iff.mp absent] at mem
  cases mem

/-- The lock on the active baseline engages a call. -/
theorem Invariant.lock (inv : Invariant sha256 sourceId s) {id : Nat} {baseline : ContractBaseline}
    (active : Active s.baselines.rows sourceId id baseline) (free : s.baselines.free w id)
    (selects : p.engaged = some (some (id, baseline)))
    (same : p.creates = (s.phase w).creates)
    (ok : PhaseOk sha256 sourceId ({ s with baselines := s.baselines.lock w [id] }.moveTo w p) w) :
    Invariant sha256 sourceId ({ s with baselines := s.baselines.lock w [id] }.moveTo w p) := by
  refine inv.quiet (quiet_baselines s w p _ (fun _ ne => Table.keeps_lock ne _) fun _ => rfl)
    (inv.newSnapshots w) (same ▸ inv.sourceLock w) ?_ (fun _ _ => by rw [selects]; rfl) ok
  intro selected is
  obtain rfl := Option.some.inj (selects.symm.trans is)
  refine ⟨?_, ?_⟩
  · intro i other
    constructor
    · intro here
      obtain rfl := inv.sound.unique here active
      obtain rfl := Option.some.inj (active.1.symm.trans here.1)
      rfl
    · intro same
      obtain ⟨rfl, rfl⟩ := Prod.mk.inj (Option.some.inj same)
      exact active
  · intro i other same
    obtain ⟨rfl, rfl⟩ := Prod.mk.inj (Option.some.inj same)
    exact Table.holder_lock List.mem_cons_self free (Rows.lt_nextId active.1)

/-- A source without an active baseline has none at all. -/
theorem Sound.empty {db : ContractDb} (sound : Sound sourceId db)
    (none : ∀ id baseline, ¬ Active db.baselines sourceId id baseline) (id : Nat)
    (baseline : ContractBaseline) : db.baselines.get id ≠ some baseline := by
  intro stored
  obtain ⟨⟨n, h⟩, owned⟩ := sound
  have own : Owned db.baselines sourceId id baseline := ⟨stored, owned id baseline stored⟩
  obtain ⟨low, high⟩ := h.bounded id baseline own
  obtain ⟨id', ⟨baseline', active⟩, -⟩ := h.exists_unique_active (low.trans high)
  exact none id' baseline' active

theorem sound_first {db : ContractDb} {id : Nat} {new : ContractBaseline}
    (rows : ∀ {i other}, db.baselines.get i = some other ↔ i = id ∧ other = new)
    (own : new.sourceId = sourceId) (version : new.version = 1)
    (active : new.isActive sourceId = true)
    (referenced : ∃ snapshot, db.snapshots.get new.baselineSnapshotId = some snapshot ∧
      snapshot.sourceId = sourceId) : Sound sourceId db := by
  have only : ∀ {i other}, Owned db.baselines sourceId i other ↔ i = id ∧ other = new := by
    intro i other
    constructor
    · rintro ⟨there, -⟩
      exact rows.mp there
    · rintro ⟨is, rfl⟩
      exact ⟨rows.mpr ⟨is, rfl⟩, own⟩
  refine ⟨⟨1, baselineHistory_first only version active referenced⟩, ?_⟩
  · intro i other there
    obtain ⟨-, rfl⟩ := rows.mp there
    exact own

theorem Sound.recompared {db db' : ContractDb} (sound : Sound sourceId db) {id : Nat}
    {baseline new : ContractBaseline} (active : Active db.baselines sourceId id baseline)
    (same : SameButCandidate new baseline)
    (rows : ∀ i, db'.baselines.get i = if i = id then some new else db.baselines.get i)
    (kept : ∀ {i snapshot}, db.snapshots.get i = some snapshot →
      db'.snapshots.get i = some snapshot) : Sound sourceId db' := by
  obtain ⟨⟨n, h⟩, owned⟩ := sound
  obtain ⟨low, high⟩ := h.bounded id baseline (owned_of_active active)
  refine ⟨⟨n, h.recompared active.1 same rows kept fun _ _ _ _ => low.trans high⟩, ?_⟩
  intro i other there
  rw [rows] at there
  split at there
  · obtain rfl := Option.some.inj there
    exact (same.eq ContractBaseline.sourceId fun _ => rfl).trans (owned id baseline active.1)
  · exact owned i other there

/-- What an `INSERT` of a baseline can come to. -/
theorem insertBaseline_cases {s' : State} {new : ContractBaseline}
    (h : s.insertBaseline w new p = some s') :
    s' = { s with baselines := s.baselines.insert w new }.moveTo w p ∨
      ∃ id row, s.baselines.visible w id = some row ∧ takesKeyOf new row = true := by
  unfold State.insertBaseline at h
  split at h
  · cases h
  · split at h
    · exact Or.inl (Option.some.inj h).symm
    · rename_i id row found
      exact Or.inr ⟨id, row, Table.mem_select.mp (List.mem_of_head? found)⟩

/-- The first baseline of the source goes in. -/
theorem Invariant.insertFirst (inv : Invariant sha256 sourceId s) {s' : State}
    {payload : ContractSnapshotCreate} {createdAt now : Int} {snapshotId : Nat}
    {source : SourceProfile} (phase : s.phase w = .baselineSelected payload createdAt snapshotId none)
    (h : s.insertBaseline w (firstBaseline source payload.sourceId snapshotId now)
      (.createWritten payload createdAt snapshotId none) = some s') :
    Invariant sha256 sourceId s' := by
  have ok := inv.phases w
  unfold PhaseOk at ok
  rw [phase] at ok
  obtain ⟨own, clean, wrote⟩ := ok
  obtain ⟨active, -⟩ := inv.engaged w none (by rw [phase]; rfl)
  have empty := inv.sound.empty fun id baseline here => nomatch (active id baseline).mp here
  rcases insertBaseline_cases h with rfl | ⟨id, row, visible, -⟩
  · have inserted := clean.insert (firstBaseline source payload.sourceId snapshotId now)
    refine inv.quiet (quiet_baselines s w _ _ (fun _ ne => Table.keeps_insert ne _) fun _ => rfl)
      (inv.newSnapshots w) ((inv.sourceLock w).trans (by rw [phase]; rfl)) ?_ (fun _ _ => rfl) ?_
    · intro selected is
      obtain rfl := Option.some.inj is
      exact ⟨active, fun _ _ same => nomatch same⟩
    · unfold PhaseOk
      rw [phase_moveTo_self]
      have rows : ∀ {i other}, (s.baselines.insert w (firstBaseline source payload.sourceId snapshotId
          now)).visible w i = some other ↔ i = s.baselines.rows.nextId ∧
            other = firstBaseline source payload.sourceId snapshotId now := by
        intro i other
        by_cases e : i = s.baselines.rows.nextId
        · subst e
          rw [inserted.visible_self]
          simp [eq_comm]
        · rw [inserted.visible_of_ne e]
          simp only [e, false_and, iff_false]
          exact empty i other
      exact ⟨own, sound_first rows own rfl (isActive_firstBaseline.mpr own)
        ⟨_, wrote.visible_self, own⟩, wrote⟩
  · rw [clean.visible] at visible
    exact absurd visible (empty id row)

theorem Wrote.write {Row : Type} {T : Table Worker Row} {id : Nat} {row : Row}
    (wrote : T.Wrote w id row) (new : Row) : (T.write w id new).Wrote w id new := by
  have holder := wrote.holder
  rw [Table.Wrote, Table.pending_write new (Or.inr holder) (T.allocated holder), wrote,
    Function.update_idem]

/-- The comparison with the selected baseline is written. -/
theorem Invariant.compare (inv : Invariant sha256 sourceId s) {payload : ContractSnapshotCreate}
    {createdAt now : Int} {snapshotId id : Nat} {baseline : ContractBaseline}
    {base : ContractSnapshot}
    (phase : s.phase w = .baselineSelected payload createdAt snapshotId (some (id, baseline)))
    (stored : s.snapshots.rows.get baseline.baselineSnapshotId = some base) :
    Invariant sha256 sourceId
      (s.writeComparison sha256 w payload createdAt snapshotId id baseline base now) := by
  have ok := inv.phases w
  unfold PhaseOk at ok
  rw [phase] at ok
  obtain ⟨own, clean, wrote⟩ := ok
  obtain ⟨active, holds⟩ := inv.engaged w _ (by rw [phase]; rfl)
  have here := (active id baseline).mpr rfl
  have lt := Rows.lt_nextId here.1
  have free : s.baselines.free w id := Or.inr (holds id baseline rfl)
  let diff := diffContract (structureOf base.payloadSchema) (structureOf payload.payloadSchema)
  let after := (afterComparison sha256 payload baseline diff snapshotId
    s.driftEvents.rows.nextId now).1
  have same : SameButCandidate after baseline := sameButCandidate_afterComparison _ _ _ _ _ _
  have rewrote : (s.baselines.write w id after).Wrote w id after := clean.write after free lt
  have scored := Wrote.write wrote { newSnapshot sha256 payload createdAt with
    compatibilityScore := compatibilityScore diff }
  have quiet : Quiet s (s.writeComparison sha256 w payload createdAt snapshotId id baseline base
      now) w (.createWritten payload createdAt snapshotId (some (id, baseline))) :=
    ⟨rfl, fun _ ne => Table.keeps_write ne _ _, fun _ ne => Table.keeps_write ne _ _,
      fun _ => congrArg (Rows.get · _) (Table.rows_write _ _),
      fun _ => congrArg (Rows.get · _) (Table.rows_write _ _), fun _ _ => Iff.rfl⟩
  refine inv.quiet quiet ?_ ((inv.sourceLock w).trans (by rw [phase]; rfl)) ?_ (fun _ _ => rfl) ?_
  · intro i snapshot there
    rcases Table.pending_write_cases there with ⟨-, rfl, -⟩ | old
    · exact inv.newSnapshots w i _ (by rw [wrote, Function.update_self])
    · exact inv.newSnapshots w i snapshot old
  · intro selected is
    obtain rfl := Option.some.inj is
    refine ⟨fun i other => (active_congr quiet.baselineRows i other).trans (active i other), ?_⟩
    intro i other same
    obtain ⟨rfl, rfl⟩ := Prod.mk.inj (Option.some.inj same)
    exact rewrote.holder
  · unfold PhaseOk
    have there : (s.writeComparison sha256 w payload createdAt snapshotId id baseline base now).phase
        w = .createWritten payload createdAt snapshotId (some (id, baseline)) := by
      rw [quiet.phase, Function.update_self]
    rw [there]
    refine ⟨own, inv.sound.recompared here same ?_ ?_, base, ?_, scored⟩
    · intro i
      by_cases e : i = id
      · subst e
        rw [if_pos rfl]
        exact rewrote.visible_self
      · rw [if_neg e]
        exact (rewrote.visible_of_ne e).trans (congrArg (Rows.get · i) (Table.rows_write _ _))
    · intro i snapshot kept
      have ne : i ≠ snapshotId := by
        rintro rfl
        have unstored := inv.newSnapshots w i _ (by rw [wrote, Function.update_self])
        exact nomatch unstored.symm.trans kept
      refine (scored.visible_of_ne ne).trans ?_
      rw [Table.rows_write]
      exact kept
    · exact (quiet.snapshotRows _).trans stored

/-- The candidate that passes the checks of an acceptance. -/
theorem checkAcceptance_ok {snapshot : Nat → Option ContractSnapshot} {baseline : ContractBaseline}
    {candidateSnapshotId : Option Nat} {candidateId : Nat}
    (h : checkAcceptance snapshot baseline candidateSnapshotId = .ok candidateId) :
    ∃ candidate, snapshot candidateId = some candidate ∧
      candidate.sourceId = baseline.sourceId := by
  unfold checkAcceptance at h
  split at h
  · split at h
    · cases h
    · split at h
      · cases h
      · rename_i candidate found
        cases h
        obtain ⟨stored, own⟩ := Option.filter_eq_some_iff.mp found
        exact ⟨candidate, stored, beq_iff_eq.mp own⟩
  · cases h

/-- The prior baseline is superseded. -/
theorem Invariant.supersede (inv : Invariant sha256 sourceId s) {acceptance : Acceptance}
    {id candidateId : Nat} {baseline : ContractBaseline} {now : Int}
    (phase : s.phase w = .acceptSelected acceptance id baseline)
    (checked : checkAcceptance (s.snapshots.visible w) baseline acceptance.candidateSnapshotId =
      .ok candidateId) :
    Invariant sha256 sourceId ({ s with
      baselines := s.baselines.write w id (supersededBaseline baseline now) }.moveTo w
        (.superseding acceptance id baseline candidateId now)) := by
  have ok := inv.phases w
  unfold PhaseOk at ok
  rw [phase] at ok
  obtain ⟨clean, clean'⟩ := ok
  obtain ⟨active, holds⟩ := inv.engaged w _ (by rw [phase]; rfl)
  have here := (active id baseline).mpr rfl
  have wrote := clean.write (supersededBaseline baseline now) (Or.inr (holds id baseline rfl))
    (Rows.lt_nextId here.1)
  have quiet := quiet_baselines s w (.superseding acceptance id baseline candidateId now)
    (s.baselines.write w id (supersededBaseline baseline now))
    (fun _ ne => Table.keeps_write ne _ _) fun _ => congrArg (Rows.get · _) (Table.rows_write _ _)
  refine inv.quiet quiet (inv.newSnapshots w) ((inv.sourceLock w).trans (by rw [phase]; rfl)) ?_
    (fun _ _ => rfl) ?_
  · intro selected is
    obtain rfl := Option.some.inj is
    refine ⟨fun i other => (active_congr quiet.baselineRows i other).trans (active i other), ?_⟩
    intro i other same
    obtain ⟨rfl, rfl⟩ := Prod.mk.inj (Option.some.inj same)
    exact wrote.holder
  · unfold PhaseOk
    rw [phase_moveTo_self]
    obtain ⟨candidate, visible, own⟩ := checkAcceptance_ok checked
    exact ⟨wrote, clean', candidate, (clean'.visible _).symm.trans visible,
      own.trans (sourceId_of_isActive here.2)⟩

/-- The rows of a call that has superseded the active baseline. -/
theorem Sound.accepted {db db' : ContractDb} (sound : Sound sourceId db) {id newId candidateId : Nat}
    {baseline : ContractBaseline} {actor : String} {acceptanceNote : Option String} {now : Int}
    (active : Active db.baselines sourceId id baseline)
    (rows : ∀ i, db'.baselines.get i =
      if i = newId then some (promotedBaseline id baseline candidateId actor acceptanceNote now)
      else if i = id then some (supersededBaseline baseline now) else db.baselines.get i)
    (unused : db.baselines.get newId = none) (snapshots : ∀ i, db'.snapshots.get i = db.snapshots.get i)
    (candidate : ∃ snapshot, db.snapshots.get candidateId = some snapshot ∧
      snapshot.sourceId = sourceId) : Sound sourceId db' := by
  obtain ⟨⟨n, h⟩, owned⟩ := sound
  have own := sourceId_of_isActive active.2
  have ne : id ≠ newId := by
    rintro rfl
    exact nomatch unused.symm.trans active.1
  have only : ∀ {i other}, Owned db'.baselines sourceId i other ↔
      (i = newId ∧ other = promotedBaseline id baseline candidateId actor acceptanceNote now) ∨
      (i = id ∧ other = supersededBaseline baseline now) ∨
      (i ≠ id ∧ Owned db.baselines sourceId i other) := by
    intro i other
    simp only [Owned, rows]
    by_cases new : i = newId
    · subst new
      simp only [if_true, ne.symm, unused, false_and, and_false, or_false, true_and,
        Option.some.injEq, reduceCtorEq]
      constructor
      · rintro ⟨rfl, -⟩
        rfl
      · rintro rfl
        exact ⟨rfl, own⟩
    · by_cases old : i = id
      · subst old
        simp only [new, if_false, if_true, false_and, false_or, true_and, ne_eq, not_true_eq_false,
          or_false, Option.some.injEq]
        constructor
        · rintro ⟨rfl, -⟩
          rfl
        · rintro rfl
          exact ⟨rfl, own⟩
      · simp [new, old]
  have last := h.version_of_active active
  refine ⟨⟨n + 1, h.accepted active only ⟨last, rfl, rfl, rfl, rfl, rfl⟩
    ⟨congrArg (· + 1) last, isActive_promotedBaseline.mpr own, rfl⟩ snapshots candidate⟩, ?_⟩
  intro i other there
  rw [rows] at there
  split at there
  · obtain rfl := Option.some.inj there
    exact own
  · split at there
    · obtain rfl := Option.some.inj there
      exact own
    · exact owned i other there

/-- No row that remains visible takes a key of the promoted baseline. -/
theorem Sound.promotes {db : ContractDb} (sound : Sound sourceId db) {id i candidateId : Nat}
    {baseline row : ContractBaseline} {actor : String} {acceptanceNote : Option String} {now : Int}
    (active : Active db.baselines sourceId id baseline)
    (visible : (if i = id then some (supersededBaseline baseline now) else db.baselines.get i) =
      some row) :
    takesKeyOf (promotedBaseline id baseline candidateId actor acceptanceNote now) row = false := by
  obtain ⟨⟨n, h⟩, owned⟩ := sound
  have last := h.version_of_active active
  split at visible
  · obtain rfl := Option.some.inj visible
    simp [takesKeyOf, promotedBaseline, supersededBaseline]
  · rename_i ne
    have own : Owned db.baselines sourceId i row := ⟨visible, owned i row visible⟩
    have earlier : row.version < n := by
      refine Nat.lt_of_le_of_ne (h.bounded i row own).2 fun equal => ne ?_
      exact h.once i id row baseline own (owned_of_active active) (equal.trans last.symm)
    have key := (h.superseded i row own earlier).2.1
    have below : ¬ row.version = baseline.version + 1 := by omega
    simp [takesKeyOf, promotedBaseline, key, below]

theorem visible_insert {Row : Type} (T : Table Worker Row) (row : Row) (i : Nat) :
    (T.insert w row).visible w i = if i = T.rows.nextId then some row else T.visible w i := by
  unfold Table.visible
  rw [Table.pending_insert, Table.get_insert]
  by_cases e : i = T.rows.nextId
  · subst e
    simp
  · rw [Function.update_of_ne e, if_neg e]

/-- The promoted baseline goes in. -/
theorem Invariant.promote (inv : Invariant sha256 sourceId s) {s' : State} {acceptance : Acceptance}
    {id candidateId : Nat} {baseline : ContractBaseline} {acceptedAt : Int}
    (phase : s.phase w = .superseding acceptance id baseline candidateId acceptedAt)
    (h : s.insertBaseline w (promotedBaseline id baseline candidateId acceptance.actor
      acceptance.acceptanceNote acceptedAt) (.promoting id baseline) = some s') :
    Invariant sha256 sourceId s' := by
  have ok := inv.phases w
  unfold PhaseOk at ok
  rw [phase] at ok
  obtain ⟨wrote, clean, candidate⟩ := ok
  obtain ⟨active, holds⟩ := inv.engaged w _ (by rw [phase]; rfl)
  have here := (active id baseline).mpr rfl
  have visible : ∀ i, s.baselines.visible w i =
      if i = id then some (supersededBaseline baseline acceptedAt) else s.baselines.rows.get i := by
    intro i
    by_cases e : i = id
    · subst e
      rw [wrote.visible_self, if_pos rfl]
    · rw [wrote.visible_of_ne e, if_neg e]
  rcases insertBaseline_cases h with rfl | ⟨i, row, seen, taken⟩
  · refine inv.quiet (quiet_baselines s w _ _ (fun _ ne => Table.keeps_insert ne _) fun _ => rfl)
      (inv.newSnapshots w) ((inv.sourceLock w).trans (by rw [phase]; rfl)) ?_ (fun _ _ => rfl) ?_
    · intro selected is
      obtain rfl := Option.some.inj is
      refine ⟨active, ?_⟩
      intro i other same
      obtain ⟨rfl, rfl⟩ := Prod.mk.inj (Option.some.inj same)
      have kept : s.baselines.pending w id = some (supersededBaseline baseline acceptedAt) := by
        rw [wrote, Function.update_self]
      exact Table.held _ (Table.pending_insert_of_some _ kept)
    · unfold PhaseOk
      rw [phase_moveTo_self]
      have rows : ∀ i, (s.baselines.insert w (promotedBaseline id baseline candidateId acceptance.actor
          acceptance.acceptanceNote acceptedAt)).visible w i =
          if i = s.baselines.rows.nextId then some (promotedBaseline id baseline candidateId
            acceptance.actor acceptance.acceptanceNote acceptedAt)
          else if i = id then some (supersededBaseline baseline acceptedAt)
          else s.baselines.rows.get i := by
        intro i
        rw [visible_insert, visible]
      exact ⟨inv.sound.accepted here rows (s.baselines.rows.unused _ (Nat.le_refl _))
        (fun i => clean.visible i) candidate, clean⟩
  · rw [visible] at seen
    rw [inv.sound.promotes here seen] at taken
    cases taken

/-- The lock on the baseline an ingestion has found. -/
theorem Invariant.lockCreate (inv : Invariant sha256 sourceId s) {s' : State}
    {payload : ContractSnapshotCreate} {createdAt : Int} {snapshotId id : Nat}
    (phase : s.phase w = .awaitingBaseline payload createdAt snapshotId id)
    (h : s.lockBaseline w payload.sourceId id (.baselineSelected payload createdAt snapshotId) =
      some s') : Invariant sha256 sourceId s' := by
  have ok := inv.phases w
  unfold PhaseOk at ok
  rw [phase] at ok
  obtain ⟨rfl, clean, wrote, baseline, active⟩ := ok
  have found : (s.baselines.visible w id).filter (·.isActive payload.sourceId) = some baseline := by
    rw [clean.visible, active.1, Option.filter_some, if_pos active.2]
  unfold State.lockBaseline at h
  rw [found] at h
  split at h
  · rename_i free
    obtain rfl := Option.some.inj h
    refine inv.lock active free rfl (by rw [phase]; rfl) ?_
    unfold PhaseOk
    rw [phase_moveTo_self]
    exact ⟨rfl, clean.lock _, wrote⟩
  · cases h

/-- The lock on the baseline an acceptance has found, which may be gone. -/
theorem Invariant.lockAccept (inv : Invariant sha256 sourceId s) {s' : State}
    {acceptance : Acceptance} {id : Nat} (phase : s.phase w = .acceptAwaiting acceptance id)
    (h : s.lockBaseline w sourceId id (fun selected =>
      match selected with
      | none => .refused "Contract baseline not established."
      | some (id, baseline) => .acceptSelected acceptance id baseline) = some s') :
    Invariant sha256 sourceId s' := by
  have ok := inv.phases w
  unfold PhaseOk at ok
  rw [phase] at ok
  obtain ⟨clean, clean'⟩ := ok
  unfold State.lockBaseline at h
  split at h
  · rename_i free
    split at h
    · obtain rfl := Option.some.inj h
      refine inv.move (by rw [phase]; rfl) rfl (by rw [phase]; rfl) ?_
      unfold PhaseOk
      rw [phase_moveTo_self]
      exact ⟨clean, clean'⟩
    · rename_i baseline found
      obtain rfl := Option.some.inj h
      obtain ⟨visible, active⟩ := Option.filter_eq_some_iff.mp found
      refine inv.lock ⟨(clean.visible id).symm.trans visible, active⟩ free rfl
        (by rw [phase]; rfl) ?_
      unfold PhaseOk
      rw [phase_moveTo_self]
      exact ⟨clean.lock _, clean'⟩
  · cases h

/-- The lock on the row of the source. -/
theorem Invariant.lockSource (inv : Invariant sha256 sourceId s) {payload : ContractSnapshotCreate}
    (phase : s.phase w = .submitted payload) (free : s.sourceHolder = none) :
    Invariant sha256 sourceId
      ({ s with sourceHolder := some w }.moveTo w (.sourceLocked payload)) := by
  have ok := inv.phases w
  unfold PhaseOk at ok
  rw [phase] at ok
  have quiet : Quiet s ({ s with sourceHolder := some w }.moveTo w (.sourceLocked payload)) w
      (.sourceLocked payload) :=
    ⟨rfl, fun _ _ => .refl _ _, fun _ _ => .refl _ _, fun _ => rfl, fun _ => rfl,
      fun w' ne => iff_of_false (fun is => ne (Option.some.inj is).symm)
        fun holder => nomatch free.symm.trans holder⟩
  refine inv.quiet quiet (inv.newSnapshots w) (iff_of_true rfl rfl) ?_ ?_ ?_
  · intro selected is
    cases is
  · exact fun id holds => absurd holds (inv.holder_ne (by rw [phase]; rfl) id)
  · unfold PhaseOk
    rw [phase_moveTo_self]
    exact ok

/-- The snapshot goes in. -/
theorem Invariant.insertSnapshot (inv : Invariant sha256 sourceId s)
    {payload : ContractSnapshotCreate} (phase : s.phase w = .sourceLocked payload) (now : Int) :
    Invariant sha256 sourceId
      ({ s with snapshots := s.snapshots.insert w (newSnapshot sha256 payload now) }.moveTo w
        (.snapshotInserted payload now s.snapshots.rows.nextId)) := by
  have ok := inv.phases w
  unfold PhaseOk at ok
  rw [phase] at ok
  obtain ⟨own, clean, clean'⟩ := ok
  have quiet : Quiet s
      ({ s with snapshots := s.snapshots.insert w (newSnapshot sha256 payload now) }.moveTo w
        (.snapshotInserted payload now s.snapshots.rows.nextId)) w
      (.snapshotInserted payload now s.snapshots.rows.nextId) :=
    ⟨rfl, fun _ _ => .refl _ _, fun _ ne => Table.keeps_insert ne _, fun _ => rfl, fun _ => rfl,
      fun _ _ => Iff.rfl⟩
  refine inv.quiet quiet ?_ ((inv.sourceLock w).trans (by rw [phase]; rfl)) ?_ ?_ ?_
  · intro id snapshot wrote
    rcases Table.pending_insert_cases wrote with ⟨-, rfl, -⟩ | old
    · exact s.snapshots.rows.unused _ (Nat.le_refl _)
    · exact inv.newSnapshots w id snapshot old
  · intro selected is
    cases is
  · exact fun id holds => absurd holds (inv.holder_ne (by rw [phase]; rfl) id)
  · unfold PhaseOk
    rw [phase_moveTo_self]
    exact ⟨own, clean, clean'.insert _⟩

/-- The `SELECT` of an ingestion that finds no baseline. -/
theorem Invariant.findNone (inv : Invariant sha256 sourceId s) {payload : ContractSnapshotCreate}
    {createdAt : Int} {snapshotId : Nat}
    (phase : s.phase w = .snapshotInserted payload createdAt snapshotId)
    (found : s.findBaseline w payload.sourceId = none) :
    Invariant sha256 sourceId
      (s.moveTo w (.baselineSelected payload createdAt snapshotId none)) := by
  have ok := inv.phases w
  unfold PhaseOk at ok
  rw [phase] at ok
  obtain ⟨rfl, clean, wrote⟩ := ok
  refine inv.quiet (quiet_moveTo s w _) (inv.newSnapshots w)
    ((inv.sourceLock w).trans (by rw [phase]; rfl)) ?_ (fun _ _ => rfl) ?_
  · intro selected is
    obtain rfl := Option.some.inj is
    refine ⟨?_, fun _ _ same => nomatch same⟩
    intro id baseline
    exact iff_of_false (findBaseline_none found clean id baseline) nofun
  · unfold PhaseOk
    rw [phase_moveTo_self]
    exact ⟨rfl, clean, wrote⟩

/-- The `SELECT` of an ingestion that finds a baseline. -/
theorem Invariant.findSome (inv : Invariant sha256 sourceId s) {payload : ContractSnapshotCreate}
    {createdAt : Int} {snapshotId id : Nat} {baseline : ContractBaseline}
    (phase : s.phase w = .snapshotInserted payload createdAt snapshotId)
    (found : s.findBaseline w payload.sourceId = some (id, baseline)) :
    Invariant sha256 sourceId
      (s.moveTo w (.awaitingBaseline payload createdAt snapshotId id)) := by
  have ok := inv.phases w
  unfold PhaseOk at ok
  rw [phase] at ok
  obtain ⟨rfl, clean, wrote⟩ := ok
  refine inv.move (by rw [phase]; rfl) rfl (by rw [phase]; rfl) ?_
  unfold PhaseOk
  rw [phase_moveTo_self]
  exact ⟨rfl, clean, wrote, baseline, findBaseline_some found clean⟩

/-- The snapshot of the active baseline is there. -/
theorem Invariant.baseVisible (inv : Invariant sha256 sourceId s) {id : Nat}
    {baseline : ContractBaseline} (engaged : (s.phase w).engaged = some (some (id, baseline))) :
    ∃ base, s.snapshots.rows.get baseline.baselineSnapshotId = some base ∧
      s.snapshots.visible w baseline.baselineSnapshotId = some base := by
  obtain ⟨active, -⟩ := inv.engaged w _ engaged
  obtain ⟨⟨n, history⟩, -⟩ := inv.sound
  obtain ⟨base, stored, -⟩ :=
    history.referenced id baseline (owned_of_active ((active id baseline).mpr rfl))
  refine ⟨base, stored, (Table.visible_eq_rows ?_).trans stored⟩
  cases wrote : s.snapshots.pending w baseline.baselineSnapshotId with
  | none => rfl
  | some row => exact nomatch (inv.newSnapshots w _ row wrote).symm.trans stored

/-- The commit of an ingestion. -/
theorem Invariant.store (inv : Invariant sha256 sourceId s) {payload : ContractSnapshotCreate}
    {createdAt : Int} {snapshotId : Nat} {selected : Selected}
    (phase : s.phase w = .createWritten payload createdAt snapshotId selected) :
    Invariant sha256 sourceId (s.commit w (.stored payload snapshotId)) := by
  have ok := inv.phases w
  unfold PhaseOk at ok
  rw [phase] at ok
  obtain ⟨own, sound, compared⟩ := ok
  refine inv.commit (by rw [phase]; rfl) sound ?_ ⟨rfl, rfl⟩ ?_
  · intro w' ne payload' createdAt' snapshotId' id waits
    have holder := (inv.sourceLock w).mpr (by rw [phase]; rfl)
    have holder' := (inv.sourceLock w').mpr (by rw [waits]; rfl)
    exact ne (Option.some.inj (holder'.symm.trans holder))
  · have here : (s.commit w (.stored payload snapshotId)).phase w = .stored payload snapshotId := by
      simp [State.commit, State.moveTo]
    unfold PhaseOk
    rw [here]
    refine ⟨Table.unwritten_commit, Table.unwritten_commit, ?_⟩
    cases selected with
    | none => exact ⟨_, compared.visible_self, rfl, rfl⟩
    | some entry =>
      obtain ⟨base, -, wrote⟩ := compared
      exact ⟨_, wrote.visible_self, rfl, rfl⟩

/-- The commit of an acceptance that no ingestion waits for. -/
theorem Invariant.acceptCommit (inv : Invariant sha256 sourceId s) {id : Nat}
    {baseline : ContractBaseline} {now : Int} (phase : s.phase w = .promoting id baseline)
    (undisturbed : Undisturbed s (.advance w now)) :
    Invariant sha256 sourceId (s.commit w .accepted) := by
  have ok := inv.phases w
  unfold PhaseOk at ok
  rw [phase] at ok
  obtain ⟨active, -⟩ := inv.engaged w _ (by rw [phase]; rfl)
  refine inv.commit (by rw [phase]; rfl) ok.1 ?_ ⟨rfl, rfl⟩ ?_
  · intro w' ne payload createdAt snapshotId id' waits
    have ok' := inv.phases w'
    unfold PhaseOk at ok'
    rw [waits] at ok'
    obtain ⟨-, -, -, baseline', active'⟩ := ok'
    obtain rfl := inv.sound.unique active' ((active id baseline).mpr rfl)
    exact undisturbed _ baseline phase w' payload createdAt snapshotId waits
  · have here : (s.commit w .accepted).phase w = .accepted := by simp [State.commit, State.moveTo]
    unfold PhaseOk
    rw [here]
    exact ⟨Table.unwritten_commit, Table.unwritten_commit⟩

end Calls

/-! ### Runs -/

section Runs

variable {sha256 : String → String} {source : SourceProfile} {s s' : State} {w : Worker}

/-- **One statement.** -/
theorem Invariant.after_advance (inv : Invariant sha256 source.id s) {now : Int}
    (undisturbed : Undisturbed s (.advance w now))
    (h : advance sha256 source s w now = some s') : Invariant sha256 source.id s' := by
  have ok := inv.phases w
  unfold PhaseOk at ok
  unfold Overlap.advance at h
  cases phase : s.phase w with
  | submitted payload =>
    simp only [phase] at h
    split at h
    · rename_i free
      obtain rfl := Option.some.inj h
      exact inv.lockSource phase free
    · cases h
  | sourceLocked payload =>
    simp only [phase] at h
    obtain rfl := Option.some.inj h
    exact inv.insertSnapshot phase now
  | snapshotInserted payload createdAt snapshotId =>
    simp only [phase] at h
    cases found : s.findBaseline w payload.sourceId with
    | none =>
      simp only [found] at h
      obtain rfl := Option.some.inj h
      exact inv.findNone phase found
    | some entry =>
      simp only [found] at h
      obtain rfl := Option.some.inj h
      exact inv.findSome phase found
  | awaitingBaseline payload createdAt snapshotId id =>
    simp only [phase] at h
    exact inv.lockCreate phase h
  | baselineSelected payload createdAt snapshotId selected =>
    cases selected with
    | none =>
      simp only [phase] at h
      exact inv.insertFirst phase h
    | some entry =>
      obtain ⟨id, baseline⟩ := entry
      simp only [phase] at h
      obtain ⟨base, stored, visible⟩ := inv.baseVisible (by rw [phase]; rfl)
      simp only [visible] at h
      obtain rfl := Option.some.inj h
      exact inv.compare phase stored
  | createWritten payload createdAt snapshotId selected =>
    simp only [phase] at h
    obtain rfl := Option.some.inj h
    exact inv.store phase
  | acceptRequested acceptance =>
    simp only [phase] at h ok
    cases found : s.findBaseline w source.id with
    | none =>
      simp only [found] at h
      obtain rfl := Option.some.inj h
      exact inv.refuse _
    | some entry =>
      simp only [found] at h
      obtain rfl := Option.some.inj h
      refine inv.move (by rw [phase]; rfl) rfl (by rw [phase]; rfl) ?_
      unfold PhaseOk
      rw [phase_moveTo_self]
      exact ok
  | acceptAwaiting acceptance id =>
    simp only [phase] at h
    exact inv.lockAccept phase h
  | acceptSelected acceptance id baseline =>
    simp only [phase] at h
    cases checked : checkAcceptance (s.snapshots.visible w) baseline
        acceptance.candidateSnapshotId with
    | error text =>
      simp only [checked] at h
      obtain rfl := Option.some.inj h
      exact inv.refuse text
    | ok candidateId =>
      simp only [checked] at h
      obtain rfl := Option.some.inj h
      exact inv.supersede phase checked
  | superseding acceptance id baseline candidateId acceptedAt =>
    simp only [phase] at h
    exact inv.promote phase h
  | promoting id baseline =>
    simp only [phase] at h
    obtain rfl := Option.some.inj h
    exact inv.acceptCommit phase undisturbed
  | _ =>
    simp only [phase] at h
    cases h

theorem Invariant.after_next (inv : Invariant sha256 source.id s) {label : Label}
    (undisturbed : Undisturbed s label) (h : next sha256 source s label = some s') :
    Invariant sha256 source.id s' := by
  unfold Overlap.next at h
  split at h
  · rename_i w payload phase
    split at h
    · rename_i own
      obtain rfl := Option.some.inj h
      simp only [Label.worker] at phase
      refine inv.move (by rw [phase]; rfl) rfl (by rw [phase]; rfl) ?_
      have ok := inv.phases w
      unfold PhaseOk at ok ⊢
      rw [phase_moveTo_self]
      rw [phase] at ok
      exact ⟨own, ok⟩
    · cases h
  · rename_i w acceptance phase
    obtain rfl := Option.some.inj h
    simp only [Label.worker] at phase
    refine inv.move (by rw [phase]; rfl) rfl (by rw [phase]; rfl) ?_
    have ok := inv.phases w
    unfold PhaseOk at ok ⊢
    rw [phase_moveTo_self]
    rw [phase] at ok
    exact ok
  · exact inv.after_advance undisturbed h
  · cases h

theorem invariant_initial (sha256 : String → String) (sourceId : Nat) :
    Invariant sha256 sourceId initial := by
  constructor
  · refine ⟨⟨0, baselineHistory_empty (fun _ => rfl) fun _ => rfl⟩, ?_⟩
    intro id baseline stored
    cases stored
  · intro w id snapshot wrote
    cases wrote
  · intro w
    constructor
    · intro holder
      cases holder
    · intro creates
      cases creates
  · intro w selected is
    cases is
  · intro w id holds
    cases holds
  · intro w
    exact ⟨rfl, rfl⟩

theorem invariant_of_run {history : List (State × Label)}
    (run : Run (next sha256 source) initial history s) (undisturbed : Along Undisturbed history) :
    Invariant sha256 source.id s :=
  run.invariant_of_along (invariant_initial sha256 source.id)
    (fun inv calm step => inv.after_next calm step) undisturbed

/-! ### No call waits for ever -/

/-- The `INSERT` of an engaged call does not wait. -/
theorem Invariant.inserts (inv : Invariant sha256 source.id s) {selected : Selected}
    (engaged : (s.phase w).engaged = some selected) (new : ContractBaseline) (p : Phase) :
    (s.insertBaseline w new p).isSome = true := by
  have own : ∀ {id t}, s.baselines.holder id = some t → t = w := by
    intro id t holds
    obtain ⟨selected', engaged'⟩ := Option.isSome_iff_exists.mp (inv.held t id holds)
    exact inv.engaged_unique engaged' engaged
  have uncontested : s.baselines.contested w (takesKeyOf new) = false := by
    simp only [Table.contested, List.any_eq_false]
    intro id _
    cases holder : s.baselines.holder id with
    | none => simp
    | some t => simp [own holder]
  unfold State.insertBaseline
  rw [uncontested]
  simp only [Bool.false_eq_true, if_false]
  split
  · rfl
  · rename_i id row found
    have unwritten : rewritten s.baselines w id = false := by
      unfold rewritten
      cases holder : s.baselines.holder id with
      | none => rfl
      | some t => simp [own holder]
    rw [unwritten]
    rfl

/-- The next statement of an engaged call can run. -/
theorem Invariant.engaged_runs (inv : Invariant sha256 source.id s) {selected : Selected}
    (engaged : (s.phase w).engaged = some selected) (now : Int) :
    (advance sha256 source s w now).isSome = true := by
  have inserts := inv.inserts engaged
  unfold Overlap.advance
  cases phase : s.phase w with
  | baselineSelected payload createdAt snapshotId selected =>
    cases selected with
    | none => exact inserts _ _
    | some entry =>
      simp only
      split
      · rfl
      · rfl
  | createWritten payload createdAt snapshotId selected => rfl
  | acceptSelected acceptance id baseline =>
    simp only
    split
    · rfl
    · rfl
  | superseding acceptance id baseline candidateId acceptedAt => exact inserts _ _
  | promoting id baseline => rfl
  | _ =>
    rw [phase] at engaged
    cases engaged

/-- A call that is neither begun nor over. -/
def Phase.open : Phase → Bool
  | .idle => false
  | .stored _ _ => false
  | .violated => false
  | .failed _ => false
  | .accepted => false
  | .refused _ => false
  | _ => true

theorem lockBaseline_isSome {sourceId id : Nat} {p : Selected → Phase} (free : s.baselines.free w id) :
    (s.lockBaseline w sourceId id p).isSome = true := by
  unfold State.lockBaseline
  rw [if_pos free]
  split
  · rfl
  · rfl

/-- When no call is engaged, one that does not wait for the source can run. -/
theorem Invariant.unengaged_runs (inv : Invariant sha256 source.id s)
    (none : ∀ v, (s.phase v).engaged = none) (begun : (s.phase w).open = true)
    (past : ∀ payload, s.phase w ≠ .submitted payload) (now : Int) :
    (advance sha256 source s w now).isSome = true := by
  have free : ∀ id, s.baselines.free w id := by
    intro id
    cases holder : s.baselines.holder id with
    | none => exact Or.inl holder
    | some t =>
      have engaged := inv.held t id holder
      rw [none t] at engaged
      cases engaged
  have unengaged := none w
  unfold Overlap.advance
  cases phase : s.phase w with
  | submitted payload => exact absurd phase (past payload)
  | sourceLocked payload => rfl
  | snapshotInserted payload createdAt snapshotId =>
    simp only
    split
    · rfl
    · rfl
  | awaitingBaseline payload createdAt snapshotId id => exact lockBaseline_isSome (free id)
  | acceptRequested acceptance =>
    simp only
    split
    · rfl
    · rfl
  | acceptAwaiting acceptance id => exact lockBaseline_isSome (free id)
  | idle =>
    rw [phase] at begun
    cases begun
  | stored payload snapshotId =>
    rw [phase] at begun
    cases begun
  | violated =>
    rw [phase] at begun
    cases begun
  | failed text =>
    rw [phase] at begun
    cases begun
  | accepted =>
    rw [phase] at begun
    cases begun
  | refused text =>
    rw [phase] at begun
    cases begun
  | _ =>
    rw [phase] at unengaged
    cases unengaged

/-- **While a call is open, some call can run.** -/
theorem Invariant.progress (inv : Invariant sha256 source.id s) (begun : (s.phase w).open = true) :
    ∃ v, ∀ now, (advance sha256 source s v now).isSome = true := by
  by_cases engaged : ∃ v, (s.phase v).engaged.isSome = true
  · obtain ⟨v, some⟩ := engaged
    obtain ⟨selected, is⟩ := Option.isSome_iff_exists.mp some
    exact ⟨v, inv.engaged_runs is⟩
  · have none : ∀ v, (s.phase v).engaged = none := by
      intro v
      rw [← Option.not_isSome_iff_eq_none]
      exact fun some => engaged ⟨v, some⟩
    by_cases waits : ∃ payload, s.phase w = .submitted payload
    · obtain ⟨payload, phase⟩ := waits
      cases holder : s.sourceHolder with
      | none =>
        refine ⟨w, fun now => ?_⟩
        unfold Overlap.advance
        rw [phase]
        simp only [holder, if_true]
        rfl
      | some t =>
        have creates := (inv.sourceLock t).mp holder
        refine ⟨t, inv.unengaged_runs none ?_ ?_⟩
        · generalize s.phase t = p at creates
          cases p with
          | sourceLocked => rfl
          | snapshotInserted => rfl
          | awaitingBaseline => rfl
          | baselineSelected => rfl
          | createWritten => rfl
          | _ => cases creates
        · intro payload' is
          rw [is] at creates
          cases creates
    · exact ⟨w, inv.unengaged_runs none begun fun payload is => waits ⟨payload, is⟩⟩

/-! ### Submitted snapshots -/

/-- The snapshot that a call ingests, while it is not lost. -/
def Phase.submission : Phase → Option ContractSnapshotCreate
  | .submitted payload => some payload
  | .sourceLocked payload => some payload
  | .snapshotInserted payload _ _ => some payload
  | .awaitingBaseline payload _ _ _ => some payload
  | .baselineSelected payload _ _ _ => some payload
  | .createWritten payload _ _ _ => some payload
  | .stored payload _ => some payload
  | _ => none

/-- The phase a statement can lead to. -/
def Follows (p p' : Phase) : Prop :=
  p' = .violated ∨ (∃ text, p' = .failed text) ∨ p'.submission = p.submission

theorem insertBaseline_phase {new : ContractBaseline} {p : Phase}
    (h : s.insertBaseline w new p = some s') :
    s'.phase = Function.update s.phase w p ∨ s'.phase = Function.update s.phase w .violated := by
  unfold State.insertBaseline at h
  split at h
  · cases h
  · split at h
    · obtain rfl := Option.some.inj h
      exact Or.inl rfl
    · split at h
      · cases h
      · obtain rfl := Option.some.inj h
        exact Or.inr rfl

theorem lockBaseline_phase {sourceId id : Nat} {p : Selected → Phase}
    (h : s.lockBaseline w sourceId id p = some s') :
    ∃ selected, s'.phase = Function.update s.phase w (p selected) := by
  unfold State.lockBaseline at h
  split at h
  · split at h
    · obtain rfl := Option.some.inj h
      exact ⟨_, rfl⟩
    · obtain rfl := Option.some.inj h
      exact ⟨_, rfl⟩
  · cases h

/-- A statement changes the phase of its call only, and loses the snapshot only
when the call fails. -/
theorem advance_phase {now : Int} (h : advance sha256 source s w now = some s') :
    ∃ p, s'.phase = Function.update s.phase w p ∧ Follows (s.phase w) p := by
  unfold Overlap.advance at h
  cases phase : s.phase w with
  | submitted payload =>
    simp only [phase] at h
    split at h
    · obtain rfl := Option.some.inj h
      exact ⟨_, rfl, Or.inr (Or.inr rfl)⟩
    · cases h
  | sourceLocked payload =>
    simp only [phase] at h
    obtain rfl := Option.some.inj h
    exact ⟨_, rfl, Or.inr (Or.inr rfl)⟩
  | snapshotInserted payload createdAt snapshotId =>
    simp only [phase] at h
    split at h
    · obtain rfl := Option.some.inj h
      exact ⟨_, rfl, Or.inr (Or.inr rfl)⟩
    · obtain rfl := Option.some.inj h
      exact ⟨_, rfl, Or.inr (Or.inr rfl)⟩
  | awaitingBaseline payload createdAt snapshotId id =>
    simp only [phase] at h
    obtain ⟨selected, is⟩ := lockBaseline_phase h
    exact ⟨_, is, Or.inr (Or.inr rfl)⟩
  | baselineSelected payload createdAt snapshotId selected =>
    cases selected with
    | none =>
      simp only [phase] at h
      rcases insertBaseline_phase h with is | is
      · exact ⟨_, is, Or.inr (Or.inr rfl)⟩
      · exact ⟨_, is, Or.inl rfl⟩
    | some entry =>
      simp only [phase] at h
      split at h
      · obtain rfl := Option.some.inj h
        exact ⟨_, rfl, Or.inr (Or.inl ⟨_, rfl⟩)⟩
      · obtain rfl := Option.some.inj h
        exact ⟨_, rfl, Or.inr (Or.inr rfl)⟩
  | createWritten payload createdAt snapshotId selected =>
    simp only [phase] at h
    obtain rfl := Option.some.inj h
    exact ⟨_, rfl, Or.inr (Or.inr rfl)⟩
  | acceptRequested acceptance =>
    simp only [phase] at h
    split at h
    · obtain rfl := Option.some.inj h
      exact ⟨_, rfl, Or.inr (Or.inr rfl)⟩
    · obtain rfl := Option.some.inj h
      exact ⟨_, rfl, Or.inr (Or.inr rfl)⟩
  | acceptAwaiting acceptance id =>
    simp only [phase] at h
    obtain ⟨selected, is⟩ := lockBaseline_phase h
    refine ⟨_, is, Or.inr (Or.inr ?_)⟩
    cases selected with
    | none => rfl
    | some entry => rfl
  | acceptSelected acceptance id baseline =>
    simp only [phase] at h
    split at h
    · obtain rfl := Option.some.inj h
      exact ⟨_, rfl, Or.inr (Or.inr rfl)⟩
    · obtain rfl := Option.some.inj h
      exact ⟨_, rfl, Or.inr (Or.inr rfl)⟩
  | superseding acceptance id baseline candidateId acceptedAt =>
    simp only [phase] at h
    rcases insertBaseline_phase h with is | is
    · exact ⟨_, is, Or.inr (Or.inr rfl)⟩
    · exact ⟨_, is, Or.inl rfl⟩
  | promoting id baseline =>
    simp only [phase] at h
    obtain rfl := Option.some.inj h
    exact ⟨_, rfl, Or.inr (Or.inr rfl)⟩
  | _ =>
    simp only [phase] at h
    cases h

/-- A submitted snapshot stays with its call. -/
theorem submission_next {label : Label} {payload : ContractSnapshotCreate}
    (inv' : Invariant sha256 source.id s') (h : next sha256 source s label = some s')
    (is : (s.phase w).submission = some payload) :
    (s'.phase w).submission = some payload := by
  have moved : ∀ {v p}, s'.phase = Function.update s.phase v p → Follows (s.phase v) p →
      (s'.phase w).submission = some payload := by
    intro v p phases follows
    by_cases e : w = v
    · subst e
      have here : s'.phase w = p := by rw [phases, Function.update_self]
      have ok := inv'.phases w
      unfold PhaseOk at ok
      rw [here] at ok ⊢
      rcases follows with rfl | ⟨text, rfl⟩ | same
      · exact absurd ok id
      · exact absurd ok id
      · rw [same, is]
    · rw [phases, Function.update_of_ne e, is]
  have fresh : ∀ {v p}, s.phase v = .idle → s'.phase = Function.update s.phase v p →
      (s'.phase w).submission = some payload := by
    intro v p idle phases
    have ne : w ≠ v := by
      rintro rfl
      rw [idle] at is
      cases is
    rw [phases, Function.update_of_ne ne, is]
  unfold Overlap.next at h
  split at h
  · rename_i v payload' phase
    split at h
    · obtain rfl := Option.some.inj h
      exact fresh phase rfl
    · cases h
  · rename_i v acceptance phase
    obtain rfl := Option.some.inj h
    exact fresh phase rfl
  · obtain ⟨p, phases, follows⟩ := advance_phase h
    exact moved phases follows
  · cases h

/-- A statement moves its own call only. -/
theorem phase_next {label : Label} (h : next sha256 source s label = some s')
    (other : label.worker ≠ w) : s'.phase w = s.phase w := by
  unfold Overlap.next at h
  split at h
  · split at h
    · obtain rfl := Option.some.inj h
      exact Function.update_of_ne (Ne.symm other) _ _
    · cases h
  · obtain rfl := Option.some.inj h
    exact Function.update_of_ne (Ne.symm other) _ _
  · obtain ⟨p, phases, -⟩ := advance_phase h
    rw [phases]
    exact Function.update_of_ne (Ne.symm other) _ _
  · cases h

/-- Every submitted snapshot is still with its call. -/
theorem submission_of_run {history : List (State × Label)} {payload : ContractSnapshotCreate}
    (run : Run (next sha256 source) initial history s) (undisturbed : Along Undisturbed history)
    (submitted : ∃ entry ∈ history, entry.2 = .create w payload) :
    (s.phase w).submission = some payload := by
  induction run with
  | init =>
    obtain ⟨entry, mem, -⟩ := submitted
    cases mem
  | @snoc history s s' label run step ih =>
    have inv' := invariant_of_run (run.snoc step) undisturbed
    rw [along_cons] at undisturbed
    obtain ⟨entry, mem, is⟩ := submitted
    rcases List.mem_cons.mp mem with rfl | earlier
    · -- the call is submitted now
      obtain rfl : label = .create w payload := is
      unfold Overlap.next at step
      simp only [Label.worker] at step
      split at step
      · rename_i v payload' phase same
        obtain ⟨rfl, rfl⟩ := Label.create.inj same
        split at step
        · obtain rfl := Option.some.inj step
          rw [phase_moveTo_self]
          rfl
        · cases step
      · rename_i same
        cases same
      · rename_i same
        cases same
      · cases step
    · exact submission_next inv' step (ih undisturbed.2 ⟨entry, earlier, is⟩)

/-- No call of `workers` waits for the row whose successor is about to commit. -/
def undisturbedBy (workers : List Worker) (s : State) : Label → Bool
  | .advance w _ =>
      match s.phase w with
      | .promoting id _ => workers.all fun w' =>
          match s.phase w' with
          | .awaitingBaseline _ _ _ id' => id' != id
          | _ => true
      | _ => true
  | _ => true

/-- Only the calls of `workers` have begun, so they are the only ones to look at. -/
theorem undisturbed_of_workers {workers : List Worker} {history : List (State × Label)}
    (run : Run (next sha256 source) initial history s)
    (begun : ∀ entry ∈ history, entry.2.worker ∈ workers)
    (checked : Along (fun s label => undisturbedBy workers s label = true) history) :
    Along Undisturbed history := by
  induction run with
  | init => exact along_nil _
  | @snoc history s s' label run step ih =>
    obtain ⟨-, earlier⟩ := List.forall_mem_cons.mp begun
    rw [along_cons] at checked ⊢
    refine ⟨?_, ih earlier checked.2⟩
    cases label with
    | create w payload => trivial
    | accept w acceptance => trivial
    | advance w now =>
      intro id baseline phase w' payload createdAt snapshotId waits
      by_cases mem : w' ∈ workers
      · have passes := checked.1
        simp only [undisturbedBy, phase, List.all_eq_true] at passes
        have ne := passes w' mem
        rw [waits] at ne
        simp at ne
      · have unmoved : s.phase w' = initial.phase w' :=
          @Run.unmoved _ _ _ _ _ _ _ (fun s => s.phase w') (fun label => label.worker = w')
            (fun step => phase_next step) run fun entry began same => mem (same ▸ earlier entry began)
        rw [waits] at unmoved
        cases unmoved

end Runs

/-! ### Two runs -/

def driftSource : SourceProfile :=
  { id := 1, name := "orders", baseUrl := "https://orders.example", tenantId := none }

def observed (field : String) : ContractSnapshotCreate :=
  { sourceId := 1, payloadSchema := [(field, .null)] }

/-- The statements of call `w`, `count` of them. -/
def steps (w count : Nat) : List Label := List.replicate count (.advance w 0)

/-- A baseline, a candidate, and an acceptance that has written but not
committed. -/
def acceptingLabels : List Label :=
  .create 1 (observed "name") :: steps 1 5 ++ .create 2 (observed "title") :: steps 2 6 ++
    .accept 3 { actor := "ann" } :: steps 3 4

/-- An ingestion reaches the locked baseline and the acceptance commits. -/
def overlapLabels : List Label :=
  acceptingLabels ++ .create 4 (observed "title") :: steps 4 3 ++ steps 3 1 ++ steps 4 2

/-- The ingestion starts early and selects its baseline after the commit. -/
def waitingLabels : List Label :=
  acceptingLabels ++ .create 4 (observed "title") :: steps 4 2 ++ steps 3 1 ++ steps 4 4

end ApiObservatory.ContractDrift.Overlap
