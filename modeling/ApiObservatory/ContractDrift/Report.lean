import ApiObservatory.ContractDrift.Candidate

/-
The compatibility report against the candidate of the active baseline.

The report compares the newest snapshot with the accepted one from scratch; the
baseline keeps its candidate from call to call. They agree because the newest
snapshot of a source is the one the last call compared, and the candidate points
to it whenever it differs.
-/

namespace ApiObservatory.ContractDrift

open Foundation

/-! ### The newest snapshot -/

/-- The snapshot of the source that was created last. -/
structure Newest (snapshots : Rows ContractSnapshot) (sourceId id : Nat)
    (snapshot : ContractSnapshot) : Prop where
  stored : snapshots.get id = some snapshot
  own : snapshot.sourceId = sourceId
  later : ∀ {i other}, snapshots.get i = some other → other.sourceId = sourceId → i ≠ id →
    other.createdAt < snapshot.createdAt

section Newest

variable {snapshots : Rows ContractSnapshot} {sourceId id : Nat} {snapshot new : ContractSnapshot}

/-- A later snapshot of the source is its newest. -/
theorem newest_insert (own : new.sourceId = sourceId)
    (later : ∀ {i other}, snapshots.get i = some other → other.sourceId = sourceId →
      other.createdAt < new.createdAt) :
    Newest (snapshots.insert new) sourceId snapshots.nextId new := by
  refine ⟨Rows.get_insert_self _ _, own, ?_⟩
  intro i other stored owned ne
  rcases Rows.get_insert_cases stored with ⟨same, -⟩ | ⟨-, old⟩
  · exact absurd same ne
  · exact later old owned

/-- A snapshot of another source changes nothing. -/
theorem Newest.insert_other (newest : Newest snapshots sourceId id snapshot)
    (foreign : new.sourceId ≠ sourceId) : Newest (snapshots.insert new) sourceId id snapshot := by
  refine ⟨Rows.get_insert_of_some newest.stored, newest.own, ?_⟩
  intro i other stored owned ne
  rcases Rows.get_insert_cases stored with ⟨-, rfl⟩ | ⟨-, old⟩
  · exact absurd owned foreign
  · exact newest.later old owned ne

/-- The first snapshot by age is the newest. -/
theorem Newest.first {db : ContractDb} (newest : Newest db.snapshots sourceId id snapshot) :
    (snapshotsByAge db sourceId).head? = some (id, snapshot) := by
  let newer : Nat × ContractSnapshot → Nat × ContractSnapshot → Prop :=
    fun a b => b.2.createdAt ≤ a.2.createdAt
  have total : Std.Total newer := ⟨fun a b => (le_total a.2.createdAt b.2.createdAt).symm⟩
  have trans : IsTrans _ newer := ⟨fun _ _ _ ab bc => le_trans bc ab⟩
  have sorted : (snapshotsByAge db sourceId).Pairwise newer := List.pairwise_insertionSort newer _
  have mem_iff : ∀ {i other}, (i, other) ∈ snapshotsByAge db sourceId ↔
      db.snapshots.get i = some other ∧ other.sourceId = sourceId := by
    intro i other
    unfold snapshotsByAge
    rw [List.mem_insertionSort, Rows.mem_select, beq_iff_eq]
  have mem : (id, snapshot) ∈ snapshotsByAge db sourceId := mem_iff.mpr ⟨newest.stored, newest.own⟩
  cases found : snapshotsByAge db sourceId with
  | nil =>
    rw [found] at mem
    cases mem
  | cons entry rest =>
    obtain ⟨i, other⟩ := entry
    obtain ⟨stored, owned⟩ := mem_iff.mp (found ▸ List.mem_cons_self : (i, other) ∈ _)
    by_cases same : i = id
    · subst same
      obtain rfl := Option.some.inj (newest.stored.symm.trans stored)
      rfl
    · have older := newest.later stored owned same
      rw [found] at mem sorted
      rcases List.mem_cons.mp mem with is | after
      · exact absurd (congrArg Prod.fst is).symm same
      · have notOlder : snapshot.createdAt ≤ other.createdAt := (List.pairwise_cons.mp sorted).1 _ after
        omega

end Newest

/-! ### What a call computes -/

/-- Snapshots are created later than those of their source that are stored. -/
def Increasing (db : ContractDb) : Label → Prop
  | .create payload createdAt _ => ∀ entry ∈ db.snapshots.toList,
      entry.2.sourceId = payload.sourceId → entry.2.createdAt < createdAt
  | .accept .. => True

instance (db : ContractDb) (label : Label) : Decidable (Increasing db label) :=
  match label with
  | .create payload createdAt _ => inferInstanceAs (Decidable (∀ entry ∈ db.snapshots.toList,
      entry.2.sourceId = payload.sourceId → entry.2.createdAt < createdAt))
  | .accept .. => inferInstanceAs (Decidable True)

/-- The call stores its snapshot under `snapshotId` and computes `diff` between
the accepted baseline and the payload. -/
def Computes (sha256 : String → String) (db : ContractDb) (label : Label) (snapshotId : Nat)
    (diff : ContractDiff) : Prop :=
  ∃ payload createdAt now id baseline base, label = .create payload createdAt now ∧
    getActiveContractBaseline db payload.sourceId = some (id, baseline) ∧
    db.snapshots.get baseline.baselineSnapshotId = some base ∧
    diff = diffContract (structureOf base.payloadSchema) (structureOf payload.payloadSchema) ∧
    snapshotId = db.snapshots.nextId ∧
    createContractSnapshot sha256 db payload createdAt now =
      .ok (compareWithBaseline sha256 db payload (newSnapshot sha256 payload createdAt) id baseline
        diff now)

/-- The candidate points to the compared snapshot if that differs. -/
theorem candidateSnapshotId_afterComparison (sha256 : String → String)
    (payload : ContractSnapshotCreate) (baseline : ContractBaseline) (diff : ContractDiff)
    (snapshotId eventId : Nat) (now : Int) :
    (afterComparison sha256 payload baseline diff snapshotId eventId now).1.candidateSnapshotId =
      if diff.isEmpty then none else some snapshotId := by
  unfold afterComparison
  split
  · rfl
  · simp only
    split
    · rfl
    · rfl

/-! ### The candidate and the newest snapshot -/

/-- The newest snapshot of the source is the candidate exactly when it differs
from the baseline, and then it carries the score of the comparison that stored
it. -/
structure Agrees (sha256 : String → String) (history : List (ContractDb × Label)) (db : ContractDb)
    (sourceId : Nat) (baseline : ContractBaseline) (base : ContractSnapshot) (latestId : Nat)
    (latest : ContractSnapshot) (diff : ContractDiff) : Prop where
  based : db.snapshots.get baseline.baselineSnapshotId = some base
  newest : Newest db.snapshots sourceId latestId latest
  compared : diff = diffContract (structureOf base.payloadSchema) (structureOf latest.payloadSchema)
  candidate : baseline.candidateSnapshotId = if diff.isEmpty then none else some latestId
  created : diff.isEmpty = false → latest.compatibilityScore = compatibilityScore diff ∧
    ∃ entry ∈ history, Computes sha256 entry.1 entry.2 latestId diff

def Agree (sha256 : String → String) (history : List (ContractDb × Label)) (db : ContractDb) :
    Prop :=
  ∀ sourceId id baseline, Active db.baselines sourceId id baseline →
    ∃ base latestId latest diff,
      Agrees sha256 history db sourceId baseline base latestId latest diff

section Agree

variable {sha256 : String → String} {db db' : ContractDb} {label : Label} {sourceId latestId : Nat}
  {history : List (ContractDb × Label)} {baseline : ContractBaseline}
  {base latest : ContractSnapshot} {diff : ContractDiff}

/-- Snapshots of other sources do not touch the newest of this one. -/
theorem Effect.newest_other (effect : Effect sha256 db label db') (ne : label.sourceId ≠ sourceId)
    (newest : Newest db.snapshots sourceId latestId latest) :
    Newest db'.snapshots sourceId latestId latest := by
  cases effect with
  | refused _ => exact newest
  | first _ _ => exact newest.insert_other ne
  | compared _ _ _ => exact newest.insert_other ne
  | accepted _ _ _ _ => exact newest

/-- What has been computed stays computed. -/
theorem Agrees.later (agrees : Agrees sha256 history db sourceId baseline base latestId latest diff)
    (based : db'.snapshots.get baseline.baselineSnapshotId = some base)
    (newest : Newest db'.snapshots sourceId latestId latest) (entry : ContractDb × Label) :
    Agrees sha256 (entry :: history) db' sourceId baseline base latestId latest diff := by
  refine ⟨based, newest, agrees.compared, agrees.candidate, ?_⟩
  intro differs
  obtain ⟨score, earlier, mem, computes⟩ := agrees.created differs
  exact ⟨score, earlier, List.mem_cons_of_mem _ mem, computes⟩

/-- A snapshot that is also the baseline agrees with it. -/
theorem agrees_of_same (based : db.snapshots.get baseline.baselineSnapshotId = some base)
    (newest : Newest db.snapshots sourceId baseline.baselineSnapshotId base)
    (none : baseline.candidateSnapshotId = none) :
    Agrees sha256 history db sourceId baseline base baseline.baselineSnapshotId base
      (diffContract (structureOf base.payloadSchema) (structureOf base.payloadSchema)) := by
  have same := diffContract_self (structureOf base.payloadSchema)
  refine ⟨based, newest, rfl, ?_, ?_⟩
  · rw [none, if_pos same]
  · intro differs
    rw [same] at differs
    cases differs

/-- **One call.** The candidate and the newest snapshot stay in step. -/
theorem Agree.after_call (agree : Agree sha256 history db) (consistent : Consistent db)
    (increasing : Increasing db label) :
    Agree sha256 ((db, label) :: history) (call sha256 db label) := by
  intro sourceId i other active'
  have effect : Effect sha256 db label (call sha256 db label) := consistent.effect
  by_cases own : label.sourceId = sourceId
  · subst own
    generalize is : call sha256 db label = db' at effect active'
    cases effect with
    | refused nothing =>
      obtain ⟨base, latestId, latest, diff, agrees⟩ := agree _ i other active'
      exact ⟨base, latestId, latest, diff, agrees.later agrees.based agrees.newest _⟩
    | @first payload createdAt now source live none =>
      obtain ⟨-, rfl⟩ := (active_first none).mp active'
      refine ⟨_, _, _, _, agrees_of_same (Rows.get_insert_self _ _) ?_ rfl⟩
      exact newest_insert rfl fun stored => increasing _ (Rows.mem_toList.mpr stored)
    | @compared payload createdAt now source id baseline base live active stored =>
      have here := active_of_get active
      obtain ⟨-, rfl⟩ := (active_compared consistent.unique here (by simp [here.2])).mp active'
      let diff := diffContract (structureOf base.payloadSchema) (structureOf payload.payloadSchema)
      refine ⟨base, db.snapshots.nextId, { newSnapshot sha256 payload createdAt with
        compatibilityScore := compatibilityScore diff }, diff, ?_, ?_, rfl, ?_, ?_⟩
      · rw [baselineSnapshotId_afterComparison]
        exact Rows.get_insert_of_some stored
      · exact newest_insert rfl fun stored => increasing _ (Rows.mem_toList.mpr stored)
      · exact candidateSnapshotId_afterComparison _ _ _ _ _ _ _
      · intro _
        refine ⟨rfl, _, List.mem_cons_self, ?_⟩
        exact ⟨payload, createdAt, now, id, baseline, base, rfl, active, stored, rfl, rfl,
          create_compared live active stored⟩
    | @accepted sourceId actor acceptanceNote candidateSnapshotId now id selected baseline candidate
        active chosen stored owned =>
      have here := active_of_get active
      obtain ⟨rfl, rfl⟩ := (active_promoted consistent.unique here).mp active'
      obtain ⟨base, latestId, latest, diff, agrees⟩ := agree _ _ _ here
      -- an accepted candidate is the newest snapshot
      have newest : selected = latestId := by
        have is := agrees.candidate
        rw [chosen] at is
        split at is
        · cases is
        · exact Option.some.inj is
      subst newest
      obtain rfl := Option.some.inj (stored.symm.trans agrees.newest.stored)
      exact ⟨_, _, _, _, agrees_of_same stored agrees.newest rfl⟩
  · obtain ⟨base, latestId, latest, diff, agrees⟩ :=
      agree sourceId i other ((effect.other own).mp active')
    exact ⟨base, latestId, latest, diff, agrees.later (effect.snapshot_kept agrees.based)
      (effect.newest_other own agrees.newest) _⟩

/-- **The candidate and the newest snapshot agree in every reached state.** -/
theorem agree_of_run {sources : Rows SourceProfile}
    (run : Run (next sha256) (initial sources) history db) (increasing : Along Increasing history) :
    Agree sha256 history db := by
  induction run with
  | init =>
    intro sourceId id baseline active
    exact nomatch active.1
  | snoc run step ih =>
    rw [along_cons] at increasing
    cases step
    exact (ih increasing.2).after_call (consistent_of_run run) increasing.1

/-- The report of a source with an active baseline. -/
theorem Agrees.report (agrees : Agrees sha256 history db sourceId baseline base latestId latest diff)
    {id : Nat} (active : getActiveContractBaseline db sourceId = some (id, baseline)) :
    getCompatibilityReport db sourceId =
      .ok (comparedReport sourceId latestId baseline.baselineSnapshotId diff) := by
  have compared := agrees.compared
  simp only [structureOf] at compared
  simp only [getCompatibilityReport, agrees.newest.first, active, agrees.based, ← compared]

theorem driftDetected_comparedReport (sourceId latestId previousId : Nat) (diff : ContractDiff) :
    (comparedReport sourceId latestId previousId diff).driftDetected = true ↔
      diff.isEmpty = false := by
  simp only [comparedReport, decide_eq_true_eq]
  rw [ne_eq, eventType_eq_none, Bool.not_eq_true]

/-- Agreement and the candidate determine the comparison. -/
theorem Agrees.differs_iff
    (agrees : Agrees sha256 history db sourceId baseline base latestId latest diff) :
    diff.isEmpty = false ↔ baseline.candidateSnapshotId = some latestId := by
  rw [agrees.candidate]
  cases diff.isEmpty <;> simp

theorem Agrees.candidate_eq
    (agrees : Agrees sha256 history db sourceId baseline base latestId latest diff)
    {candidateId : Nat} (is : baseline.candidateSnapshotId = some candidateId) :
    candidateId = latestId := by
  rw [agrees.candidate] at is
  split at is
  · cases is
  · exact (Option.some.inj is).symm

/-- The report exists, and detects drift exactly when there is a candidate. -/
theorem Agree.detects (agree : Agree sha256 history db) (sourceId : Nat) :
    ∃ report, getCompatibilityReport db sourceId = .ok report ∧
      (report.driftDetected = true ↔ ∃ id baseline candidateId,
        getActiveContractBaseline db sourceId = some (id, baseline) ∧
        baseline.candidateSnapshotId = some candidateId) := by
  cases active : getActiveContractBaseline db sourceId with
  | none =>
    have uncompared : ∃ latestId score,
        getCompatibilityReport db sourceId = .ok (uncomparedReport sourceId latestId score) := by
      unfold getCompatibilityReport
      split
      · exact ⟨none, _, rfl⟩
      · simp only [active]
        exact ⟨_, _, rfl⟩
    obtain ⟨latestId, score, is⟩ := uncompared
    exact ⟨_, is, by simp [uncomparedReport]⟩
  | some entry =>
    obtain ⟨id, baseline⟩ := entry
    obtain ⟨base, latestId, latest, diff, agrees⟩ := agree _ _ _ (active_of_get active)
    refine ⟨_, agrees.report active, ?_⟩
    rw [driftDetected_comparedReport, agrees.differs_iff]
    constructor
    · intro is
      exact ⟨id, baseline, latestId, rfl, is⟩
    · rintro ⟨id', baseline', candidateId, same, is⟩
      obtain ⟨rfl, rfl⟩ := Prod.mk.inj (Option.some.inj same)
      rw [is, agrees.candidate_eq is]

end Agree

/-- **The report agrees with the candidate.** It detects drift exactly when the
active baseline has a candidate. Then it is about the candidate snapshot, and
shows the fields and the score that were computed, and stored, when the snapshot
was created. After an acceptance it detects none. -/
theorem compatibility_report_agrees {sha256 : String → String} {sources : Rows SourceProfile}
    {history : List (ContractDb × Label)} {db : ContractDb}
    (run : Run (next sha256) (initial sources) history db) (increasing : Along Increasing history) :
    (∀ sourceId, ∃ report, getCompatibilityReport db sourceId = .ok report ∧
      (report.driftDetected = true ↔ ∃ id baseline candidateId,
        getActiveContractBaseline db sourceId = some (id, baseline) ∧
        baseline.candidateSnapshotId = some candidateId)) ∧
    (∀ sourceId id baseline candidateId report,
      getActiveContractBaseline db sourceId = some (id, baseline) →
      baseline.candidateSnapshotId = some candidateId →
      getCompatibilityReport db sourceId = .ok report →
      report.latestSnapshotId = some candidateId ∧
      ∃ candidate diff, db.snapshots.get candidateId = some candidate ∧
        (∃ entry ∈ history, Computes sha256 entry.1 entry.2 candidateId diff) ∧
        report.addedFields = diff.addedFields ∧ report.removedFields = diff.removedFields ∧
        report.typeChangedFields = diff.typeChangedFields ∧
        report.compatibilityScore = compatibilityScore diff ∧
        report.compatibilityScore = candidate.compatibilityScore) ∧
    (∀ sourceId actor acceptanceNote candidateSnapshotId now db',
      acceptBaseline db sourceId actor acceptanceNote candidateSnapshotId now = .ok db' →
      ∃ report, getCompatibilityReport db' sourceId = .ok report ∧
        report.driftDetected = false) := by
  have agree := agree_of_run run increasing
  refine ⟨agree.detects, ?_, ?_⟩
  · intro sourceId id baseline candidateId report active is reported
    obtain ⟨base, latestId, latest, diff, agrees⟩ := agree _ _ _ (active_of_get active)
    obtain rfl := agrees.candidate_eq is
    obtain rfl := Except.ok.inj ((agrees.report active).symm.trans reported)
    obtain ⟨score, computed⟩ := agrees.created (agrees.differs_iff.mpr is)
    exact ⟨rfl, latest, diff, agrees.newest.stored, computed, rfl, rfl, rfl, rfl, score.symm⟩
  · intro sourceId actor acceptanceNote candidateSnapshotId now db' done
    have called : call sha256 db (.accept sourceId actor acceptanceNote candidateSnapshotId now) =
        db' := by
      simp only [call, done]
    have run' : Run (next sha256) (initial sources) ((db, .accept sourceId actor acceptanceNote
        candidateSnapshotId now) :: history) db' := run.snoc (congrArg some called)
    have agree' := agree_of_run run' ((along_cons _ _ _).mpr ⟨trivial, increasing⟩)
    obtain ⟨report, reported, detects⟩ := agree'.detects sourceId
    refine ⟨report, reported, ?_⟩
    obtain ⟨id, baseline, selected, candidate, active, -, -, -, rfl⟩ := accept_ok done
    have unique := (consistent_of_run run).unique
    rw [← Bool.not_eq_true, detects]
    rintro ⟨id', baseline', candidateId, active', is⟩
    obtain ⟨-, rfl⟩ := (active_promoted unique (active_of_get active)).mp (active_of_get active')
    cases is

/-- The field is renamed, the new name is accepted, and the old one comes back. -/
def acceptedLabels : List Label :=
  [poll "name" 1, poll "title" 2, .accept 1 "ann" none none 3, poll "name" 4]

/-- The report after an acceptance is about the next snapshot that differs. -/
theorem compatibility_report_after_acceptance :
    ∃ (history : List (ContractDb × Label)) (db : ContractDb) (report : CompatibilityReport),
      Run (next id) (initial pollSource) history db ∧ Along Increasing history ∧
      getCompatibilityReport db 1 = .ok report ∧ report.driftDetected = true ∧
      report.latestSnapshotId = some 3 ∧ report.removedFields = ["title"] := by
  obtain ⟨history, checked⟩ := run_of_isSome
    (show (finalState (restrict (fun db label => decide (Increasing db label)) (next id))
      (initial pollSource) acceptedLabels).isSome = true by decide)
  obtain ⟨run, passed⟩ := Run.of_restrict checked
  have increasing : Along Increasing history := fun entry mem => of_decide_eq_true (passed entry mem)
  obtain ⟨report, reported, detects⟩ := (compatibility_report_agrees run increasing).1 1
  refine ⟨history, _, report, run, increasing, reported, detects.mpr ?_, ?_⟩
  · exact ⟨_, _, _, rfl, rfl⟩
  · obtain rfl := Except.ok.inj (reported.symm.trans rfl)
    exact ⟨rfl, rfl⟩

end ApiObservatory.ContractDrift
