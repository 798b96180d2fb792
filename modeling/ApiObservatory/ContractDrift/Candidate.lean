import ApiObservatory.ContractDrift.Baselines

/-
The candidate of a contract baseline.

`snapshotsSince` reads the snapshots since the active baseline became active
from the history of a run, newest first. `CandidateLaw` says what the candidate
columns hold in terms of it: the latest snapshot and the length of the run of
equal structures it ends, or nothing when the latest structure does not differ
from the baseline. A drift event is inserted by exactly the calls that make
this length three.
-/

namespace ApiObservatory.ContractDrift

open Foundation

/-! ### The law of the candidate -/

/-- The number of latest snapshots with the structure `flat`. -/
def runLength (flat : FlatSchema) (since : List (Nat × FlatSchema)) : Nat :=
  (since.takeWhile fun entry => decide (entry.2 = flat)).length

@[simp] theorem runLength_cons_self (flat : FlatSchema) (id : Nat)
    (since : List (Nat × FlatSchema)) :
    runLength flat ((id, flat) :: since) = runLength flat since + 1 := by
  simp [runLength]

theorem runLength_cons_of_ne {flat other : FlatSchema} (ne : other ≠ flat) (id : Nat)
    (since : List (Nat × FlatSchema)) : runLength flat ((id, other) :: since) = 0 := by
  simp [runLength, ne]

structure NoCandidate (baseline : ContractBaseline) : Prop where
  snapshotId : baseline.candidateSnapshotId = none
  fingerprint : baseline.candidateSchemaFingerprint = none
  count : baseline.candidateObservationCount = 0
  driftEventId : baseline.candidateDriftEventId = none
  firstSeenAt : baseline.candidateFirstSeenAt = none
  lastSeenAt : baseline.candidateLastSeenAt = none

/-- The candidate is the snapshot `id` with the structure `flat`, observed
`count` times in a row. -/
structure HasCandidate (sha256 : String → String) (baseline : ContractBaseline) (id : Nat)
    (flat : FlatSchema) (count : Nat) : Prop where
  snapshotId : baseline.candidateSnapshotId = some id
  fingerprint : baseline.candidateSchemaFingerprint = some (structureFingerprint sha256 flat)
  observations : baseline.candidateObservationCount = count
  driftEventId : baseline.candidateDriftEventId.isSome = true ↔
    contractBaselineConfirmationPolls ≤ count

/-- The candidate of a baseline with the structure `base`, after the snapshots
`since` it became active. -/
def CandidateLaw (sha256 : String → String) (base : FlatSchema) (since : List (Nat × FlatSchema))
    (baseline : ContractBaseline) : Prop :=
  match since with
  | [] => NoCandidate baseline
  | (id, flat) :: _ =>
      if (diffContract base flat).isEmpty then NoCandidate baseline
      else HasCandidate sha256 baseline id flat (runLength flat since)

theorem candidateLaw_cons {sha256 : String → String} {base flat : FlatSchema} {id : Nat}
    {older : List (Nat × FlatSchema)} {baseline : ContractBaseline} :
    CandidateLaw sha256 base ((id, flat) :: older) baseline ↔
      if (diffContract base flat).isEmpty then NoCandidate baseline
      else HasCandidate sha256 baseline id flat (runLength flat ((id, flat) :: older)) :=
  Iff.rfl

section Law

variable {sha256 : String → String} {base flat : FlatSchema} {since : List (Nat × FlatSchema)}
  {baseline : ContractBaseline} {id : Nat} {now : Int}

theorem noCandidate_clearCandidate (baseline : ContractBaseline) :
    NoCandidate baseline.clearCandidate :=
  ⟨rfl, rfl, rfl, rfl, rfl, rfl⟩

/-- **The fingerprint recognises the run.** The stored fingerprint is that of a
differing structure exactly when the latest snapshot has this structure. -/
theorem CandidateLaw.recognises (law : CandidateLaw sha256 base since baseline)
    (collisionFree : Function.Injective sha256) (differs : (diffContract base flat).isEmpty = false) :
    (baseline.candidateSchemaFingerprint = some (structureFingerprint sha256 flat) ∧
      HasCandidate sha256 baseline (since.head?.elim 0 Prod.fst) flat (runLength flat since)) ∨
    (baseline.candidateSchemaFingerprint ≠ some (structureFingerprint sha256 flat) ∧
      runLength flat since = 0) := by
  cases since with
  | nil =>
    refine Or.inr ⟨?_, rfl⟩
    rw [law.fingerprint]
    nofun
  | cons latest older =>
    obtain ⟨latestId, latestFlat⟩ := latest
    by_cases same : latestFlat = flat
    · subst same
      rw [candidateLaw_cons, if_neg (by rw [differs]; decide)] at law
      exact Or.inl ⟨law.fingerprint, law⟩
    · refine Or.inr ⟨?_, runLength_cons_of_ne same _ _⟩
      rw [candidateLaw_cons] at law
      split at law
      · rw [law.fingerprint]
        nofun
      · rw [law.fingerprint]
        intro equal
        exact same ((structureFingerprint_inj collisionFree).mp (Option.some.inj equal))

/-- What an observation makes of the candidate, before its drift event. -/
theorem CandidateLaw.observe (law : CandidateLaw sha256 base since baseline)
    (collisionFree : Function.Injective sha256) (differs : (diffContract base flat).isEmpty = false)
    (id : Nat) (now : Int) :
    let observed := baseline.observeCandidate (structureFingerprint sha256 flat) id now
    observed.candidateSnapshotId = some id ∧
      observed.candidateSchemaFingerprint = some (structureFingerprint sha256 flat) ∧
      observed.candidateObservationCount = runLength flat since + 1 ∧
      (observed.candidateDriftEventId.isSome = true ↔
        contractBaselineConfirmationPolls ≤ runLength flat since) := by
  intro observed
  rcases law.recognises collisionFree differs with ⟨known, has⟩ | ⟨unknown, fresh⟩
  · have is : observed = { baseline with
        candidateObservationCount := baseline.candidateObservationCount + 1
        candidateSnapshotId := some id
        candidateLastSeenAt := some now } := by
      simp only [observed, ContractBaseline.observeCandidate, if_pos known]
    rw [is, ← has.observations]
    exact ⟨rfl, known, rfl, has.observations ▸ has.driftEventId⟩
  · have is : observed = { baseline with
        candidateSchemaFingerprint := some (structureFingerprint sha256 flat)
        candidateObservationCount := 1
        candidateDriftEventId := none
        candidateFirstSeenAt := some now
        candidateSnapshotId := some id
        candidateLastSeenAt := some now } := by
      simp only [observed, ContractBaseline.observeCandidate, if_neg unknown]
    rw [is, fresh]
    exact ⟨rfl, rfl, rfl, by simp [contractBaselineConfirmationPolls]⟩

/-- **A drift event is due when the run reaches three.** -/
theorem CandidateLaw.confirms (law : CandidateLaw sha256 base since baseline)
    (collisionFree : Function.Injective sha256) (differs : (diffContract base flat).isEmpty = false)
    (id : Nat) (now : Int) :
    (baseline.observeCandidate (structureFingerprint sha256 flat) id now).confirmsDrift = true ↔
      runLength flat since + 1 = contractBaselineConfirmationPolls := by
  obtain ⟨-, -, count, event⟩ := law.observe collisionFree differs id now
  simp only [ContractBaseline.confirmsDrift, Bool.and_eq_true, decide_eq_true_eq, count,
    Option.isNone_iff_eq_none]
  constructor
  · rintro ⟨enough, none⟩
    rw [none] at event
    have few : ¬ contractBaselineConfirmationPolls ≤ runLength flat since := fun h =>
      absurd (event.mpr h) (by simp)
    omega
  · intro reached
    refine ⟨Nat.le_of_eq reached.symm, ?_⟩
    rw [← Option.not_isSome_iff_eq_none, event]
    omega

/-- The candidate after an observation, with or without its drift event. -/
theorem CandidateLaw.observed (law : CandidateLaw sha256 base since baseline)
    (collisionFree : Function.Injective sha256) (differs : (diffContract base flat).isEmpty = false)
    {id : Nat} {now : Int} {event : Option Nat}
    (due : event.isSome = true ↔ contractBaselineConfirmationPolls ≤ runLength flat since + 1) :
    CandidateLaw sha256 base ((id, flat) :: since)
      { baseline.observeCandidate (structureFingerprint sha256 flat) id now with
        candidateDriftEventId := event } := by
  obtain ⟨snapshot, fingerprint, count, -⟩ := law.observe collisionFree differs id now
  rw [candidateLaw_cons, if_neg (by rw [differs]; decide), runLength_cons_self]
  exact ⟨snapshot, fingerprint, count, due⟩

/-- **A snapshot compared with the active baseline.** The next candidate follows
the law, and a drift event is created exactly when the structure differs and its
run reaches three. -/
theorem CandidateLaw.compared (law : CandidateLaw sha256 base since baseline)
    (collisionFree : Function.Injective sha256) (payload : ContractSnapshotCreate)
    (snapshotId eventId : Nat) (now : Int) :
    let flat := structureOf payload.payloadSchema
    let diff := diffContract base flat
    let after := afterComparison sha256 payload baseline diff snapshotId eventId now
    CandidateLaw sha256 base ((snapshotId, flat) :: since) after.1 ∧
      (after.2.isSome = true ↔ diff.isEmpty = false ∧
        runLength flat ((snapshotId, flat) :: since) = contractBaselineConfirmationPolls) := by
  intro flat diff after
  cases same : diff.isEmpty with
  | true =>
    have is : after = (baseline.clearCandidate, none) := if_pos same
    rw [is, candidateLaw_cons, if_pos same]
    exact ⟨noCandidate_clearCandidate baseline, by simp⟩
  | false =>
    obtain ⟨snapshot, fingerprint, count, event⟩ := law.observe collisionFree same snapshotId now
    have due := law.confirms collisionFree same snapshotId now
    rw [runLength_cons_self]
    cases confirms : (baseline.observeCandidate (structureFingerprint sha256 flat) snapshotId
        now).confirmsDrift with
    | true =>
      have is : after = ({ baseline.observeCandidate (structureFingerprint sha256 flat) snapshotId
          now with candidateDriftEventId := some eventId },
          some (newDriftEvent payload.sourceId baseline.baselineSnapshotId snapshotId diff)) := by
        simp only [after, afterComparison, same, Bool.false_eq_true, if_false]
        exact if_pos confirms
      have reached := due.mp confirms
      rw [is]
      refine ⟨law.observed collisionFree same ?_, by simp [reached]⟩
      simp [reached]
    | false =>
      have is : after = (baseline.observeCandidate (structureFingerprint sha256 flat) snapshotId
          now, none) := by
        have no : ¬ (baseline.observeCandidate (structureFingerprint sha256 flat) snapshotId
            now).confirmsDrift = true := by
          rw [confirms]
          decide
        simp only [after, afterComparison, same, Bool.false_eq_true, if_false]
        exact if_neg no
      have unreached : runLength flat since + 1 ≠ contractBaselineConfirmationPolls := fun h => by
        rw [due.mpr h] at confirms
        cases confirms
      rw [is]
      refine ⟨?_, by simp [unreached]⟩
      rw [candidateLaw_cons, if_neg (by rw [same]; decide), runLength_cons_self]
      refine ⟨snapshot, fingerprint, count, event.trans ?_⟩
      omega

end Law

/-! ### Snapshots since a baseline became active -/

/-- The snapshots of the source since its active baseline became active, newest
first. The snapshot stored together with a first baseline is not among them. -/
def snapshotsSince (sha256 : String → String) (sourceId : Nat) :
    List (ContractDb × Label) → List (Nat × FlatSchema)
  | [] => []
  | (db, label) :: earlier =>
      if activeId (call sha256 db label) sourceId ≠ activeId db sourceId then []
      else
        match storedSnapshot sha256 db label sourceId with
        | none => snapshotsSince sha256 sourceId earlier
        | some entry => entry :: snapshotsSince sha256 sourceId earlier

section Since

attribute [local simp] snapshotsSince

variable {sha256 : String → String} {db : ContractDb} {label : Label} {sourceId : Nat}
  {history : List (ContractDb × Label)}

theorem snapshotsSince_reset (ne : activeId (call sha256 db label) sourceId ≠ activeId db sourceId) :
    snapshotsSince sha256 sourceId ((db, label) :: history) = [] := by
  rw [snapshotsSince, if_pos ne]

theorem snapshotsSince_quiet
    (same : activeId (call sha256 db label) sourceId = activeId db sourceId)
    (nothing : storedSnapshot sha256 db label sourceId = none) :
    snapshotsSince sha256 sourceId ((db, label) :: history) =
      snapshotsSince sha256 sourceId history := by
  simp [same, nothing]

theorem snapshotsSince_stored {entry : Nat × FlatSchema}
    (same : activeId (call sha256 db label) sourceId = activeId db sourceId)
    (stored : storedSnapshot sha256 db label sourceId = some entry) :
    snapshotsSince sha256 sourceId ((db, label) :: history) =
      entry :: snapshotsSince sha256 sourceId history := by
  simp [same, stored]

theorem storedSnapshot_of_ne (ne : label.sourceId ≠ sourceId) :
    storedSnapshot sha256 db label sourceId = none := by
  cases label with
  | create payload createdAt now => exact if_neg ne
  | accept sourceId actor acceptanceNote candidateSnapshotId now => rfl

theorem sourceId_of_stored {entry : Nat × FlatSchema}
    (stored : storedSnapshot sha256 db label sourceId = some entry) : label.sourceId = sourceId := by
  by_contra ne
  rw [storedSnapshot_of_ne ne] at stored
  cases stored

/-- A snapshot that is compared is stored under the next id. -/
theorem storedSnapshot_compared {payload : ContractSnapshotCreate} {createdAt now : Int}
    {source : SourceProfile} {id : Nat} {baseline : ContractBaseline} {base : ContractSnapshot}
    (live : db.liveSource payload.sourceId = some source)
    (active : getActiveContractBaseline db payload.sourceId = some (id, baseline))
    (stored : db.snapshots.get baseline.baselineSnapshotId = some base) :
    storedSnapshot sha256 db (.create payload createdAt now) payload.sourceId =
      some (db.snapshots.nextId, structureOf payload.payloadSchema) := by
  simp [storedSnapshot, create_compared live active stored, compareWithBaseline, newSnapshot]

theorem activeId_of_active {id : Nat} {baseline : ContractBaseline}
    (unique : UniqueActive db.baselines) (active : Active db.baselines sourceId id baseline) :
    activeId db sourceId = some id := by
  simp only [activeId, get_of_active unique active, Option.map_some]

/-- A call for another source leaves the snapshots of this one alone. -/
theorem snapshotsSince_other (consistent : Consistent db) (ne : label.sourceId ≠ sourceId) :
    snapshotsSince sha256 sourceId ((db, label) :: history) =
      snapshotsSince sha256 sourceId history := by
  have effect : Effect sha256 db label (call sha256 db label) := consistent.effect
  refine snapshotsSince_quiet ?_ (storedSnapshot_of_ne ne)
  unfold activeId
  rw [get_congr (effect.unique consistent.unique) fun _ _ => effect.other ne]

/-- A snapshot compared with the active baseline is the latest since. -/
theorem snapshotsSince_compared {payload : ContractSnapshotCreate} {createdAt now : Int}
    {source : SourceProfile} {id : Nat} {baseline : ContractBaseline} {base : ContractSnapshot}
    (consistent : Consistent db) (live : db.liveSource payload.sourceId = some source)
    (active : getActiveContractBaseline db payload.sourceId = some (id, baseline))
    (stored : db.snapshots.get baseline.baselineSnapshotId = some base) :
    snapshotsSince sha256 payload.sourceId ((db, .create payload createdAt now) :: history) =
      (db.snapshots.nextId, structureOf payload.payloadSchema) ::
        snapshotsSince sha256 payload.sourceId history := by
  refine snapshotsSince_stored ?_ (storedSnapshot_compared live active stored)
  have after : Consistent (call sha256 db (.create payload createdAt now)) := consistent.after_call
  have here := active_of_get active
  have still : Active (call sha256 db (.create payload createdAt now)).baselines payload.sourceId id
      (afterComparison sha256 payload baseline
        (diffContract (structureOf base.payloadSchema) (structureOf payload.payloadSchema))
        db.snapshots.nextId db.driftEvents.nextId now).1 := by
    simp only [call, create_compared live active stored]
    exact (active_compared consistent.unique here (by simp [here.2])).mpr ⟨rfl, rfl⟩
  rw [activeId_of_active consistent.unique here, activeId_of_active after.unique still]

/-- A stored snapshot is the latest since, when a baseline is active. -/
theorem snapshotsSince_cons {entry : Nat × FlatSchema} {id : Nat} {baseline : ContractBaseline}
    (consistent : Consistent db) (stored : storedSnapshot sha256 db label sourceId = some entry)
    (active : getActiveContractBaseline db sourceId = some (id, baseline)) :
    snapshotsSince sha256 sourceId ((db, label) :: history) =
      entry :: snapshotsSince sha256 sourceId history := by
  have own : label.sourceId = sourceId := sourceId_of_stored stored
  subst own
  have effect : Effect sha256 db label (call sha256 db label) := consistent.effect
  generalize call sha256 db label = db' at effect
  cases effect with
  | refused nothing => exact nomatch (nothing _).symm.trans stored
  | first _ none => exact nomatch none.symm.trans active
  | accepted _ _ _ _ => exact nomatch stored
  | compared live active' stored' =>
    obtain rfl := Option.some.inj ((storedSnapshot_compared live active' stored').symm.trans stored)
    exact snapshotsSince_compared consistent live active' stored'

end Since

/-! ### The law along a run -/

/-- Every active baseline follows the law. -/
def Lawful (sha256 : String → String) (history : List (ContractDb × Label)) (db : ContractDb) :
    Prop :=
  ∀ sourceId id baseline, Active db.baselines sourceId id baseline →
    ∃ base, db.snapshots.get baseline.baselineSnapshotId = some base ∧
      CandidateLaw sha256 (structureOf base.payloadSchema) (snapshotsSince sha256 sourceId history)
        baseline

section Runs

variable {sha256 : String → String} {db : ContractDb} {label : Label}
  {history : List (ContractDb × Label)}

/-- **One call.** The law is kept by every call, for its own source and the
others. -/
theorem Lawful.after_call (lawful : Lawful sha256 history db)
    (collisionFree : Function.Injective sha256) (consistent : Consistent db) :
    Lawful sha256 ((db, label) :: history) (call sha256 db label) := by
  intro sourceId i other active'
  have effect : Effect sha256 db label (call sha256 db label) := consistent.effect
  have after : Consistent (call sha256 db label) := consistent.after_call
  have id' := activeId_of_active after.unique active'
  by_cases own : label.sourceId = sourceId
  · subst own
    generalize is : call sha256 db label = db' at effect active' id' after
    cases effect with
    | refused nothing =>
      obtain ⟨base, stored, law⟩ := lawful _ i other active'
      rw [snapshotsSince_quiet (by rw [is]) (nothing _)]
      exact ⟨base, stored, law⟩
    | first live none =>
      obtain ⟨-, rfl⟩ := (active_first none).mp active'
      rw [snapshotsSince_reset ?_]
      · exact ⟨_, Rows.get_insert_self _ _, rfl, rfl, rfl, rfl, rfl, rfl⟩
      · rw [is, id']
        simp [activeId, Label.sourceId, none]
    | compared live active stored =>
      have here := active_of_get active
      obtain ⟨-, rfl⟩ := (active_compared consistent.unique here (by simp [here.2])).mp active'
      obtain ⟨base, stored', law⟩ := lawful _ _ _ here
      obtain rfl := Option.some.inj (stored.symm.trans stored')
      have next := law.compared collisionFree
      rw [Label.sourceId, snapshotsSince_compared consistent live active stored]
      refine ⟨_, ?_, (next _ _ _ _).1⟩
      rw [baselineSnapshotId_afterComparison]
      exact Rows.get_insert_of_some stored
    | accepted active chosen stored owned =>
      have here := active_of_get active
      obtain ⟨rfl, rfl⟩ := (active_promoted consistent.unique here).mp active'
      rw [snapshotsSince_reset ?_]
      · exact ⟨_, stored, rfl, rfl, rfl, rfl, rfl, rfl⟩
      · rw [is, id', Label.sourceId, activeId_of_active consistent.unique here]
        intro same
        exact Nat.ne_of_gt (Rows.lt_nextId here.1) (Option.some.inj same)
  · obtain ⟨base, stored, law⟩ := lawful sourceId i other ((effect.other own).mp active')
    rw [snapshotsSince_other consistent own]
    exact ⟨base, effect.snapshot_kept stored, law⟩

/-- **The law holds in every reached state.** -/
theorem lawful_of_run {sources : Rows SourceProfile} (collisionFree : Function.Injective sha256)
    (run : Run (next sha256) (initial sources) history db) : Lawful sha256 history db := by
  refine Run.invariant (I := Lawful sha256) ?_ ?_ run
  · intro sourceId id baseline active
    exact nomatch active.1
  · intro history db label db' run lawful step
    cases step
    exact lawful.after_call collisionFree (consistent_of_run run)

end Runs

/-! ### Drift events -/

/-- The call stores a snapshot with which the run of a structure that differs
from the active baseline reaches its confirmation. -/
structure Confirms (sha256 : String → String) (history : List (ContractDb × Label))
    (db : ContractDb) (label : Label) (sourceId snapshotId : Nat) (flat : FlatSchema)
    (baseline : ContractBaseline) (base : ContractSnapshot) : Prop where
  stored : storedSnapshot sha256 db label sourceId = some (snapshotId, flat)
  active : ∃ id, getActiveContractBaseline db sourceId = some (id, baseline)
  based : db.snapshots.get baseline.baselineSnapshotId = some base
  differs : (diffContract (structureOf base.payloadSchema) flat).isEmpty = false
  reaches : runLength flat (snapshotsSince sha256 sourceId ((db, label) :: history)) =
    contractBaselineConfirmationPolls

section Events

variable {sha256 : String → String} {db : ContractDb} {label : Label}
  {history : List (ContractDb × Label)}

theorem eq_newDriftEvent {payload : ContractSnapshotCreate} {baseline : ContractBaseline}
    {diff : ContractDiff} {snapshotId eventId : Nat} {now : Int} {event : DriftEvent}
    (h : (afterComparison sha256 payload baseline diff snapshotId eventId now).2 = some event) :
    event = newDriftEvent payload.sourceId baseline.baselineSnapshotId snapshotId diff := by
  unfold afterComparison at h
  split at h
  · cases h
  · simp only at h
    split at h
    · exact (Option.some.inj h).symm
    · cases h

/-- The calls that confirm are those whose comparison makes an event. -/
theorem confirms_compared {payload : ContractSnapshotCreate} (createdAt now : Int)
    {source : SourceProfile} {id : Nat} {baseline : ContractBaseline} {base : ContractSnapshot}
    (collisionFree : Function.Injective sha256) (consistent : Consistent db)
    (lawful : Lawful sha256 history db) (live : db.liveSource payload.sourceId = some source)
    (active : getActiveContractBaseline db payload.sourceId = some (id, baseline))
    (stored : db.snapshots.get baseline.baselineSnapshotId = some base) :
    (afterComparison sha256 payload baseline
        (diffContract (structureOf base.payloadSchema) (structureOf payload.payloadSchema))
        db.snapshots.nextId db.driftEvents.nextId now).2.isSome = true ↔
      Confirms sha256 history db (.create payload createdAt now) payload.sourceId
        db.snapshots.nextId (structureOf payload.payloadSchema) baseline base := by
  obtain ⟨base', stored', law⟩ := lawful _ _ _ (active_of_get active)
  obtain rfl := Option.some.inj (stored.symm.trans stored')
  have since : snapshotsSince sha256 payload.sourceId ((db, .create payload createdAt now) :: history) =
      _ := snapshotsSince_compared consistent live active stored
  refine (law.compared collisionFree _ _ _ _).2.trans ?_
  rw [← since]
  constructor
  · rintro ⟨differs, reaches⟩
    exact ⟨storedSnapshot_compared live active stored, ⟨id, active⟩, stored, differs, reaches⟩
  · intro confirms
    exact ⟨confirms.differs, confirms.reaches⟩

/-- A call that confirms inserts the event, and the run was shorter before. -/
theorem Confirms.creates {sourceId snapshotId : Nat} {flat : FlatSchema}
    {baseline : ContractBaseline} {base : ContractSnapshot}
    (confirms : Confirms sha256 history db label sourceId snapshotId flat baseline base)
    (collisionFree : Function.Injective sha256) (consistent : Consistent db)
    (lawful : Lawful sha256 history db) :
    runLength flat (snapshotsSince sha256 sourceId history) < contractBaselineConfirmationPolls ∧
      (call sha256 db label).driftEvents = db.driftEvents.insert
        (newDriftEvent sourceId baseline.baselineSnapshotId snapshotId
          (diffContract (structureOf base.payloadSchema) flat)) := by
  obtain ⟨id, active⟩ := confirms.active
  have reaches := confirms.reaches
  rw [snapshotsSince_cons consistent confirms.stored active, runLength_cons_self] at reaches
  refine ⟨by omega, ?_⟩
  have own : label.sourceId = sourceId := sourceId_of_stored confirms.stored
  subst own
  have effect : Effect sha256 db label (call sha256 db label) := consistent.effect
  generalize is : call sha256 db label = db' at effect
  cases effect with
  | refused nothing => exact nomatch (nothing _).symm.trans confirms.stored
  | first _ none => exact nomatch none.symm.trans active
  | accepted _ _ _ _ => exact nomatch confirms.stored
  | @compared payload createdAt now source id' baseline' base' live active' stored =>
    obtain ⟨rfl, rfl⟩ := Prod.mk.inj (Option.some.inj (active'.symm.trans active))
    obtain rfl := Option.some.inj (stored.symm.trans confirms.based)
    obtain ⟨rfl, rfl⟩ := Prod.mk.inj (Option.some.inj
      ((storedSnapshot_compared live active' stored).symm.trans confirms.stored))
    have made := (confirms_compared createdAt now collisionFree consistent lawful live active'
      stored).mpr confirms
    obtain ⟨event, created⟩ := Option.isSome_iff_exists.mp made
    obtain rfl := eq_newDriftEvent created
    simp only [compareWithBaseline, created, Label.sourceId]

/-- Every other call leaves the drift events as they are. -/
theorem driftEvents_kept (collisionFree : Function.Injective sha256) (consistent : Consistent db)
    (lawful : Lawful sha256 history db)
    (never : ∀ sourceId snapshotId flat baseline base,
      ¬ Confirms sha256 history db label sourceId snapshotId flat baseline base) :
    (call sha256 db label).driftEvents = db.driftEvents := by
  have effect : Effect sha256 db label (call sha256 db label) := consistent.effect
  generalize is : call sha256 db label = db' at effect
  cases effect with
  | refused _ => rfl
  | first _ _ => rfl
  | accepted _ _ _ _ => rfl
  | @compared payload createdAt now source id baseline base live active stored =>
    have confirms_of := (confirms_compared createdAt now collisionFree consistent lawful live active
      stored).mp
    cases made : (afterComparison sha256 payload baseline
        (diffContract (structureOf base.payloadSchema) (structureOf payload.payloadSchema))
        db.snapshots.nextId db.driftEvents.nextId now).2 with
    | none => simp only [compareWithBaseline, made]
    | some event => exact absurd (confirms_of (by rw [made]; rfl)) (never _ _ _ _ _)

end Events

/-- A structure that does not differ ends the run of every structure that does. -/
theorem runLength_afresh {base flat other : FlatSchema} (back : (diffContract base flat).isEmpty = true)
    (differs : (diffContract base other).isEmpty = false) (id : Nat)
    (since : List (Nat × FlatSchema)) : runLength other ((id, flat) :: since) = 0 := by
  refine runLength_cons_of_ne ?_ id since
  rintro rfl
  rw [back] at differs
  cases differs

/-- **The candidate of a baseline along every run.** The active baseline of a
source has a candidate exactly when the latest snapshot since it became active
differs from it; the candidate is then this snapshot, observed as often as its
structure has been seen in a row. The calls at which a run of a differing
structure first reaches its confirmation insert its drift event, the other calls
insert none, and a snapshot that does not differ ends every run. -/
theorem contract_candidate {sha256 : String → String} (collisionFree : Function.Injective sha256)
    {sources : Rows SourceProfile} {history : List (ContractDb × Label)} {db : ContractDb}
    (run : Run (next sha256) (initial sources) history db) :
    (∀ sourceId id baseline, getActiveContractBaseline db sourceId = some (id, baseline) →
      ∃ base, db.snapshots.get baseline.baselineSnapshotId = some base ∧
        CandidateLaw sha256 (structureOf base.payloadSchema)
          (snapshotsSince sha256 sourceId history) baseline) ∧
    (∀ label sourceId snapshotId flat baseline base,
      Confirms sha256 history db label sourceId snapshotId flat baseline base →
        runLength flat (snapshotsSince sha256 sourceId history) <
            contractBaselineConfirmationPolls ∧
          (call sha256 db label).driftEvents = db.driftEvents.insert
            (newDriftEvent sourceId baseline.baselineSnapshotId snapshotId
              (diffContract (structureOf base.payloadSchema) flat))) ∧
    (∀ label, (∀ sourceId snapshotId flat baseline base,
        ¬ Confirms sha256 history db label sourceId snapshotId flat baseline base) →
      (call sha256 db label).driftEvents = db.driftEvents) ∧
    (∀ label sourceId snapshotId flat baseline base,
      storedSnapshot sha256 db label sourceId = some (snapshotId, flat) →
      (∃ id, getActiveContractBaseline db sourceId = some (id, baseline)) →
      db.snapshots.get baseline.baselineSnapshotId = some base →
      (diffContract (structureOf base.payloadSchema) flat).isEmpty = true →
      ∀ other, (diffContract (structureOf base.payloadSchema) other).isEmpty = false →
        runLength other (snapshotsSince sha256 sourceId ((db, label) :: history)) = 0) := by
  have consistent := consistent_of_run run
  have lawful := lawful_of_run collisionFree run
  refine ⟨?_, ?_, ?_, ?_⟩
  · intro sourceId id baseline active
    exact lawful sourceId id baseline (active_of_get active)
  · intro label sourceId snapshotId flat baseline base confirms
    exact confirms.creates collisionFree consistent lawful
  · intro label never
    exact driftEvents_kept collisionFree consistent lawful never
  · rintro label sourceId snapshotId flat baseline base stored ⟨id, active⟩ - back other differs
    rw [snapshotsSince_cons consistent stored active]
    exact runLength_afresh back differs _ _

/-! ### A run -/

def pollSource : Rows SourceProfile :=
  Rows.empty.insert { id := 1, name := "orders", baseUrl := "https://orders.example", tenantId := none }

def poll (field : String) (time : Int) : Label :=
  .create { sourceId := 1, payloadSchema := [(field, .null)] } time time

/-- The field is renamed, and three polls see the new name. -/
def renamedLabels : List Label := [poll "name" 1, poll "title" 2, poll "title" 3, poll "title" 4]

/-- The candidate is confirmed by the third poll. -/
theorem contract_candidate_confirmed :
    ∃ (history : List (ContractDb × Label)) (db : ContractDb) (baseline : ContractBaseline)
      (base : ContractSnapshot) (event : DriftEvent),
      Run (next id) (initial pollSource) history db ∧
      getActiveContractBaseline db 1 = some (1, baseline) ∧
      CandidateLaw id (structureOf base.payloadSchema) (snapshotsSince id 1 history) baseline ∧
      baseline.candidateObservationCount = 3 ∧ db.driftEvents.get 1 = some event ∧
      event.previousSnapshotId = baseline.baselineSnapshotId ∧ event.currentSnapshotId = 4 := by
  obtain ⟨history, run⟩ := run_of_isSome
    (show (finalState (next id) (initial pollSource) renamedLabels).isSome = true from rfl)
  obtain ⟨base, -, law⟩ := (contract_candidate Function.injective_id run).1 1 1 _ rfl
  exact ⟨history, _, _, base, _, run, rfl, law, rfl, rfl, rfl, rfl⟩

end ApiObservatory.ContractDrift
