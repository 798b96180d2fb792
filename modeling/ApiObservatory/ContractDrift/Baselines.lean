import ApiObservatory.Foundation.Run
import ApiObservatory.Repositories.ContractDrift

/-
Runs of `create_contract_snapshot` and `accept_contract_baseline`, one call
after another, over any number of sources.

A source has at most one active baseline, which is the row that the query for
it returns, whatever order it reads them in. The equations at the end say what
each kind of call does to the database.
-/

namespace ApiObservatory.ContractDrift

open Foundation

/-! ### Calls -/

/-- The structure of a payload. -/
def structureOf (payload : Payload) : FlatSchema := flattenSchema payload ""

inductive Label where
  | create (payload : ContractSnapshotCreate) (createdAt now : Int)
  | accept (sourceId : Nat) (actor : String) (acceptanceNote : Option String)
      (candidateSnapshotId : Option Nat) (now : Int)

def Label.sourceId : Label → Nat
  | .create payload _ _ => payload.sourceId
  | .accept sourceId _ _ _ _ => sourceId

/-- The database after one call. A call that raises changes nothing. -/
def call (sha256 : String → String) (db : ContractDb) : Label → ContractDb
  | .create payload createdAt now =>
      match createContractSnapshot sha256 db payload createdAt now with
      | .error _ => db
      | .ok result => result.db
  | .accept sourceId actor acceptanceNote candidateSnapshotId now =>
      match acceptBaseline db sourceId actor acceptanceNote candidateSnapshotId now with
      | .error _ => db
      | .ok db' => db'

def next (sha256 : String → String) (db : ContractDb) (label : Label) : Option ContractDb :=
  some (call sha256 db label)

/-- The snapshot a call stores for the source, with its structure. -/
def storedSnapshot (sha256 : String → String) (db : ContractDb) (label : Label) (sourceId : Nat) :
    Option (Nat × FlatSchema) :=
  match label with
  | .accept .. => none
  | .create payload createdAt now =>
      if payload.sourceId = sourceId then
        match createContractSnapshot sha256 db payload createdAt now with
        | .error _ => none
        | .ok result => result.snapshot.map fun entry => (entry.1, structureOf entry.2.payloadSchema)
      else none

/-- Sources without any snapshot, baseline or drift event. -/
def initial (sources : Rows SourceProfile) : ContractDb := ⟨sources, .empty, .empty, .empty⟩

/-! ### Active baselines -/

/-- The baseline `baseline` under `id` is active for the source. -/
def Active (baselines : Rows ContractBaseline) (sourceId id : Nat) (baseline : ContractBaseline) :
    Prop :=
  baselines.get id = some baseline ∧ baseline.isActive sourceId = true

/-- The id of the active baseline of the source. -/
def activeId (db : ContractDb) (sourceId : Nat) : Option Nat :=
  (getActiveContractBaseline db sourceId).map Prod.fst

def UniqueActive (baselines : Rows ContractBaseline) : Prop :=
  ∀ ⦃sourceId id id' baseline baseline'⦄, Active baselines sourceId id baseline →
    Active baselines sourceId id' baseline' → id = id'

section Active

variable {db db' : ContractDb} {baselines : Rows ContractBaseline} {sourceId id : Nat}
  {baseline new : ContractBaseline}

theorem sourceId_of_isActive (h : baseline.isActive sourceId = true) :
    baseline.sourceId = sourceId := by
  simp only [ContractBaseline.isActive, Bool.and_eq_true, beq_iff_eq] at h
  exact h.1.1

theorem active_of_get (h : getActiveContractBaseline db sourceId = some (id, baseline)) :
    Active db.baselines sourceId id baseline :=
  Rows.mem_select.mp (List.mem_of_head? h)

theorem not_active_of_get (h : getActiveContractBaseline db sourceId = none) :
    ¬ Active db.baselines sourceId id baseline := by
  intro active
  have mem : (id, baseline) ∈ db.baselines.select fun _ b => b.isActive sourceId :=
    Rows.mem_select.mpr active
  rw [List.head?_eq_none_iff.mp h] at mem
  cases mem

/-- The active baseline is the one the query returns. -/
theorem get_of_active (unique : UniqueActive db.baselines)
    (active : Active db.baselines sourceId id baseline) :
    getActiveContractBaseline db sourceId = some (id, baseline) := by
  cases found : getActiveContractBaseline db sourceId with
  | none => exact absurd active (not_active_of_get found)
  | some entry =>
    obtain ⟨i, other⟩ := entry
    have here := active_of_get found
    obtain rfl : i = id := unique here active
    obtain rfl : other = baseline := Option.some.inj (here.1.symm.trans active.1)
    rfl

/-- The query depends only on the active baselines of its source. -/
theorem get_congr (unique : UniqueActive db'.baselines)
    (same : ∀ id baseline, Active db'.baselines sourceId id baseline ↔
      Active db.baselines sourceId id baseline) :
    getActiveContractBaseline db' sourceId = getActiveContractBaseline db sourceId := by
  cases found : getActiveContractBaseline db sourceId with
  | some entry => exact get_of_active unique ((same _ _).mpr (active_of_get found))
  | none =>
    cases found' : getActiveContractBaseline db' sourceId with
    | none => rfl
    | some entry => exact absurd ((same _ _).mp (active_of_get found')) (not_active_of_get found)

theorem active_modify_of_ne {i : Nat} {other : ContractBaseline} (ne : i ≠ id) :
    Active (baselines.modify id fun _ => new) sourceId i other ↔
      Active baselines sourceId i other := by
  simp [Active, Rows.get_modify_of_ne _ ne]

/-- A changed baseline is none of another source. -/
theorem active_modify_foreign {i : Nat} {other : ContractBaseline}
    (stored : baselines.get id = some baseline)
    (weaker : new.isActive sourceId = true → baseline.isActive sourceId = true)
    (foreign : baseline.sourceId ≠ sourceId) :
    Active (baselines.modify id fun _ => new) sourceId i other ↔
      Active baselines sourceId i other := by
  by_cases e : i = id
  · subst e
    have never : baseline.isActive sourceId ≠ true := fun is => foreign (sourceId_of_isActive is)
    constructor
    · rintro ⟨here, active⟩
      obtain rfl : new = other := by simpa [stored] using here
      exact absurd (weaker active) never
    · rintro ⟨here, active⟩
      obtain rfl : baseline = other := Option.some.inj (stored.symm.trans here)
      exact absurd active never
  · exact active_modify_of_ne e

/-- A change that makes no baseline active keeps them unique. -/
theorem UniqueActive.modify (unique : UniqueActive baselines)
    (stored : baselines.get id = some baseline)
    (weaker : ∀ sourceId, new.isActive sourceId = true → baseline.isActive sourceId = true) :
    UniqueActive (baselines.modify id fun _ => new) := by
  have before : ∀ {s i other}, Active (baselines.modify id fun _ => new) s i other →
      ∃ old, Active baselines s i old := by
    intro s i other active
    by_cases e : i = id
    · subst e
      obtain rfl : new = other := by
        have here := active.1
        rw [Rows.get_modify_self, stored] at here
        exact Option.some.inj here
      exact ⟨baseline, stored, weaker s active.2⟩
    · exact ⟨other, (active_modify_of_ne e).mp active⟩
  intro s i i' other other' active active'
  obtain ⟨old, was⟩ := before active
  obtain ⟨old', was'⟩ := before active'
  exact unique was was'

theorem active_insert {i : Nat} {other : ContractBaseline} :
    Active (baselines.insert new) sourceId i other ↔
      (i = baselines.nextId ∧ other = new ∧ new.isActive sourceId = true) ∨
        Active baselines sourceId i other := by
  constructor
  · rintro ⟨stored, active⟩
    rcases Rows.get_insert_cases stored with ⟨rfl, rfl⟩ | ⟨-, old⟩
    · exact Or.inl ⟨rfl, rfl, active⟩
    · exact Or.inr ⟨old, active⟩
  · rintro (⟨rfl, rfl, active⟩ | ⟨stored, active⟩)
    · exact ⟨Rows.get_insert_self _ _, active⟩
    · exact ⟨Rows.get_insert_of_some stored, active⟩

/-- A new active baseline for a source that has none. -/
theorem UniqueActive.insert (unique : UniqueActive baselines)
    (none : ∀ {i other}, new.isActive sourceId = true → ¬ Active baselines sourceId i other)
    (source : new.sourceId = sourceId) : UniqueActive (baselines.insert new) := by
  intro s i i' other other' active active'
  have own : new.isActive s = true → s = sourceId := fun is =>
    (sourceId_of_isActive is).symm.trans source
  rcases active_insert.mp active with ⟨rfl, rfl, is⟩ | old
  · rcases active_insert.mp active' with ⟨rfl, -, -⟩ | old'
    · rfl
    · obtain rfl := own is
      exact absurd old' (none is)
  · rcases active_insert.mp active' with ⟨rfl, rfl, is⟩ | old'
    · obtain rfl := own is
      exact absurd old (none is)
    · exact unique old old'

end Active

/-! ### What a call does -/

section Calls

variable {sha256 : String → String} {db : ContractDb} {payload : ContractSnapshotCreate}
  {createdAt now : Int}

theorem create_absent (absent : db.liveSource payload.sourceId = none) :
    createContractSnapshot sha256 db payload createdAt now = .ok ⟨db, none, none⟩ := by
  simp only [createContractSnapshot, absent]

theorem create_first {source : SourceProfile} (live : db.liveSource payload.sourceId = some source)
    (none : getActiveContractBaseline db payload.sourceId = none) :
    createContractSnapshot sha256 db payload createdAt now =
      .ok
        { db := { db with
            snapshots := db.snapshots.insert (newSnapshot sha256 payload createdAt)
            baselines := db.baselines.insert
              (firstBaseline source payload.sourceId db.snapshots.nextId now) }
          snapshot := some (db.snapshots.nextId, newSnapshot sha256 payload createdAt)
          driftEvent := .none } := by
  simp only [createContractSnapshot, live, none]

theorem create_compared {source : SourceProfile} {id : Nat} {baseline : ContractBaseline}
    {base : ContractSnapshot} (live : db.liveSource payload.sourceId = some source)
    (active : getActiveContractBaseline db payload.sourceId = some (id, baseline))
    (stored : db.snapshots.get baseline.baselineSnapshotId = some base) :
    createContractSnapshot sha256 db payload createdAt now =
      .ok (compareWithBaseline sha256 db payload (newSnapshot sha256 payload createdAt) id baseline
        (diffContract (structureOf base.payloadSchema) (structureOf payload.payloadSchema)) now) := by
  simp only [createContractSnapshot, live, active, Rows.get_insert_of_some stored, structureOf]

/-- What an acceptance needs to succeed, and the baselines it leaves. -/
theorem accept_ok {sourceId : Nat} {actor : String} {acceptanceNote : Option String}
    {candidateSnapshotId : Option Nat} {db' : ContractDb}
    (h : acceptBaseline db sourceId actor acceptanceNote candidateSnapshotId now = .ok db') :
    ∃ id baseline selected candidate,
      getActiveContractBaseline db sourceId = some (id, baseline) ∧
      baseline.candidateSnapshotId = some selected ∧ db.snapshots.get selected = some candidate ∧
      candidate.sourceId = baseline.sourceId ∧
      db' = { db with
        baselines := (db.baselines.modify id fun _ => supersededBaseline baseline now).insert
          (promotedBaseline id baseline selected actor acceptanceNote now) } := by
  unfold acceptBaseline at h
  split at h
  · cases h
  · rename_i id baseline active
    unfold acceptContractBaseline at h
    split at h
    · rename_i selected current chosen is
      split at h
      · cases h
      · rename_i agrees
        obtain rfl := Decidable.not_not.mp agrees
        split at h
        · cases h
        · rename_i candidate found
          obtain ⟨stored, owned⟩ := Option.filter_eq_some_iff.mp found
          cases h
          exact ⟨id, baseline, selected, candidate, active, is, stored, beq_iff_eq.mp owned, rfl⟩
    · cases h

end Calls

/-! ### The baseline a call leaves -/

section Kept

variable {sha256 : String → String}

@[simp] theorem isActive_clearCandidate (baseline : ContractBaseline) (sourceId : Nat) :
    baseline.clearCandidate.isActive sourceId = baseline.isActive sourceId := rfl

@[simp] theorem isActive_observeCandidate (baseline : ContractBaseline) (fingerprint : String)
    (id : Nat) (now : Int) (sourceId : Nat) :
    (baseline.observeCandidate fingerprint id now).isActive sourceId =
      baseline.isActive sourceId := by
  unfold ContractBaseline.observeCandidate
  split <;> rfl

@[simp] theorem baselineSnapshotId_observeCandidate (baseline : ContractBaseline)
    (fingerprint : String) (id : Nat) (now : Int) :
    (baseline.observeCandidate fingerprint id now).baselineSnapshotId =
      baseline.baselineSnapshotId := by
  unfold ContractBaseline.observeCandidate
  split <;> rfl

@[simp] theorem isActive_afterComparison (payload : ContractSnapshotCreate)
    (baseline : ContractBaseline) (diff : ContractDiff) (snapshotId eventId : Nat) (now : Int)
    (sourceId : Nat) :
    (afterComparison sha256 payload baseline diff snapshotId eventId now).1.isActive sourceId =
      baseline.isActive sourceId := by
  unfold afterComparison
  split
  · rfl
  · simp only
    split
    · exact isActive_observeCandidate baseline _ snapshotId now sourceId
    · exact isActive_observeCandidate baseline _ snapshotId now sourceId

@[simp] theorem baselineSnapshotId_afterComparison (payload : ContractSnapshotCreate)
    (baseline : ContractBaseline) (diff : ContractDiff) (snapshotId eventId : Nat) (now : Int) :
    (afterComparison sha256 payload baseline diff snapshotId eventId now).1.baselineSnapshotId =
      baseline.baselineSnapshotId := by
  unfold afterComparison
  split
  · rfl
  · simp only
    split
    · exact baselineSnapshotId_observeCandidate baseline _ snapshotId now
    · exact baselineSnapshotId_observeCandidate baseline _ snapshotId now

theorem isActive_firstBaseline {source : SourceProfile} {own snapshotId : Nat} {now : Int}
    {sourceId : Nat} :
    (firstBaseline source own snapshotId now).isActive sourceId = true ↔ own = sourceId := by
  simp [ContractBaseline.isActive, firstBaseline]

theorem isActive_promotedBaseline {id candidateId : Nat} {baseline : ContractBaseline}
    {actor : String} {acceptanceNote : Option String} {now : Int} {sourceId : Nat} :
    (promotedBaseline id baseline candidateId actor acceptanceNote now).isActive sourceId = true ↔
      baseline.sourceId = sourceId := by
  simp [ContractBaseline.isActive, promotedBaseline]

@[simp] theorem isActive_supersededBaseline (baseline : ContractBaseline) (now : Int)
    (sourceId : Nat) : (supersededBaseline baseline now).isActive sourceId = false := by
  simp [ContractBaseline.isActive, supersededBaseline]

end Kept

/-! ### The effects of a call -/

/-- Every active baseline has its snapshot, and is the only one of its source. -/
structure Consistent (db : ContractDb) : Prop where
  unique : UniqueActive db.baselines
  based : ∀ {sourceId id baseline}, Active db.baselines sourceId id baseline →
    ∃ base, db.snapshots.get baseline.baselineSnapshotId = some base

/-- The ways a call changes the database. -/
inductive Effect (sha256 : String → String) (db : ContractDb) : Label → ContractDb → Prop where
  | refused {label : Label}
      (nothing : ∀ sourceId, storedSnapshot sha256 db label sourceId = none) :
      Effect sha256 db label db
  | first {payload : ContractSnapshotCreate} {createdAt now : Int} {source : SourceProfile}
      (live : db.liveSource payload.sourceId = some source)
      (none : getActiveContractBaseline db payload.sourceId = none) :
      Effect sha256 db (.create payload createdAt now)
        { db with
          snapshots := db.snapshots.insert (newSnapshot sha256 payload createdAt)
          baselines := db.baselines.insert
            (firstBaseline source payload.sourceId db.snapshots.nextId now) }
  | compared {payload : ContractSnapshotCreate} {createdAt now : Int} {source : SourceProfile}
      {id : Nat} {baseline : ContractBaseline} {base : ContractSnapshot}
      (live : db.liveSource payload.sourceId = some source)
      (active : getActiveContractBaseline db payload.sourceId = some (id, baseline))
      (stored : db.snapshots.get baseline.baselineSnapshotId = some base) :
      Effect sha256 db (.create payload createdAt now)
        (compareWithBaseline sha256 db payload (newSnapshot sha256 payload createdAt) id baseline
          (diffContract (structureOf base.payloadSchema) (structureOf payload.payloadSchema))
          now).db
  | accepted {sourceId : Nat} {actor : String} {acceptanceNote : Option String}
      {candidateSnapshotId : Option Nat} {now : Int} {id selected : Nat}
      {baseline : ContractBaseline} {candidate : ContractSnapshot}
      (active : getActiveContractBaseline db sourceId = some (id, baseline))
      (chosen : baseline.candidateSnapshotId = some selected)
      (stored : db.snapshots.get selected = some candidate)
      (owned : candidate.sourceId = baseline.sourceId) :
      Effect sha256 db (.accept sourceId actor acceptanceNote candidateSnapshotId now)
        { db with
          baselines := (db.baselines.modify id fun _ => supersededBaseline baseline now).insert
            (promotedBaseline id baseline selected actor acceptanceNote now) }

section Effects

variable {sha256 : String → String} {db db' : ContractDb} {label : Label}

/-- Every call has one of the effects. -/
theorem Consistent.effect (consistent : Consistent db) :
    Effect sha256 db label (call sha256 db label) := by
  cases label with
  | create payload createdAt now =>
    cases live : db.liveSource payload.sourceId with
    | none =>
      have is : createContractSnapshot sha256 db payload createdAt now = .ok ⟨db, none, none⟩ :=
        create_absent live
      have same : call sha256 db (.create payload createdAt now) = db := by
        simp only [call, is]
      rw [same]
      exact .refused fun sourceId => by simp [storedSnapshot, is]
    | some source =>
      cases found : getActiveContractBaseline db payload.sourceId with
      | none =>
        simp only [call, create_first live found]
        exact .first live found
      | some entry =>
        obtain ⟨id, baseline⟩ := entry
        obtain ⟨base, stored⟩ := consistent.based (active_of_get found)
        simp only [call, create_compared live found stored]
        exact .compared live found stored
  | accept sourceId actor acceptanceNote candidateSnapshotId now =>
    cases done : acceptBaseline db sourceId actor acceptanceNote candidateSnapshotId now with
    | error text =>
      simp only [call, done]
      exact .refused fun _ => rfl
    | ok after =>
      obtain ⟨id, baseline, selected, candidate, active, chosen, stored, owned, rfl⟩ := accept_ok done
      simp only [call, done]
      exact .accepted active chosen stored owned

/-- Stored snapshots stay as they are. -/
theorem Effect.snapshot_kept (effect : Effect sha256 db label db') {id : Nat}
    {snapshot : ContractSnapshot} (stored : db.snapshots.get id = some snapshot) :
    db'.snapshots.get id = some snapshot := by
  cases effect with
  | refused _ => exact stored
  | first _ _ => exact Rows.get_insert_of_some stored
  | compared _ _ _ => exact Rows.get_insert_of_some stored
  | accepted _ _ _ _ => exact stored

/-- Baselines of other sources are not touched. -/
theorem Effect.other (effect : Effect sha256 db label db') {sourceId : Nat}
    (ne : label.sourceId ≠ sourceId) {i : Nat} {other : ContractBaseline} :
    Active db'.baselines sourceId i other ↔ Active db.baselines sourceId i other := by
  cases effect with
  | refused _ => rfl
  | first live none =>
    refine active_insert.trans (or_iff_right ?_)
    rintro ⟨-, -, is⟩
    exact ne (isActive_firstBaseline.mp is)
  | compared live active stored =>
    have here := active_of_get active
    refine active_modify_foreign here.1 ?_ ?_
    · rw [isActive_afterComparison]
      exact id
    · rw [sourceId_of_isActive here.2]
      exact ne
  | accepted active chosen stored owned =>
    have here := active_of_get active
    refine active_insert.trans ((or_iff_right ?_).trans (active_modify_foreign here.1 ?_ ?_))
    · rintro ⟨-, -, is⟩
      rw [isActive_promotedBaseline, sourceId_of_isActive here.2] at is
      exact ne is
    · simp
    · rw [sourceId_of_isActive here.2]
      exact ne

/-- After an acceptance the promoted baseline is the only active one. -/
theorem not_active_superseded {sourceId id : Nat} {baseline : ContractBaseline} {now : Int}
    (unique : UniqueActive db.baselines) (here : Active db.baselines sourceId id baseline) {i : Nat}
    {other : ContractBaseline} :
    ¬ Active (db.baselines.modify id fun _ => supersededBaseline baseline now) sourceId i
      other := by
  intro active
  by_cases e : i = id
  · subst e
    obtain ⟨stored, is⟩ := active
    obtain rfl : supersededBaseline baseline now = other := by simpa [here.1] using stored
    simp at is
  · exact e (unique ((active_modify_of_ne e).mp active) here)

/-- The active baseline of the source after a call that finds none. -/
theorem active_first {source : SourceProfile} {sourceId snapshotId : Nat} {now : Int}
    (none : getActiveContractBaseline db sourceId = none) {i : Nat} {other : ContractBaseline} :
    Active (db.baselines.insert (firstBaseline source sourceId snapshotId now)) sourceId i other ↔
      i = db.baselines.nextId ∧ other = firstBaseline source sourceId snapshotId now := by
  refine active_insert.trans ?_
  constructor
  · rintro (⟨same, is, -⟩ | old)
    · exact ⟨same, is⟩
    · exact absurd old (not_active_of_get none)
  · rintro ⟨rfl, rfl⟩
    exact Or.inl ⟨rfl, rfl, isActive_firstBaseline.mpr rfl⟩

/-- The active baseline of the source after an acceptance. -/
theorem active_promoted {sourceId id selected : Nat} {baseline : ContractBaseline} {actor : String}
    {acceptanceNote : Option String} {now : Int} (unique : UniqueActive db.baselines)
    (here : Active db.baselines sourceId id baseline) {i : Nat} {other : ContractBaseline} :
    Active ((db.baselines.modify id fun _ => supersededBaseline baseline now).insert
        (promotedBaseline id baseline selected actor acceptanceNote now)) sourceId i other ↔
      i = db.baselines.nextId ∧
        other = promotedBaseline id baseline selected actor acceptanceNote now := by
  refine active_insert.trans ?_
  constructor
  · rintro (⟨same, is, -⟩ | old)
    · exact ⟨same, is⟩
    · exact absurd old (not_active_superseded unique here)
  · rintro ⟨rfl, rfl⟩
    exact Or.inl ⟨rfl, rfl, isActive_promotedBaseline.mpr (sourceId_of_isActive here.2)⟩

/-- The active baseline of the source after a comparison. -/
theorem active_compared {sourceId id : Nat} {baseline new : ContractBaseline}
    (unique : UniqueActive db.baselines) (here : Active db.baselines sourceId id baseline)
    (still : new.isActive sourceId = true) {i : Nat} {other : ContractBaseline} :
    Active (db.baselines.modify id fun _ => new) sourceId i other ↔ i = id ∧ other = new := by
  by_cases e : i = id
  · subst e
    simp only [Active, Rows.get_modify_self, here.1, Option.map_some, Option.some.injEq, true_and]
    constructor
    · rintro ⟨rfl, -⟩
      rfl
    · rintro rfl
      exact ⟨rfl, still⟩
  · refine (active_modify_of_ne e).trans ⟨fun active => absurd (unique active here) e, ?_⟩
    rintro ⟨same, -⟩
    exact absurd same e

theorem Effect.unique (effect : Effect sha256 db label db') (unique : UniqueActive db.baselines) :
    UniqueActive db'.baselines := by
  cases effect with
  | refused _ => exact unique
  | first live none => exact unique.insert (fun _ => not_active_of_get none) rfl
  | compared live active stored =>
    refine unique.modify (active_of_get active).1 fun sourceId is => ?_
    rwa [isActive_afterComparison] at is
  | accepted active chosen stored owned =>
    have here := active_of_get active
    have own := sourceId_of_isActive here.2
    refine UniqueActive.insert ?_ (fun _ => not_active_superseded unique here) own
    exact unique.modify here.1 (by simp)

theorem Effect.based (effect : Effect sha256 db label db') (consistent : Consistent db)
    {sourceId i : Nat} {other : ContractBaseline} (active' : Active db'.baselines sourceId i other) :
    ∃ base, db'.snapshots.get other.baselineSnapshotId = some base := by
  have kept : ∀ {i other}, Active db.baselines sourceId i other →
      ∃ base, db'.snapshots.get other.baselineSnapshotId = some base := by
    intro i other active
    obtain ⟨base, stored⟩ := consistent.based active
    exact ⟨base, effect.snapshot_kept stored⟩
  by_cases own : label.sourceId = sourceId
  · subst own
    cases effect with
    | refused _ => exact consistent.based active'
    | first live none =>
      obtain ⟨-, rfl⟩ := (active_first none).mp active'
      exact ⟨_, Rows.get_insert_self _ _⟩
    | compared live active stored =>
      have here := active_of_get active
      obtain ⟨-, rfl⟩ := (active_compared consistent.unique here (by simp [here.2])).mp active'
      rw [baselineSnapshotId_afterComparison]
      exact ⟨_, Rows.get_insert_of_some stored⟩
    | accepted active chosen stored owned =>
      obtain ⟨-, rfl⟩ := (active_promoted consistent.unique (active_of_get active)).mp active'
      exact ⟨_, stored⟩
  · exact kept ((effect.other own).mp active')

theorem Consistent.after_call (consistent : Consistent db) : Consistent (call sha256 db label) :=
  ⟨consistent.effect.unique consistent.unique,
    fun active => consistent.effect.based consistent active⟩

end Effects

/-- **Consistent.** In every reached state a source has at most one active
baseline, and its snapshot is stored. -/
theorem consistent_of_run {sha256 : String → String} {sources : Rows SourceProfile}
    {history : List (ContractDb × Label)} {db : ContractDb}
    (run : Run (next sha256) (initial sources) history db) : Consistent db := by
  have none : ∀ {sourceId id baseline}, ¬ Active (initial sources).baselines sourceId id baseline :=
    fun active => nomatch active.1
  refine Run.stateInvariant (I := Consistent) ⟨fun _ _ _ _ _ active => absurd active none,
    fun active => absurd active none⟩ ?_ run
  intro db label db' consistent step
  cases step
  exact consistent.after_call

end ApiObservatory.ContractDrift
