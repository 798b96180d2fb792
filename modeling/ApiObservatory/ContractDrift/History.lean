import ApiObservatory.ContractDrift.Candidate

/-
The accepted baselines of a source as its contract history.

The two writers of baselines keep one chain per source: the versions count up
from one, the last one is active, and each later one names the one before it as
the baseline it was promoted from. An acceptance that is rejected writes
nothing.
-/

namespace ApiObservatory.ContractDrift

open Foundation

/-! ### The history of a source -/

/-- The row of the source under `id`. -/
def Owned (baselines : Rows ContractBaseline) (sourceId id : Nat) (baseline : ContractBaseline) :
    Prop :=
  baselines.get id = some baseline ∧ baseline.sourceId = sourceId

/-- The baselines of the source are the versions `1` to `n`. -/
structure BaselineHistory (db : ContractDb) (sourceId n : Nat) : Prop where
  bounded : ∀ id baseline, Owned db.baselines sourceId id baseline →
    1 ≤ baseline.version ∧ baseline.version ≤ n
  complete : ∀ k, 1 ≤ k → k ≤ n → ∃ id baseline, Owned db.baselines sourceId id baseline ∧
    baseline.version = k
  once : ∀ id id' baseline baseline', Owned db.baselines sourceId id baseline →
    Owned db.baselines sourceId id' baseline' → baseline.version = baseline'.version → id = id'
  active : ∀ id baseline, Owned db.baselines sourceId id baseline →
    (baseline.isActive sourceId = true ↔ baseline.version = n)
  superseded : ∀ id baseline, Owned db.baselines sourceId id baseline → baseline.version < n →
    baseline.status = .superseded ∧ baseline.activeKey = none ∧
      baseline.supersededAt.isSome = true
  promoted : ∀ id baseline, Owned db.baselines sourceId id baseline → 1 < baseline.version →
    ∃ prior priorBaseline, baseline.promotedFromBaselineId = some prior ∧
      Owned db.baselines sourceId prior priorBaseline ∧
      priorBaseline.version + 1 = baseline.version
  referenced : ∀ id baseline, Owned db.baselines sourceId id baseline →
    ∃ snapshot, db.snapshots.get baseline.baselineSnapshotId = some snapshot ∧
      snapshot.sourceId = sourceId
  begun : ∀ id snapshot, db.snapshots.get id = some snapshot → snapshot.sourceId = sourceId → 1 ≤ n

/-- The baselines differ at most in their candidates. -/
def SameButCandidate (new old : ContractBaseline) : Prop := new.clearCandidate = old.clearCandidate

theorem SameButCandidate.eq {Field : Type} {new old : ContractBaseline}
    (same : SameButCandidate new old) (field : ContractBaseline → Field)
    (blind : ∀ baseline, field baseline.clearCandidate = field baseline) : field new = field old :=
  (blind new).symm.trans ((congrArg field same).trans (blind old))

section History

variable {sha256 : String → String} {db db' : ContractDb} {label : Label} {sourceId n : Nat}

theorem owned_of_active {id : Nat} {baseline : ContractBaseline}
    (active : Active db.baselines sourceId id baseline) :
    Owned db.baselines sourceId id baseline :=
  ⟨active.1, sourceId_of_isActive active.2⟩

/-- Once a baseline exists, exactly one is active. -/
theorem BaselineHistory.exists_unique_active (h : BaselineHistory db sourceId n) (some : 1 ≤ n) :
    ∃! id, ∃ baseline, Active db.baselines sourceId id baseline := by
  obtain ⟨id, baseline, owned, last⟩ := h.complete n some (Nat.le_refl n)
  refine ⟨id, ⟨baseline, owned.1, (h.active id baseline owned).mpr last⟩, ?_⟩
  rintro id' ⟨baseline', active'⟩
  have owned' := owned_of_active active'
  exact h.once id' id baseline' baseline owned' owned
    (((h.active id' baseline' owned').mp active'.2).trans last.symm)

/-- Without an active baseline the source has no baseline. -/
theorem BaselineHistory.eq_zero (h : BaselineHistory db sourceId n)
    (none : getActiveContractBaseline db sourceId = none) : n = 0 := by
  by_contra pos
  obtain ⟨id, ⟨baseline, active⟩, -⟩ := h.exists_unique_active (Nat.pos_of_ne_zero pos)
  exact not_active_of_get none active

theorem BaselineHistory.version_of_active (h : BaselineHistory db sourceId n) {id : Nat}
    {baseline : ContractBaseline} (active : Active db.baselines sourceId id baseline) :
    baseline.version = n :=
  (h.active id baseline (owned_of_active active)).mp active.2

/-- A history is read from the baselines of its source, whatever their candidates
are, and from the snapshots. -/
theorem BaselineHistory.congr (h : BaselineHistory db sourceId n)
    (back : ∀ {id new}, Owned db'.baselines sourceId id new →
      ∃ old, Owned db.baselines sourceId id old ∧ SameButCandidate new old)
    (forth : ∀ {id old}, Owned db.baselines sourceId id old →
      ∃ new, Owned db'.baselines sourceId id new ∧ SameButCandidate new old)
    (kept : ∀ {id snapshot}, db.snapshots.get id = some snapshot →
      db'.snapshots.get id = some snapshot)
    (begun : ∀ id snapshot, db'.snapshots.get id = some snapshot → snapshot.sourceId = sourceId →
      1 ≤ n) :
    BaselineHistory db' sourceId n := by
  have version : ∀ {new old : ContractBaseline}, SameButCandidate new old →
      new.version = old.version := fun same => same.eq ContractBaseline.version fun _ => rfl
  refine ⟨?_, ?_, ?_, ?_, ?_, ?_, ?_, begun⟩
  · intro id new owned
    obtain ⟨old, was, same⟩ := back owned
    rw [version same]
    exact h.bounded id old was
  · intro k low high
    obtain ⟨id, old, was, is⟩ := h.complete k low high
    obtain ⟨new, owned, same⟩ := forth was
    exact ⟨id, new, owned, (version same).trans is⟩
  · intro id id' new new' owned owned' equal
    obtain ⟨old, was, same⟩ := back owned
    obtain ⟨old', was', same'⟩ := back owned'
    rw [version same, version same'] at equal
    exact h.once id id' old old' was was' equal
  · intro id new owned
    obtain ⟨old, was, same⟩ := back owned
    have activity : new.isActive sourceId = old.isActive sourceId :=
      same.eq (ContractBaseline.isActive · sourceId) fun _ => rfl
    rw [activity, version same]
    exact h.active id old was
  · intro id new owned earlier
    obtain ⟨old, was, same⟩ := back owned
    rw [version same] at earlier
    rw [same.eq ContractBaseline.status fun _ => rfl, same.eq ContractBaseline.activeKey fun _ => rfl,
      same.eq ContractBaseline.supersededAt fun _ => rfl]
    exact h.superseded id old was earlier
  · intro id new owned later
    obtain ⟨old, was, same⟩ := back owned
    rw [version same] at later ⊢
    obtain ⟨prior, row, is, there, before⟩ := h.promoted id old was later
    obtain ⟨row', there', same'⟩ := forth there
    rw [same.eq ContractBaseline.promotedFromBaselineId fun _ => rfl]
    exact ⟨prior, row', is, there', version same' ▸ before⟩
  · intro id new owned
    obtain ⟨old, was, same⟩ := back owned
    obtain ⟨snapshot, stored, own⟩ := h.referenced id old was
    rw [same.eq ContractBaseline.baselineSnapshotId fun _ => rfl]
    exact ⟨snapshot, kept stored, own⟩

end History

/-! ### The effects on a history -/

section Effects

variable {sha256 : String → String} {db db' : ContractDb} {label : Label} {sourceId n id : Nat}
  {baselines : Rows ContractBaseline} {baseline new : ContractBaseline}

theorem owned_insert {i : Nat} {other : ContractBaseline} :
    Owned (baselines.insert new) sourceId i other ↔
      (i = baselines.nextId ∧ other = new ∧ new.sourceId = sourceId) ∨
        Owned baselines sourceId i other := by
  constructor
  · rintro ⟨stored, own⟩
    rcases Rows.get_insert_cases stored with ⟨rfl, rfl⟩ | ⟨-, old⟩
    · exact Or.inl ⟨rfl, rfl, own⟩
    · exact Or.inr ⟨old, own⟩
  · rintro (⟨rfl, rfl, own⟩ | ⟨stored, own⟩)
    · exact ⟨Rows.get_insert_self _ _, own⟩
    · exact ⟨Rows.get_insert_of_some stored, own⟩

theorem owned_modify (stored : baselines.get id = some baseline) {i : Nat}
    {other : ContractBaseline} :
    Owned (baselines.modify id fun _ => new) sourceId i other ↔
      (i = id ∧ other = new ∧ new.sourceId = sourceId) ∨
        (i ≠ id ∧ Owned baselines sourceId i other) := by
  by_cases e : i = id
  · subst e
    simp only [Owned, Rows.get_modify_self, stored, Option.map_some, Option.some.injEq, true_and,
      ne_eq, not_true_eq_false, false_and, or_false]
    constructor
    · rintro ⟨rfl, own⟩
      exact ⟨rfl, own⟩
    · rintro ⟨rfl, own⟩
      exact ⟨rfl, own⟩
  · simp [Owned, Rows.get_modify_of_ne _ e, e]

theorem get_modify_stored (stored : baselines.get id = some baseline) (i : Nat) :
    (baselines.modify id fun _ => new).get i = if i = id then some new else baselines.get i := by
  by_cases e : i = id
  · subst e
    simp [stored]
  · rw [Rows.get_modify_of_ne _ e, if_neg e]

/-- A comparison changes nothing but the candidate. -/
theorem sameButCandidate_afterComparison (payload : ContractSnapshotCreate)
    (baseline : ContractBaseline) (diff : ContractDiff) (snapshotId eventId : Nat) (now : Int) :
    SameButCandidate (afterComparison sha256 payload baseline diff snapshotId eventId now).1
      baseline := by
  have observed : ∀ fingerprint, SameButCandidate (baseline.observeCandidate fingerprint snapshotId
      now) baseline := by
    intro fingerprint
    unfold ContractBaseline.observeCandidate
    split
    · rfl
    · rfl
  unfold afterComparison
  split
  · rfl
  · simp only
    split
    · exact observed _
    · exact observed _

/-- A changed candidate, in any larger set of snapshots. -/
theorem BaselineHistory.recompared (h : BaselineHistory db sourceId n)
    (stored : db.baselines.get id = some baseline)
    (same : SameButCandidate new baseline)
    (rows : ∀ i, db'.baselines.get i = if i = id then some new else db.baselines.get i)
    (kept : ∀ {i snapshot}, db.snapshots.get i = some snapshot →
      db'.snapshots.get i = some snapshot)
    (begun : ∀ i snapshot, db'.snapshots.get i = some snapshot → snapshot.sourceId = sourceId →
      1 ≤ n) :
    BaselineHistory db' sourceId n := by
  have source : new.sourceId = baseline.sourceId :=
    same.eq ContractBaseline.sourceId fun _ => rfl
  refine h.congr ?_ ?_ kept begun
  · rintro i other ⟨there, own⟩
    rw [rows] at there
    split at there
    · rename_i here
      subst here
      obtain rfl := Option.some.inj there
      exact ⟨baseline, ⟨stored, source ▸ own⟩, same⟩
    · exact ⟨other, ⟨there, own⟩, rfl⟩
  · rintro i other ⟨there, own⟩
    by_cases e : i = id
    · subst e
      obtain rfl := Option.some.inj (stored.symm.trans there)
      exact ⟨new, ⟨by rw [rows, if_pos rfl], source.trans own⟩, same⟩
    · exact ⟨other, ⟨by rw [rows, if_neg e, there], own⟩, rfl⟩

/-- The first baseline of a source. -/
theorem baselineHistory_first
    (only : ∀ {i other}, Owned db'.baselines sourceId i other ↔ i = id ∧ other = new)
    (version : new.version = 1) (active : new.isActive sourceId = true)
    (referenced : ∃ snapshot, db'.snapshots.get new.baselineSnapshotId = some snapshot ∧
      snapshot.sourceId = sourceId) :
    BaselineHistory db' sourceId 1 := by
  refine ⟨?bounded, ?complete, ?once, ?active, ?superseded, ?promoted, ?referenced,
    fun _ _ _ _ => Nat.le_refl 1⟩
  case bounded =>
    intro i other owned
    obtain ⟨-, rfl⟩ := only.mp owned
    omega
  case complete =>
    intro k low high
    exact ⟨_, _, only.mpr ⟨rfl, rfl⟩, by omega⟩
  case once =>
    intro i i' other other' owned owned' _
    exact (only.mp owned).1.trans (only.mp owned').1.symm
  case active =>
    intro i other owned
    obtain ⟨-, rfl⟩ := only.mp owned
    exact iff_of_true active version
  case superseded =>
    intro i other owned earlier
    obtain ⟨-, rfl⟩ := only.mp owned
    omega
  case promoted =>
    intro i other owned later
    obtain ⟨-, rfl⟩ := only.mp owned
    omega
  case referenced =>
    intro i other owned
    obtain ⟨-, rfl⟩ := only.mp owned
    exact referenced

/-- An acceptance appends a version. -/
theorem BaselineHistory.accepted (h : BaselineHistory db sourceId n)
    (active : Active db.baselines sourceId id baseline) {newId : Nat}
    {superseded promoted : ContractBaseline}
    (rows : ∀ {i other}, Owned db'.baselines sourceId i other ↔
      (i = newId ∧ other = promoted) ∨ (i = id ∧ other = superseded) ∨
        (i ≠ id ∧ Owned db.baselines sourceId i other))
    (retired : superseded.version = n ∧ superseded.status = .superseded ∧ superseded.activeKey = none ∧
      superseded.supersededAt.isSome = true ∧
      superseded.promotedFromBaselineId = baseline.promotedFromBaselineId ∧
      superseded.baselineSnapshotId = baseline.baselineSnapshotId)
    (current : promoted.version = n + 1 ∧ promoted.isActive sourceId = true ∧
      promoted.promotedFromBaselineId = some id)
    (snapshots : ∀ i, db'.snapshots.get i = db.snapshots.get i)
    (referenced : ∃ snapshot, db.snapshots.get promoted.baselineSnapshotId = some snapshot ∧
      snapshot.sourceId = sourceId) :
    BaselineHistory db' sourceId (n + 1) := by
  obtain ⟨version, status, key, supersededAt, origin, reference⟩ := retired
  obtain ⟨version', active', origin'⟩ := current
  have was := owned_of_active active
  have last := h.version_of_active active
  have prior : Owned db'.baselines sourceId id superseded := rows.mpr (Or.inr (Or.inl ⟨rfl, rfl⟩))
  -- the version of a row that is not the new one is that of the row before
  have before : ∀ {i other}, (i = id ∧ other = superseded) ∨
      (i ≠ id ∧ Owned db.baselines sourceId i other) →
      ∃ old, Owned db.baselines sourceId i old ∧ old.version = other.version := by
    rintro i other (⟨rfl, rfl⟩ | ⟨-, old⟩)
    · exact ⟨baseline, was, last.trans version.symm⟩
    · exact ⟨other, old, rfl⟩
  have earlier : ∀ {i other}, i ≠ id → Owned db.baselines sourceId i other → other.version < n := by
    intro i other ne old
    refine Nat.lt_of_le_of_ne (h.bounded i other old).2 fun equal => ne ?_
    exact h.once i id other baseline old was (equal.trans last.symm)
  refine ⟨?bounded, ?complete, ?once, ?active, ?superseded, ?promoted, ?referenced,
    fun _ _ _ _ => by omega⟩
  case bounded =>
    intro i other owned
    rcases rows.mp owned with ⟨rfl, rfl⟩ | old
    · omega
    · obtain ⟨row, there, equal⟩ := before old
      have := h.bounded i row there
      omega
  case complete =>
    intro k low high
    by_cases top : k = n + 1
    · exact ⟨_, promoted, rows.mpr (Or.inl ⟨rfl, rfl⟩), by omega⟩
    · obtain ⟨i, other, old, is⟩ := h.complete k low (by omega)
      by_cases e : i = id
      · subst e
        obtain rfl := Option.some.inj (active.1.symm.trans old.1)
        exact ⟨i, superseded, prior, by omega⟩
      · exact ⟨i, other, rows.mpr (Or.inr (Or.inr ⟨e, old⟩)), is⟩
  case once =>
    intro i i' other other' owned owned' equal
    rcases rows.mp owned with ⟨rfl, rfl⟩ | old
    · rcases rows.mp owned' with ⟨rfl, -⟩ | old'
      · rfl
      · obtain ⟨row, there, same⟩ := before old'
        have := h.bounded i' row there
        omega
    · obtain ⟨row, there, same⟩ := before old
      rcases rows.mp owned' with ⟨rfl, rfl⟩ | old'
      · have := h.bounded i row there
        omega
      · obtain ⟨row', there', same'⟩ := before old'
        exact h.once i i' row row' there there' (by omega)
  case active =>
    intro i other owned
    rcases rows.mp owned with ⟨rfl, rfl⟩ | ⟨rfl, rfl⟩ | ⟨ne, old⟩
    · exact iff_of_true active' version'
    · refine iff_of_false ?_ (by omega)
      simp [ContractBaseline.isActive, status]
    · have less := earlier ne old
      refine iff_of_false ?_ (by omega)
      rw [h.active i other old]
      omega
  case superseded =>
    intro i other owned less
    rcases rows.mp owned with ⟨rfl, rfl⟩ | ⟨rfl, rfl⟩ | ⟨ne, old⟩
    · omega
    · exact ⟨status, key, supersededAt⟩
    · exact h.superseded i other old (earlier ne old)
  case promoted =>
    intro i other owned later
    rcases rows.mp owned with ⟨rfl, rfl⟩ | ⟨rfl, rfl⟩ | ⟨ne, old⟩
    · exact ⟨id, superseded, origin', prior, by omega⟩
    · obtain ⟨p, row, is, there, one⟩ := h.promoted i baseline was (by omega)
      refine ⟨p, row, origin.trans is, rows.mpr (Or.inr (Or.inr ⟨?_, there⟩)), by omega⟩
      rintro rfl
      obtain rfl := Option.some.inj (active.1.symm.trans there.1)
      omega
    · have less := earlier ne old
      obtain ⟨p, row, is, there, one⟩ := h.promoted i other old later
      refine ⟨p, row, is, rows.mpr (Or.inr (Or.inr ⟨?_, there⟩)), one⟩
      rintro rfl
      obtain rfl := Option.some.inj (active.1.symm.trans there.1)
      omega
  case referenced =>
    intro i other owned
    rw [snapshots]
    rcases rows.mp owned with ⟨rfl, rfl⟩ | ⟨rfl, rfl⟩ | ⟨ne, old⟩
    · exact referenced
    · rw [reference]
      exact h.referenced i baseline was
    · exact h.referenced i other old

/-- A call on the source begins its history, appends to it or leaves its versions. -/
theorem Effect.history_own (effect : Effect sha256 db label db')
    (h : BaselineHistory db label.sourceId n) : ∃ n', BaselineHistory db' label.sourceId n' := by
  cases effect with
  | refused _ => exact ⟨n, h⟩
  | @first payload createdAt now source live none =>
    obtain rfl := h.eq_zero none
    have only : ∀ {i other}, Owned (db.baselines.insert (firstBaseline source payload.sourceId
        db.snapshots.nextId now)) payload.sourceId i other ↔ i = db.baselines.nextId ∧
          other = firstBaseline source payload.sourceId db.snapshots.nextId now := by
      intro i other
      refine owned_insert.trans ⟨?_, fun ⟨is, same⟩ => Or.inl ⟨is, same, rfl⟩⟩
      rintro (⟨is, same, -⟩ | old)
      · exact ⟨is, same⟩
      · have := h.bounded i other old
        omega
    exact ⟨1, baselineHistory_first only rfl (isActive_firstBaseline.mpr rfl)
      ⟨_, Rows.get_insert_self _ _, rfl⟩⟩
  | compared live active stored =>
    have here := active_of_get active
    have pos : 1 ≤ n := (h.bounded _ _ (owned_of_active here)).1.trans
      (h.bounded _ _ (owned_of_active here)).2
    exact ⟨n, h.recompared here.1 (sameButCandidate_afterComparison _ _ _ _ _ _)
      (get_modify_stored here.1) Rows.get_insert_of_some fun _ _ _ _ => pos⟩
  | @accepted own actor acceptanceNote chosenId now id selected baseline candidate active chosen
      stored owned =>
    have here := active_of_get active
    have source := sourceId_of_isActive here.2
    have last := h.version_of_active here
    have rows : ∀ {i other}, Owned
        ((db.baselines.modify id fun _ => supersededBaseline baseline now).insert
          (promotedBaseline id baseline selected actor acceptanceNote now)) own i other ↔
        (i = db.baselines.nextId ∧
          other = promotedBaseline id baseline selected actor acceptanceNote now) ∨
        (i = id ∧ other = supersededBaseline baseline now) ∨
        (i ≠ id ∧ Owned db.baselines own i other) := by
      intro i other
      rw [owned_insert, owned_modify here.1]
      simp [promotedBaseline, supersededBaseline, source]
    exact ⟨n + 1, h.accepted here rows ⟨last, rfl, rfl, rfl, rfl, rfl⟩
      ⟨congrArg (· + 1) last, isActive_promotedBaseline.mpr source, rfl⟩ (fun _ => rfl)
      ⟨_, stored, owned.trans source⟩⟩

/-- A call on another source leaves the history as it is. -/
theorem Effect.history_other (effect : Effect sha256 db label db')
    (h : BaselineHistory db sourceId n) (own : label.sourceId ≠ sourceId) :
    BaselineHistory db' sourceId n := by
  cases effect with
  | refused _ => exact h
  | first live none =>
    refine h.congr ?_ ?_ Rows.get_insert_of_some ?_
    · intro i other owned
      rcases owned_insert.mp owned with ⟨-, -, is⟩ | old
      · exact absurd is own
      · exact ⟨other, old, rfl⟩
    · intro i other old
      exact ⟨other, owned_insert.mpr (Or.inr old), rfl⟩
    · intro i snapshot there is
      rcases Rows.get_insert_cases there with ⟨-, rfl⟩ | ⟨-, old⟩
      · exact absurd is own
      · exact h.begun i snapshot old is
  | compared live active stored =>
    have here := active_of_get active
    refine h.recompared here.1 (sameButCandidate_afterComparison _ _ _ _ _ _)
      (get_modify_stored here.1) Rows.get_insert_of_some ?_
    intro i snapshot there is
    rcases Rows.get_insert_cases there with ⟨-, rfl⟩ | ⟨-, old⟩
    · exact absurd is own
    · exact h.begun i snapshot old is
  | accepted active chosen stored owned =>
    have here := active_of_get active
    refine h.congr ?_ ?_ (fun there => there) h.begun
    · intro i other there
      rcases owned_insert.mp there with ⟨-, -, is⟩ | old
      · exact absurd ((sourceId_of_isActive here.2).symm.trans is) own
      · rcases (owned_modify here.1).mp old with ⟨-, -, is⟩ | ⟨-, old⟩
        · exact absurd ((sourceId_of_isActive here.2).symm.trans is) own
        · exact ⟨other, old, rfl⟩
    · intro i other old
      refine ⟨other, owned_insert.mpr (Or.inr ((owned_modify here.1).mpr (Or.inr ⟨?_, old⟩))), rfl⟩
      rintro rfl
      obtain rfl := Option.some.inj (here.1.symm.trans old.1)
      exact own ((sourceId_of_isActive here.2).symm.trans old.2)

/-- **One call.** Every source keeps a history. -/
theorem Effect.history (effect : Effect sha256 db label db')
    (h : BaselineHistory db sourceId n) : ∃ n', BaselineHistory db' sourceId n' := by
  by_cases own : label.sourceId = sourceId
  · subst own
    exact effect.history_own h
  · exact ⟨n, effect.history_other h own⟩

end Effects

/-- Without a snapshot there is no baseline. -/
theorem baselineHistory_empty {db : ContractDb} {sourceId : Nat}
    (baselines : ∀ id, db.baselines.get id = none) (snapshots : ∀ id, db.snapshots.get id = none) :
    BaselineHistory db sourceId 0 := by
  have no : ∀ {id baseline}, ¬ Owned db.baselines sourceId id baseline := fun owned =>
    nomatch (baselines _).symm.trans owned.1
  constructor
  · intro id baseline owned
    exact absurd owned no
  · intro k low high
    omega
  · intro id id' baseline baseline' owned
    exact absurd owned no
  · intro id baseline owned
    exact absurd owned no
  · intro id baseline owned
    exact absurd owned no
  · intro id baseline owned
    exact absurd owned no
  · intro id baseline owned
    exact absurd owned no
  · intro id snapshot stored
    exact nomatch (snapshots id).symm.trans stored

/-- **A history in every reached state.** -/
theorem history_of_run {sha256 : String → String} {sources : Rows SourceProfile}
    {history : List (ContractDb × Label)} {db : ContractDb}
    (run : Run (next sha256) (initial sources) history db) (sourceId : Nat) :
    ∃ n, BaselineHistory db sourceId n := by
  induction run with
  | init => exact ⟨0, baselineHistory_empty (fun _ => rfl) fun _ => rfl⟩
  | snoc run step ih =>
    obtain ⟨n, h⟩ := ih
    cases step
    exact (consistent_of_run run).effect.history h

/-- **The contract history of a source.** In every reached state its baselines
are the versions `1` to `n`, the last one active once a snapshot exists, each
later one promoted from the one before it. An acceptance that raises leaves
every baseline as it was, in any database. -/
theorem contract_baseline_history {sha256 : String → String} {sources : Rows SourceProfile}
    {history : List (ContractDb × Label)} {db : ContractDb}
    (run : Run (next sha256) (initial sources) history db) :
    (∀ sourceId, ∃ n, BaselineHistory db sourceId n) ∧
    (∀ sourceId id snapshot, db.snapshots.get id = some snapshot → snapshot.sourceId = sourceId →
      ∃! baselineId, ∃ baseline, Active db.baselines sourceId baselineId baseline) ∧
    (∀ before sourceId id baseline actor acceptanceNote candidateSnapshotId now text after,
      getActiveContractBaseline before sourceId = some (id, baseline) →
      (acceptContractBaselineSession id baseline actor acceptanceNote candidateSnapshotId now).run
        before = (.error text, after) →
      after.baselines = before.baselines ∧
      (call sha256 before (.accept sourceId actor acceptanceNote candidateSnapshotId now)).baselines =
        before.baselines) := by
  refine ⟨history_of_run run, ?_, ?_⟩
  · intro sourceId id snapshot stored own
    obtain ⟨n, h⟩ := history_of_run run sourceId
    exact h.exists_unique_active (h.begun id snapshot stored own)
  · intro before sourceId id baseline actor acceptanceNote candidateSnapshotId now text after active
      raised
    rw [acceptContractBaselineSession_run] at raised
    cases result : acceptContractBaseline before id baseline actor acceptanceNote candidateSnapshotId
        now with
    | ok written =>
      rw [result] at raised
      cases raised
    | error reason =>
      rw [result] at raised
      cases raised
      refine ⟨rfl, ?_⟩
      simp only [call, acceptBaseline, active, result]

/-- The versions after an acceptance. -/
theorem contract_baseline_history_promoted :
    ∃ (history : List (ContractDb × Label)) (db : ContractDb) (n : Nat)
      (baseline : ContractBaseline),
      Run (next id) (initial pollSource) history db ∧ BaselineHistory db 1 n ∧
      getActiveContractBaseline db 1 = some (2, baseline) ∧ baseline.version = n ∧ n = 2 ∧
      baseline.promotedFromBaselineId = some 1 := by
  obtain ⟨history, run⟩ := run_of_isSome
    (show (finalState (next id) (initial pollSource)
      [poll "name" 1, poll "title" 2, .accept 1 "ann" none none 3]).isSome = true from rfl)
  obtain ⟨n, h⟩ := (contract_baseline_history run).1 1
  refine ⟨history, _, n, _, run, h, rfl, ?_, ?_, rfl⟩
  · exact h.version_of_active (active_of_get rfl)
  · exact (h.version_of_active (active_of_get rfl)).symm

end ApiObservatory.ContractDrift
