import ApiObservatory.ContractDrift.Baselines
import ApiObservatory.ContractDrift.Routes
import ApiObservatory.Foundation.Alike

/-
Tenant isolation of the contract drift routes.

Every request makes one plan of changes, to rows of the source it reaches, and two
states that agree on the rows of that source answer it alike (`handle_together`). The
scope check stands before the baseline routes only, so a plain user's run leaves a
foreign source alone exactly when no request reaches it through one of the others.
-/

namespace ApiObservatory.ContractRoutes

open Foundation Security ContractDrift

/-! ### States -/

/-- What every transaction keeps: a profile knows its id, a baseline has its snapshot,
and the key of an active incident names its source. -/
structure Valid (state : State) : Prop where
  named : ∀ {id source}, state.contracts.sources.get id = some source → source.id = id
  based : ∀ {id baseline}, state.contracts.baselines.get id = some baseline →
    ∃ base, state.contracts.snapshots.get baseline.baselineSnapshotId = some base ∧
      base.sourceId = baseline.sourceId
  keyed : ∀ {id incident source}, state.incidents.get id = some incident →
    incident.activeKey = some (fingerprint source .drift) → incident.sourceId = source.id

/-- Two states with the same registry and the same rows of the sources that satisfy `p`. -/
structure Agree (p : Nat → Prop) (s t : State) : Prop where
  sources : s.contracts.sources = t.contracts.sources
  snapshots : Alike (p ·.sourceId) s.contracts.snapshots t.contracts.snapshots
  baselines : Alike (p ·.sourceId) s.contracts.baselines t.contracts.baselines
  driftEvents : Alike (p ·.sourceId) s.contracts.driftEvents t.contracts.driftEvents
  incidents : Alike (p ·.sourceId) s.incidents t.incidents
  observations : Alike (p ·.sourceId) s.observations t.observations

theorem Agree.refl (p : Nat → Prop) (s : State) : Agree p s s :=
  ⟨rfl, .refl _ _, .refl _ _, .refl _ _, .refl _ _, .refl _ _⟩

/-- No row of the source is created, changed or removed. -/
structure Untouched (sourceId : Nat) (s s' : State) : Prop where
  snapshots : Kept (·.sourceId = sourceId) s.contracts.snapshots s'.contracts.snapshots
  baselines : Kept (·.sourceId = sourceId) s.contracts.baselines s'.contracts.baselines
  driftEvents : Kept (·.sourceId = sourceId) s.contracts.driftEvents s'.contracts.driftEvents
  incidents : Kept (·.sourceId = sourceId) s.incidents s'.incidents
  observations : Kept (·.sourceId = sourceId) s.observations s'.observations

/-! ### Requests -/

section Requests

variable (settings : Settings) (caller : Caller) (sources : Rows SourceProfile)

/-- The scope check does not stand before the route. -/
def Request.unguarded : Request → Bool
  | .ingestSnapshot .. => true
  | .getBaseline _ => false
  | .acceptBaseline .. => false
  | .listSnapshots .. => true
  | .listDriftEvents .. => true
  | .compatibilityReport _ => true

/-- The source a request names, if the checks of its route let it through. -/
def reached : Request → Option Nat
  | .ingestSnapshot payload _ =>
      if (casbinGuard settings.superadminSubject settings.policy ["user", "admin"]
          caller.claims).isOk ∧ (getSourceProfile sources payload.sourceId).isSome then
        some payload.sourceId
      else none
  | .getBaseline sourceId =>
      if (requireScopedSource settings caller sourceId sources).isOk then some sourceId else none
  | .acceptBaseline sourceId _ _ _ =>
      if (requireScopedSource settings caller sourceId sources).isOk then some sourceId else none
  | .listSnapshots sourceId _ limit =>
      if (1 ≤ limit ∧ limit ≤ maxPageSize) ∧ (getSourceProfile sources sourceId).isSome then
        some sourceId
      else none
  | .listDriftEvents sourceId _ limit =>
      if (1 ≤ limit ∧ limit ≤ maxPageSize) ∧ (getSourceProfile sources sourceId).isSome then
        some sourceId
      else none
  | .compatibilityReport sourceId =>
      if (getSourceProfile sources sourceId).isSome then some sourceId else none

/-- A run of the caller leaves the rows of the source as they are, and its answers are
those of a run from any state that differs in rows of the source only. -/
def Isolated (sourceId : Nat) (requests : List Request) : Prop :=
  ∀ s t : State, Valid s → Valid t → s.contracts.sources = sources → Agree (· ≠ sourceId) s t →
    Every (handle settings caller)
        (fun s request => Untouched sourceId s (handle settings caller s request).1) s requests ∧
      outputs (handle settings caller) (fun _ => true) s requests =
        outputs (handle settings caller) (fun _ => true) t requests

end Requests

/-! ### Plans -/

/-- The changes a request makes to the tables. -/
structure Plan where
  snapshots : TableChange ContractSnapshot := {}
  baselines : TableChange ContractBaseline := {}
  driftEvents : TableChange DriftEvent := {}
  incidents : TableChange (DependencyIncident Json) := {}
  observations : TableChange Observation := {}

namespace Plan

def apply (plan : Plan) (state : State) : State where
  contracts :=
    { state.contracts with
      snapshots := plan.snapshots.apply state.contracts.snapshots
      baselines := plan.baselines.apply state.contracts.baselines
      driftEvents := plan.driftEvents.apply state.contracts.driftEvents }
  incidents := plan.incidents.apply state.incidents
  observations := plan.observations.apply state.observations

/-- The changes are to rows of the sources that satisfy `p`. -/
structure Within (p : Nat → Prop) (state : State) (plan : Plan) : Prop where
  snapshots : plan.snapshots.Within (p ·.sourceId) state.contracts.snapshots
  baselines : plan.baselines.Within (p ·.sourceId) state.contracts.baselines
  driftEvents : plan.driftEvents.Within (p ·.sourceId) state.contracts.driftEvents
  incidents : plan.incidents.Within (p ·.sourceId) state.incidents
  observations : plan.observations.Within (p ·.sourceId) state.observations

/-- The changes keep the state valid. -/
structure Sound (state : State) (plan : Plan) : Prop where
  snapshots : plan.snapshots.modified = none
  based : ∀ {baseline}, plan.baselines.Writes baseline →
    ∃ base, (plan.snapshots.apply state.contracts.snapshots).get baseline.baselineSnapshotId =
        some base ∧ base.sourceId = baseline.sourceId
  keyed : ∀ {incident source}, plan.incidents.Writes incident →
    incident.activeKey = some (fingerprint source .drift) → incident.sourceId = source.id

variable {p : Nat → Prop} {s t : State} {plan : Plan}

theorem Within.agree (within : plan.Within p s) (agree : Agree p s t) :
    Agree p (plan.apply s) (plan.apply t) where
  sources := agree.sources
  snapshots := within.snapshots.alike agree.snapshots
  baselines := within.baselines.alike agree.baselines
  driftEvents := within.driftEvents.alike agree.driftEvents
  incidents := within.incidents.alike agree.incidents
  observations := within.observations.alike agree.observations

theorem Within.untouched {sourceId : Nat} (within : plan.Within (· ≠ sourceId) s) :
    Untouched sourceId s (plan.apply s) where
  snapshots := within.snapshots.kept fun other => other
  baselines := within.baselines.kept fun other => other
  driftEvents := within.driftEvents.kept fun other => other
  incidents := within.incidents.kept fun other => other
  observations := within.observations.kept fun other => other

theorem Sound.valid (sound : plan.Sound s) (valid : Valid s) : Valid (plan.apply s) where
  named := valid.named
  based := by
    intro id baseline stored
    rcases TableChange.get_apply_cases stored with written | old
    · exact sound.based written
    · obtain ⟨base, found, own⟩ := valid.based old
      exact ⟨base, TableChange.get_apply_of_some sound.snapshots found, own⟩
  keyed := by
    intro id incident source stored key
    rcases TableChange.get_apply_cases stored with written | old
    · exact sound.keyed written key
    · exact valid.keyed old key

end Plan

/-- The request leaves both states alone, or changes them alike, or raises in both. -/
def Moves (p : Nat → Prop) (s t : State) (left right : Option State) : Prop :=
  (left = none ∧ right = none) ∨
    ∃ plan : Plan, plan.Within p s ∧ plan.Sound s ∧
      left = some (plan.apply s) ∧ right = some (plan.apply t)

/-- Both states change alike and answer alike. -/
def Together (p : Nat → Prop) (s t : State) (left right : State × Answer) : Prop :=
  ∃ (plan : Plan) (answer : Answer), plan.Within p s ∧ plan.Sound s ∧
    left = (plan.apply s, answer) ∧ right = (plan.apply t, answer)

theorem Plan.within_unchanged (p : Nat → Prop) (s : State) : Plan.Within p s {} :=
  ⟨.unchanged _ _, .unchanged _ _, .unchanged _ _, .unchanged _ _,
    .unchanged _ _⟩

theorem Plan.sound_unchanged (s : State) : Plan.Sound s {} :=
  ⟨rfl, fun written => absurd written (TableChange.writes_none _).mp,
    fun written => absurd written (TableChange.writes_none _).mp⟩

theorem Together.unchanged (p : Nat → Prop) (s t : State) (answer : Answer) :
    Together p s t (s, answer) (t, answer) :=
  ⟨{}, answer, Plan.within_unchanged p s, Plan.sound_unchanged s, rfl, rfl⟩

/-! ### Queries of the rows of a source -/

section Queries

attribute [local simp] reached

variable {settings : Settings} {caller : Caller} {p : Nat → Prop} {s t : State} {sourceId : Nat}

theorem getActiveContractBaseline_eq (agree : Agree p s t) (is : p sourceId) :
    getActiveContractBaseline s.contracts sourceId =
      getActiveContractBaseline t.contracts sourceId := by
  unfold getActiveContractBaseline
  rw [agree.baselines.select_eq fun id row _ selected => sourceId_of_isActive selected ▸ is]

/-- An active baseline and its snapshot. -/
theorem based_of_active (valid : Valid s) {id : Nat} {baseline : ContractBaseline}
    (active : getActiveContractBaseline s.contracts sourceId = some (id, baseline)) :
    baseline.sourceId = sourceId ∧ s.contracts.baselines.get id = some baseline ∧
      ∃ base, s.contracts.snapshots.get baseline.baselineSnapshotId = some base ∧
        base.sourceId = sourceId := by
  obtain ⟨stored, here⟩ := active_of_get active
  obtain ⟨base, found, own⟩ := valid.based stored
  have named := sourceId_of_isActive here
  exact ⟨named, stored, base, found, own.trans named⟩

theorem snapshotsByAge_eq (agree : Agree p s t) (is : p sourceId) :
    snapshotsByAge s.contracts sourceId = snapshotsByAge t.contracts sourceId := by
  have same : (s.contracts.snapshots.select fun _ snapshot => snapshot.sourceId == sourceId) =
      t.contracts.snapshots.select fun _ snapshot => snapshot.sourceId == sourceId := by
    refine agree.snapshots.select_eq fun id row _ selected => ?_
    rwa [beq_iff_eq.mp selected]
  unfold snapshotsByAge
  rw [same]

theorem driftEvents_eq (agree : Agree p s t) (is : p sourceId) :
    (s.contracts.driftEvents.select fun _ event => event.sourceId == sourceId) =
      t.contracts.driftEvents.select fun _ event => event.sourceId == sourceId := by
  refine agree.driftEvents.select_eq fun id row _ selected => ?_
  rwa [beq_iff_eq.mp selected]

theorem getCompatibilityReport_eq (agree : Agree p s t) (valid : Valid s) (is : p sourceId) :
    getCompatibilityReport s.contracts sourceId = getCompatibilityReport t.contracts sourceId := by
  unfold getCompatibilityReport
  rw [snapshotsByAge_eq agree is, ← getActiveContractBaseline_eq agree is]
  cases (snapshotsByAge t.contracts sourceId).head? with
  | none => rfl
  | some latest =>
    cases active : getActiveContractBaseline s.contracts sourceId with
    | none => rfl
    | some entry =>
      obtain ⟨-, -, base, found, own⟩ := based_of_active valid active
      have found' := (agree.snapshots.rows (own ▸ is)).mp found
      simp only [found, found']

theorem listSnapshots_eq (agree : Agree p s t) {offset limit : Nat}
    (within : ∀ {id}, reached settings caller t.contracts.sources
      (.listSnapshots sourceId offset limit) = some id → p id) :
    listSnapshots s sourceId offset limit = listSnapshots t sourceId offset limit := by
  unfold listSnapshots
  rw [agree.sources]
  split
  · rename_i bounds
    cases found : getSourceProfile t.contracts.sources sourceId with
    | none => rfl
    | some profile =>
      have is : p sourceId := within (by simp [bounds, found])
      simp only [snapshotsByAge_eq agree is]
  · rfl

theorem listDriftEvents_eq (agree : Agree p s t) {offset limit : Nat}
    (within : ∀ {id}, reached settings caller t.contracts.sources
      (.listDriftEvents sourceId offset limit) = some id → p id) :
    listDriftEvents s sourceId offset limit = listDriftEvents t sourceId offset limit := by
  unfold listDriftEvents
  rw [agree.sources]
  split
  · rename_i bounds
    cases found : getSourceProfile t.contracts.sources sourceId with
    | none => rfl
    | some profile =>
      have is : p sourceId := within (by simp [bounds, found])
      simp only [driftEvents_eq agree is]
  · rfl

theorem compatibilityReport_eq (agree : Agree p s t) (valid : Valid s)
    (within : ∀ {id}, reached settings caller t.contracts.sources
      (.compatibilityReport sourceId) = some id → p id) :
    compatibilityReport s sourceId = compatibilityReport t sourceId := by
  unfold compatibilityReport
  rw [agree.sources]
  cases found : getSourceProfile t.contracts.sources sourceId with
  | none => rfl
  | some profile =>
    have is : p sourceId := within (by simp [found])
    simp only [getCompatibilityReport_eq agree valid is]

theorem getBaseline_eq (agree : Agree p s t)
    (within : ∀ {id}, reached settings caller t.contracts.sources (.getBaseline sourceId) =
      some id → p id) :
    getBaseline settings caller s sourceId = getBaseline settings caller t sourceId := by
  unfold getBaseline
  rw [agree.sources]
  cases checked : requireScopedSource settings caller sourceId t.contracts.sources with
  | error error => rfl
  | ok =>
    have is : p sourceId := within (by simp [checked, Except.isOk, Except.toBool])
    simp only [getActiveContractBaseline_eq agree is]

end Queries

/-! ### Transactions -/

@[simp] theorem notified_sourceId (settings : Settings) (transition : IncidentTransition Json)
    (attemptedAt : Int) :
    (notified settings transition attemptedAt).sourceId = transition.incident.sourceId := by
  unfold notified
  split_ifs <;> rfl

@[simp] theorem notified_activeKey (settings : Settings) (transition : IncidentTransition Json)
    (attemptedAt : Int) :
    (notified settings transition attemptedAt).activeKey = transition.incident.activeKey := by
  unfold notified
  split_ifs <;> rfl

section Transactions

variable {settings : Settings} {caller : Caller} {p : Nat → Prop} {s t : State}
  {source : SourceProfile} {eventId : Nat} {event : DriftEvent} {clock : Clock}

/-- The active incident of a source belongs to it. -/
theorem activeIncident_eq (agree : Agree p s t) (valid : Valid s) (valid' : Valid t)
    (is : p source.id) :
    activeIncident s.incidents (fingerprint source .drift) =
      activeIncident t.incidents (fingerprint source .drift) := by
  unfold activeIncident
  rw [agree.incidents.select_eq fun id incident stored selected => ?_]
  have key := beq_iff_eq.mp selected
  rcases stored with here | here
  · rwa [valid.keyed here key]
  · rwa [valid'.keyed here key]

theorem requestRefused_eq (settings : Settings) (eventId : Nat) (event : DriftEvent) (clock : Clock)
    (agree : Agree p s t) (valid : Valid s) (valid' : Valid t) (is : p source.id) :
    requestRefused settings s.incidents source eventId event clock =
      requestRefused settings t.incidents source eventId event clock := by
  unfold requestRefused
  rw [activeIncident_eq agree valid valid' is]

/-- The incident of a drift event is opened or written again. -/
theorem recordIncident_change (settings : Settings) (eventId : Nat) (event : DriftEvent)
    (clock : Clock) (agree : Agree p s t) (valid : Valid s) (valid' : Valid t)
    (is : p source.id) :
    ∃ change : TableChange (DependencyIncident Json),
      change.Within (p ·.sourceId) s.incidents ∧
      (∀ {incident other}, change.Writes incident →
        incident.activeKey = some (fingerprint other .drift) → incident.sourceId = other.id) ∧
      recordIncident settings s.incidents source eventId event clock = change.apply s.incidents ∧
      recordIncident settings t.incidents source eventId event clock =
        change.apply t.incidents := by
  unfold recordIncident
  rw [← activeIncident_eq agree valid valid' is]
  cases found : activeIncident s.incidents (fingerprint source .drift) with
  | none =>
    refine ⟨{ inserted := some _ }, .insert _ ?_, ?_, rfl, rfl⟩
    · rw [notified_sourceId]
      exact is
    · intro incident other written key
      obtain rfl := (TableChange.writes_insert _ _).mp written
      rw [notified_activeKey] at key
      rw [notified_sourceId]
      exact fingerprint_id (Option.some.inj key)
  | some entry =>
    obtain ⟨id, old⟩ := entry
    obtain ⟨stored, selected⟩ := Rows.mem_select.mp (List.mem_of_head? found)
    have own := valid.keyed stored (beq_iff_eq.mp selected)
    refine ⟨{ modified := some (id, _) }, .modify stored ?_ ?_, ?_, rfl, rfl⟩
    · rwa [own]
    · rw [notified_sourceId]
      exact own ▸ is
    · intro incident other written key
      obtain rfl := (TableChange.writes_modify _ _ _).mp written
      rw [notified_activeKey] at key
      rw [notified_sourceId]
      have same : old.sourceId = other.id := valid.keyed stored key
      exact same

theorem keyTaken_eq (agree : Agree p s t) {row : Observation} (is : p row.sourceId) :
    keyTaken s.observations row = keyTaken t.observations row := by
  rw [Bool.eq_iff_iff, keyTaken_iff, keyTaken_iff]
  refine exists_congr fun id => exists_congr fun other => and_congr_left fun ⟨own, _⟩ => ?_
  exact agree.observations.rows (own ▸ is)

/-- The response to a drift event of a source adds to the plan that stored it. -/
theorem respondToDrift_moves (agree : Agree p s t) (valid : Valid s) (valid' : Valid t)
    (is : p source.id) {plan : Plan} (within : plan.Within p s) (sound : plan.Sound s)
    (incidents : plan.incidents = {}) (observations : plan.observations = {})
    (driftEvent : Option (Nat × DriftEvent)) :
    Moves p s t (respondToDrift settings (plan.apply s) source driftEvent clock)
      (respondToDrift settings (plan.apply t) source driftEvent clock) := by
  cases driftEvent with
  | none => exact .inr ⟨plan, within, sound, rfl, rfl⟩
  | some entry =>
    obtain ⟨eventId, event⟩ := entry
    have untouched : ∀ state : State, (plan.apply state).incidents = state.incidents ∧
        (plan.apply state).observations = state.observations := by
      intro state
      simp only [Plan.apply, incidents, observations]
      exact ⟨rfl, rfl⟩
    simp only [respondToDrift, untouched]
    cases requiresIncidentResponse event with
    | false => exact .inr ⟨plan, within, sound, rfl, rfl⟩
    | true =>
      have own : p (incidentObservation source eventId event clock).sourceId := is
      rw [← keyTaken_eq agree own,
        ← requestRefused_eq settings eventId event clock agree valid valid' is]
      cases keyTaken s.observations (incidentObservation source eventId event clock) with
      | true => exact .inl ⟨rfl, rfl⟩
      | false =>
        cases requestRefused settings s.incidents source eventId event clock with
        | true => exact .inl ⟨rfl, rfl⟩
        | false =>
          obtain ⟨change, inside, keyed, left, right⟩ :=
            recordIncident_change settings eventId event clock agree valid valid' is
          refine .inr ⟨{ plan with
            incidents := change
            observations := { inserted := some (incidentObservation source eventId event clock) } },
            ?_, ?_, ?_, ?_⟩
          · exact { within with incidents := inside, observations := .insert _ own }
          · exact { sound with keyed := keyed }
          · simp only [left]
            rfl
          · simp only [right]
            rfl

/-- The event of a comparison is one of the payload's source. -/
theorem sourceId_of_event {sha256 : String → String} {payload : ContractSnapshotCreate}
    {baseline : ContractBaseline} {diff : ContractDiff} {snapshotId eventId : Nat} {now : Int}
    (confirmed : (afterComparison sha256 payload baseline diff snapshotId eventId now).2 =
      some event) : event.sourceId = payload.sourceId := by
  unfold afterComparison at confirmed
  split at confirmed
  · cases confirmed
  · simp only at confirmed
    split at confirmed
    · cases confirmed
      rfl
    · cases confirmed

/-- The changes of a snapshot of a source without a baseline. -/
def firstPlan (snapshot : ContractSnapshot) (baseline : ContractBaseline) : Plan where
  snapshots := { inserted := some snapshot }
  baselines := { inserted := some baseline }

/-- The changes of a snapshot that is compared with the baseline under `baselineId`. -/
def comparedPlan (snapshot : ContractSnapshot) (baselineId : Nat)
    (after : ContractBaseline × Option DriftEvent) : Plan where
  snapshots := { inserted := some snapshot }
  baselines := { modified := some (baselineId, after.1) }
  driftEvents := { inserted := after.2 }

theorem compareWithBaseline_plan {sha256 : String → String} {state : State}
    {payload : ContractSnapshotCreate} {snapshot : ContractSnapshot} {baselineId : Nat}
    {baseline : ContractBaseline} {diff : ContractDiff} {now : Int}
    {after : ContractBaseline × Option DriftEvent}
    (compared : afterComparison sha256 payload baseline diff state.contracts.snapshots.nextId
      state.contracts.driftEvents.nextId now = after) :
    compareWithBaseline sha256 state.contracts payload snapshot baselineId baseline diff now =
      ⟨((comparedPlan { snapshot with compatibilityScore := compatibilityScore diff } baselineId
          after).apply state).contracts,
        some (state.contracts.snapshots.nextId,
          { snapshot with compatibilityScore := compatibilityScore diff }),
        after.2.map (state.contracts.driftEvents.nextId, ·)⟩ := by
  obtain ⟨next, event⟩ := after
  simp only [compareWithBaseline, compared]
  cases event with
  | none => rfl
  | some event => rfl

/-- The contract rows of a live source's snapshot. -/
theorem createContractSnapshot_plan (settings : Settings) (createdAt now : Int)
    (agree : Agree p s t) (valid : Valid s) {payload : ContractSnapshotCreate}
    (live : s.contracts.liveSource payload.sourceId = some source) (is : p payload.sourceId) :
    ∃ (plan : Plan) (snapshot : Nat × ContractSnapshot) (driftEvent : Option (Nat × DriftEvent)),
      plan.Within p s ∧ plan.Sound s ∧ plan.incidents = {} ∧ plan.observations = {} ∧
      createContractSnapshot settings.sha256 s.contracts payload createdAt now =
        .ok ⟨(plan.apply s).contracts, some snapshot, driftEvent⟩ ∧
      createContractSnapshot settings.sha256 t.contracts payload createdAt now =
        .ok ⟨(plan.apply t).contracts, some snapshot, driftEvent⟩ := by
  have live' : t.contracts.liveSource payload.sourceId = some source := by
    rw [← live, ContractDb.liveSource, ContractDb.liveSource, agree.sources]
  have active' := getActiveContractBaseline_eq agree is
  cases active : getActiveContractBaseline s.contracts payload.sourceId with
  | none =>
    rw [create_first live active, create_first live' (active'.symm.trans active),
      ← agree.snapshots.nextId]
    refine ⟨firstPlan _ _, _, _, ⟨.insert _ is, .insert _ is,
      .unchanged _ _, .unchanged _ _, .unchanged _ _⟩, ⟨rfl, ?_, ?_⟩,
      rfl, rfl, rfl, rfl⟩
    · intro baseline written
      obtain rfl := (TableChange.writes_insert _ _).mp written
      exact ⟨_, Rows.get_insert_self _ _, rfl⟩
    · exact fun written => absurd written (TableChange.writes_none _).mp
  | some entry =>
    obtain ⟨id, baseline⟩ := entry
    obtain ⟨own, stored, base, found, based⟩ := based_of_active valid active
    have found' := (agree.snapshots.rows (based ▸ is)).mp found
    have still := (active_of_get active).2
    have named : ∀ {diff snapshotId eventId},
        (afterComparison settings.sha256 payload baseline diff snapshotId eventId
          now).1.sourceId = payload.sourceId := by
      intro diff snapshotId eventId
      exact sourceId_of_isActive (by rw [isActive_afterComparison]; exact still)
    rw [create_compared live active found, create_compared live' (active'.symm.trans active) found',
      compareWithBaseline_plan rfl, compareWithBaseline_plan rfl, ← agree.snapshots.nextId,
      ← agree.driftEvents.nextId]
    refine ⟨comparedPlan _ _ _, _, _, ⟨.insert _ is,
      .modify stored (own ▸ is) ?_, ⟨fun written => (by cases written), ?_⟩,
      .unchanged _ _, .unchanged _ _⟩, ⟨rfl, ?_, ?_⟩, rfl, rfl, rfl, rfl⟩
    · rwa [named]
    · intro event confirmed
      rw [sourceId_of_event confirmed]
      exact is
    · intro baseline written
      obtain rfl := (TableChange.writes_modify _ _ _).mp written
      rw [baselineSnapshotId_afterComparison, named]
      exact ⟨base, Rows.get_insert_of_some found, based⟩
    · exact fun written => absurd written (TableChange.writes_none _).mp

/-- The snapshot of a live source. -/
theorem createSnapshot_moves (settings : Settings) (clock : Clock) (agree : Agree p s t)
    (valid : Valid s) (valid' : Valid t) {payload : ContractSnapshotCreate}
    (live : s.contracts.liveSource payload.sourceId = some source) (is : p payload.sourceId) :
    ∃ (snapshot : Nat × ContractSnapshot) (driftEvent : Option (Nat × DriftEvent))
        (left right : Option State), Moves p s t left right ∧
      createSnapshot settings s payload clock = left.map (·, some snapshot, driftEvent) ∧
      createSnapshot settings t payload clock = right.map (·, some snapshot, driftEvent) := by
  have live' : t.contracts.liveSource payload.sourceId = some source := by
    rw [← live, ContractDb.liveSource, ContractDb.liveSource, agree.sources]
  have named : source.id = payload.sourceId := valid.named (Option.filter_eq_some_iff.mp live).1
  obtain ⟨plan, snapshot, driftEvent, within, sound, incidents, observations, created,
      created'⟩ :=
    createContractSnapshot_plan settings clock.createdAt clock.now agree valid live is
  have whole : ∀ state : State, { state with contracts := (plan.apply state).contracts } =
      plan.apply state := by
    intro state
    simp only [Plan.apply, incidents, observations]
    rfl
  refine ⟨snapshot, driftEvent, ?_⟩
  simp only [createSnapshot, live, live', created, created', whole,
    getActiveContractBaseline_eq agree is]
  split
  · exact ⟨none, none, .inl ⟨rfl, rfl⟩, rfl, rfl⟩
  · exact ⟨_, _, respondToDrift_moves agree valid valid' (named ▸ is) within sound incidents
      observations driftEvent, rfl, rfl⟩

/-- The changes of an acceptance. -/
def acceptedPlan (baselineId : Nat) (superseded promoted : ContractBaseline) : Plan where
  baselines := { modified := some (baselineId, superseded), inserted := some promoted }

theorem acceptedPlan_within {id : Nat} {baseline superseded promoted : ContractBaseline}
    (stored : s.contracts.baselines.get id = some baseline) (is : p baseline.sourceId)
    (left : superseded.sourceId = baseline.sourceId)
    (right : promoted.sourceId = baseline.sourceId) :
    (acceptedPlan id superseded promoted).Within p s := by
  refine ⟨.unchanged _ _, ⟨fun written => ?_, fun written => ?_⟩, .unchanged _ _,
    .unchanged _ _, .unchanged _ _⟩
  · cases written
    exact ⟨left ▸ is, baseline, stored, is⟩
  · cases written
    exact right ▸ is

theorem acceptedPlan_sound {id : Nat} {superseded promoted : ContractBaseline}
    (left : ∃ base, s.contracts.snapshots.get superseded.baselineSnapshotId = some base ∧
      base.sourceId = superseded.sourceId)
    (right : ∃ base, s.contracts.snapshots.get promoted.baselineSnapshotId = some base ∧
      base.sourceId = promoted.sourceId) :
    (acceptedPlan id superseded promoted).Sound s := by
  refine ⟨rfl, fun written => ?_, fun written => absurd written (TableChange.writes_none _).mp⟩
  rcases written with is | ⟨_, is⟩
  · cases is
    exact right
  · cases is
    exact left

/-- An acceptance is refused with one text, or it supersedes one baseline by another. -/
theorem acceptContractBaseline_plan (actor : String) (acceptanceNote : Option String)
    (candidateSnapshotId : Option Nat) (now : Int) (agree : Agree p s t) (valid : Valid s)
    {sourceId id : Nat} {baseline : ContractBaseline}
    (active : getActiveContractBaseline s.contracts sourceId = some (id, baseline))
    (is : p sourceId) :
    (∃ text,
      acceptContractBaseline s.contracts id baseline actor acceptanceNote candidateSnapshotId now =
        .error text ∧
      acceptContractBaseline t.contracts id baseline actor acceptanceNote candidateSnapshotId now =
        .error text) ∨
      ∃ superseded promoted, (acceptedPlan id superseded promoted).Within p s ∧
        (acceptedPlan id superseded promoted).Sound s ∧
        acceptContractBaseline s.contracts id baseline actor acceptanceNote candidateSnapshotId
            now = .ok ((acceptedPlan id superseded promoted).apply s).contracts ∧
        acceptContractBaseline t.contracts id baseline actor acceptanceNote candidateSnapshotId
            now = .ok ((acceptedPlan id superseded promoted).apply t).contracts := by
  obtain ⟨own, stored, based⟩ := based_of_active valid active
  have candidate : ∀ selected,
      (t.contracts.snapshots.get selected).filter (·.sourceId == baseline.sourceId) =
        (s.contracts.snapshots.get selected).filter (·.sourceId == baseline.sourceId) := by
    intro selected
    ext snapshot
    rw [Option.filter_eq_some_iff, Option.filter_eq_some_iff]
    refine and_congr_left fun same => (agree.snapshots.rows ?_).symm
    rwa [beq_iff_eq.mp same, own]
  unfold acceptContractBaseline
  simp only [candidate]
  cases selectedSnapshotId candidateSnapshotId baseline with
  | none => exact .inl ⟨_, rfl, rfl⟩
  | some selected =>
    cases baseline.candidateSnapshotId with
    | none => exact .inl ⟨_, rfl, rfl⟩
    | some current =>
      by_cases differs : selected ≠ current
      · simp only [if_pos differs]
        exact .inl ⟨_, rfl, rfl⟩
      · simp only [if_neg differs]
        cases found : (s.contracts.snapshots.get selected).filter
            (·.sourceId == baseline.sourceId) with
        | none => exact .inl ⟨_, rfl, rfl⟩
        | some snapshot =>
          obtain ⟨held, same⟩ := Option.filter_eq_some_iff.mp found
          refine .inr ⟨supersededBaseline baseline now,
            promotedBaseline id baseline selected actor acceptanceNote now,
            acceptedPlan_within stored (own ▸ is) rfl rfl, acceptedPlan_sound ?_ ?_, rfl, rfl⟩
          · exact own ▸ based
          · exact ⟨snapshot, held, beq_iff_eq.mp same⟩

end Transactions

/-! ### One request -/

section Requests

variable {settings : Settings} {caller : Caller} {p : Nat → Prop} {s t : State}

theorem ingestSnapshot_together (agree : Agree p s t) (valid : Valid s) (valid' : Valid t)
    {payload : ContractSnapshotCreate} {clock : Clock}
    (within : ∀ {id}, reached settings caller s.contracts.sources
      (.ingestSnapshot payload clock) = some id → p id) :
    Together p s t (ingestSnapshot settings caller s payload clock)
      (ingestSnapshot settings caller t payload clock) := by
  unfold ingestSnapshot
  cases checked : casbinGuard settings.superadminSubject settings.policy ["user", "admin"]
      caller.claims with
  | error error => exact .unchanged p s t _
  | ok claims =>
    cases live : s.contracts.liveSource payload.sourceId with
    | none =>
      have live' : t.contracts.liveSource payload.sourceId = none := by
        rw [← live, ContractDb.liveSource, ContractDb.liveSource, agree.sources]
      simp only [createSnapshot, live, live']
      exact .unchanged p s t _
    | some source =>
      have profile : getSourceProfile s.contracts.sources payload.sourceId = some source := live
      have is : p payload.sourceId :=
        within (by simp [reached, checked, profile, Except.isOk, Except.toBool])
      obtain ⟨snapshot, driftEvent, left, right, moves, created, created'⟩ :=
        createSnapshot_moves settings clock agree valid valid' live is
      simp only [created, created']
      rcases moves with ⟨rfl, rfl⟩ | ⟨plan, inside, sound, rfl, rfl⟩
      · exact .unchanged p s t _
      · exact ⟨plan, _, inside, sound, rfl, rfl⟩

theorem acceptBaseline_together (agree : Agree p s t) (valid : Valid s) {sourceId : Nat}
    {acceptanceNote : Option String} {candidateSnapshotId : Option Nat} {now : Int}
    (within : ∀ {id}, reached settings caller s.contracts.sources
      (.acceptBaseline sourceId acceptanceNote candidateSnapshotId now) = some id → p id) :
    Together p s t
      (acceptBaselineRoute settings caller s sourceId acceptanceNote candidateSnapshotId now)
      (acceptBaselineRoute settings caller t sourceId acceptanceNote candidateSnapshotId now) := by
  unfold acceptBaselineRoute
  rw [← agree.sources]
  cases casbinGuard settings.superadminSubject settings.policy ["user", "admin"] caller.claims with
  | error error => exact .unchanged p s t _
  | ok claims =>
    cases checked : requireScopedSource settings caller sourceId s.contracts.sources with
    | error error => exact .unchanged p s t _
    | ok =>
      have is : p sourceId := within (by simp [reached, checked, Except.isOk, Except.toBool])
      simp only [← getActiveContractBaseline_eq agree is]
      cases active : getActiveContractBaseline s.contracts sourceId with
      | none => exact .unchanged p s t _
      | some entry =>
        obtain ⟨id, baseline⟩ := entry
        rcases acceptContractBaseline_plan
            (if caller.subject = "" then "unknown" else caller.subject) acceptanceNote
            candidateSnapshotId now agree valid active is with
          ⟨text, refused, refused'⟩ | ⟨superseded, promoted, inside, sound, done, done'⟩
        · simp only [refused, refused']
          exact .unchanged p s t _
        · have newest : ∀ state : State,
              ((acceptedPlan id superseded promoted).apply state).contracts.baselines.get
                state.contracts.baselines.nextId = some promoted := by
            intro state
            exact Rows.get_insert_self (state.contracts.baselines.modify id fun _ => superseded) _
          have newest' := agree.baselines.nextId ▸ newest t
          simp only [done, done', newest, newest', ← agree.baselines.nextId]
          exact ⟨_, _, inside, sound, rfl, rfl⟩

/-- **One request** changes both states by one plan, in rows of the source it reaches, and
answers them alike. -/
theorem handle_together (agree : Agree p s t) (valid : Valid s) (valid' : Valid t)
    {request : Request}
    (within : ∀ {id}, reached settings caller s.contracts.sources request = some id → p id) :
    Together p s t (handle settings caller s request) (handle settings caller t request) := by
  cases request with
  | ingestSnapshot payload clock => exact ingestSnapshot_together agree valid valid' within
  | getBaseline sourceId =>
    simp only [handle, getBaseline_eq agree (agree.sources ▸ within)]
    exact .unchanged p s t _
  | acceptBaseline sourceId acceptanceNote candidateSnapshotId now =>
    exact acceptBaseline_together agree valid within
  | listSnapshots sourceId offset limit =>
    simp only [handle, listSnapshots_eq agree (agree.sources ▸ within)]
    exact .unchanged p s t _
  | listDriftEvents sourceId offset limit =>
    simp only [handle, listDriftEvents_eq agree (agree.sources ▸ within)]
    exact .unchanged p s t _
  | compatibilityReport sourceId =>
    simp only [handle, compatibilityReport_eq agree valid (agree.sources ▸ within)]
    exact .unchanged p s t _

theorem handle_plan (valid : Valid s) {request : Request}
    (within : ∀ {id}, reached settings caller s.contracts.sources request = some id → p id) :
    ∃ plan : Plan, plan.Within p s ∧ plan.Sound s ∧
      (handle settings caller s request).1 = plan.apply s := by
  obtain ⟨plan, answer, inside, sound, is, -⟩ := handle_together (.refl p s) valid valid within
  exact ⟨plan, inside, sound, congrArg Prod.fst is⟩

/-- **Valid** states stay valid, whatever the request and the caller. -/
theorem valid_handle (settings : Settings) (caller : Caller) (valid : Valid s)
    (request : Request) :
    Valid (handle settings caller s request).1 := by
  obtain ⟨plan, -, sound, is⟩ := handle_plan (p := fun _ => True) valid fun _ => trivial
  rw [is]
  exact sound.valid valid

theorem sources_handle (settings : Settings) (caller : Caller) (valid : Valid s)
    (request : Request) :
    (handle settings caller s request).1.contracts.sources = s.contracts.sources := by
  obtain ⟨plan, -, -, is⟩ := handle_plan (p := fun _ => True) valid fun _ => trivial
  rw [is]
  rfl

/-- A request leaves the rows of the sources it does not reach. -/
theorem untouched_handle (valid : Valid s) {sourceId : Nat} {request : Request}
    (elsewhere : reached settings caller s.contracts.sources request ≠ some sourceId) :
    Untouched sourceId s (handle settings caller s request).1 := by
  obtain ⟨plan, within, -, is⟩ := handle_plan (p := (· ≠ sourceId)) valid
    fun here same => elsewhere (same ▸ here)
  rw [is]
  exact within.untouched

end Requests

/-! ### Runs -/

section Runs

variable {settings : Settings} {caller : Caller} {sources : Rows SourceProfile} {sourceId : Nat}
  {s t : State}

/-- The scope check refuses a plain user of another tenant. -/
theorem not_reached_guarded {source : SourceProfile} {tenant : Nat} {own : Int}
    (stored : sources.get sourceId = some source) (owner : source.tenantId = some tenant)
    (scope : caller.tenantId = some own) (foreign : (tenant : Int) ≠ own)
    (plain : "admin" ∉ roles settings caller) {request : Request}
    (guarded : request.unguarded = false) :
    reached settings caller sources request ≠ some sourceId := by
  have refused : (requireScopedSource settings caller sourceId sources).isOk = false := by
    unfold requireScopedSource
    cases profile : getSourceProfile sources sourceId with
    | none => rfl
    | some found =>
      obtain rfl : source = found :=
        Option.some.inj (stored.symm.trans (getSourceProfile_eq_some.mp profile).1)
      have other : source.tenantId.map Int.ofNat ≠ some own := by
        simpa [owner] using foreign
      simp only [if_neg plain, scope, if_pos other]
      rfl
  cases request with
  | getBaseline id =>
    intro here
    obtain ⟨checked, same⟩ := Option.ite_none_right_eq_some.mp here
    cases same
    exact Bool.false_ne_true (refused.symm.trans checked)
  | acceptBaseline id =>
    intro here
    obtain ⟨checked, same⟩ := Option.ite_none_right_eq_some.mp here
    cases same
    exact Bool.false_ne_true (refused.symm.trans checked)
  | ingestSnapshot => cases guarded
  | listSnapshots => cases guarded
  | listDriftEvents => cases guarded
  | compatibilityReport => cases guarded

/-- A request that does not reach the source keeps two states apart in its rows only,
and both answer it alike. -/
theorem handle_elsewhere (valid : Valid s) (valid' : Valid t) (agree : Agree (· ≠ sourceId) s t)
    {request : Request}
    (elsewhere : reached settings caller s.contracts.sources request ≠ some sourceId) :
    Agree (· ≠ sourceId) (handle settings caller s request).1
        (handle settings caller t request).1 ∧
      (handle settings caller s request).2 = (handle settings caller t request).2 := by
  obtain ⟨plan, answer, within, -, left, right⟩ :=
    handle_together (p := (· ≠ sourceId)) agree valid valid' fun found same =>
      elsewhere (same ▸ found)
  rw [left, right]
  exact ⟨within.agree agree, rfl⟩

/-- A run that does not reach the source. -/
theorem isolated_of_not_reached {requests : List Request}
    (elsewhere : ∀ request ∈ requests, reached settings caller sources request ≠ some sourceId) :
    Isolated settings caller sources sourceId requests := by
  intro s t valid valid' registry agree
  have steps : ∀ state, Every (handle settings caller)
      (fun _ request => reached settings caller sources request ≠ some sourceId) state requests :=
    fun _ => .of_forall fun _ request mem => elsewhere request mem
  have kept : ∀ {state : State} (request : Request),
      Valid state ∧ state.contracts.sources = sources →
      Valid (handle settings caller state request).1 ∧
        (handle settings caller state request).1.contracts.sources = sources :=
    fun request ⟨valid, registry⟩ => ⟨valid_handle settings caller valid request,
      (sources_handle settings caller valid request).trans registry⟩
  constructor
  · exact (steps s).of_invariant (I := fun state => Valid state ∧ state.contracts.sources = sources)
      ⟨valid, registry⟩ (fun now _ => kept _ now)
      fun ⟨valid, registry⟩ here => untouched_handle valid (registry ▸ here)
  · refine outputs_eq (R := fun s t => (Valid s ∧ s.contracts.sources = sources) ∧ Valid t ∧
      Agree (· ≠ sourceId) s t) ?_ ?_ ⟨⟨valid, registry⟩, valid', agree⟩ (steps s) (steps t)
    · intro s t request ⟨now, valid', agree⟩ here _
      have here' : reached settings caller s.contracts.sources request ≠ some sourceId :=
        now.2 ▸ here
      exact ⟨kept request now, valid_handle settings caller valid' request,
        (handle_elsewhere now.1 valid' agree here').1⟩
    · intro s t request ⟨now, valid', agree⟩ here _ _
      have here' : reached settings caller s.contracts.sources request ≠ some sourceId :=
        now.2 ▸ here
      exact (handle_elsewhere now.1 valid' agree here').2

/-! ### Requests that reach the source -/

/-- The first state has no contract row of the source, the second has a snapshot and a
drift event. -/
structure Probe (sourceId : Nat) (s t : State) : Prop where
  agree : Agree (· ≠ sourceId) s t
  first : Valid s
  second : Valid t
  noBaseline : ∀ {id baseline}, s.contracts.baselines.get id = some baseline →
    baseline.sourceId ≠ sourceId
  noSnapshot : ∀ {id snapshot}, s.contracts.snapshots.get id = some snapshot →
    snapshot.sourceId ≠ sourceId
  noEvent : ∀ {id event}, s.contracts.driftEvents.get id = some event → event.sourceId ≠ sourceId
  snapshot : ∃ id snapshot, t.contracts.snapshots.get id = some snapshot ∧
    snapshot.sourceId = sourceId
  event : ∃ id event, t.contracts.driftEvents.get id = some event ∧ event.sourceId = sourceId

/-- A request that does not reach the source keeps a probe. -/
theorem Probe.after (probe : Probe sourceId s t) {request : Request}
    (elsewhere : reached settings caller s.contracts.sources request ≠ some sourceId) :
    Probe sourceId (handle settings caller s request).1 (handle settings caller t request).1 := by
  have kept := untouched_handle probe.first elsewhere
  have kept' := untouched_handle probe.second (probe.agree.sources ▸ elsewhere)
  refine ⟨(handle_elsewhere probe.first probe.second probe.agree elsewhere).1,
    valid_handle settings caller probe.first request,
    valid_handle settings caller probe.second request, ?_, ?_, ?_, ?_, ?_⟩
  · exact fun stored own => probe.noBaseline ((kept.baselines _ _ own).mp stored) own
  · exact fun stored own => probe.noSnapshot ((kept.snapshots _ _ own).mp stored) own
  · exact fun stored own => probe.noEvent ((kept.driftEvents _ _ own).mp stored) own
  · obtain ⟨id, snapshot, stored, own⟩ := probe.snapshot
    exact ⟨id, snapshot, (kept'.snapshots _ _ own).mpr stored, own⟩
  · obtain ⟨id, event, stored, own⟩ := probe.event
    exact ⟨id, event, (kept'.driftEvents _ _ own).mpr stored, own⟩

/-- An ingestion stores a snapshot. -/
theorem ingestSnapshot_touches (probe : Probe sourceId s t) {payload : ContractSnapshotCreate}
    {clock : Clock}
    (here : reached settings caller s.contracts.sources (.ingestSnapshot payload clock) =
      some sourceId) :
    ¬ Untouched sourceId s (ingestSnapshot settings caller s payload clock).1 := by
  obtain ⟨⟨checked, profile⟩, own⟩ := Option.ite_none_right_eq_some.mp here
  cases own
  obtain ⟨source, live⟩ := Option.isSome_iff_exists.mp profile
  have none : getActiveContractBaseline s.contracts payload.sourceId = none := by
    cases active : getActiveContractBaseline s.contracts payload.sourceId with
    | none => rfl
    | some entry =>
      obtain ⟨own, stored, -⟩ := based_of_active probe.first active
      exact absurd own (probe.noBaseline stored)
  obtain ⟨claims, allowed⟩ : ∃ claims, casbinGuard settings.superadminSubject settings.policy
      ["user", "admin"] caller.claims = .ok claims := by
    cases is : casbinGuard settings.superadminSubject settings.policy ["user", "admin"]
        caller.claims with
    | error error => simp [is, Except.isOk, Except.toBool] at checked
    | ok claims => exact ⟨claims, rfl⟩
  have live' : s.contracts.liveSource payload.sourceId = some source := live
  have stored : (ingestSnapshot settings caller s payload clock).1.contracts.snapshots.get
      s.contracts.snapshots.nextId =
        some (newSnapshot settings.sha256 payload clock.createdAt) := by
    simp [ingestSnapshot, allowed, createSnapshot, live', none, create_first live' none,
      respondToDrift]
  intro untouched
  have before := (untouched.snapshots _ _ rfl).mp stored
  rw [s.contracts.snapshots.unused _ le_rfl] at before
  cases before

theorem Probe.no_snapshots (probe : Probe sourceId s t) :
    snapshotsByAge s.contracts sourceId = [] := by
  have none : (s.contracts.snapshots.select fun _ snapshot => snapshot.sourceId == sourceId) =
      [] := Rows.select_eq_nil fun stored own => probe.noSnapshot stored (beq_iff_eq.mp own)
  rw [snapshotsByAge, none, List.insertionSort_nil]

theorem Probe.snapshots (probe : Probe sourceId s t) :
    ∃ latest rest, snapshotsByAge t.contracts sourceId = latest :: rest := by
  obtain ⟨id, snapshot, stored, own⟩ := probe.snapshot
  have mem : (id, snapshot) ∈ snapshotsByAge t.contracts sourceId := by
    unfold snapshotsByAge
    refine (List.perm_insertionSort _ _).mem_iff.mpr ?_
    exact Rows.mem_select.mpr ⟨stored, beq_iff_eq.mpr own⟩
  exact List.exists_cons_of_ne_nil (List.ne_nil_of_mem mem)

theorem Probe.no_events (probe : Probe sourceId s t) :
    (s.contracts.driftEvents.select fun _ event => event.sourceId == sourceId) = [] :=
  Rows.select_eq_nil fun stored own => probe.noEvent stored (beq_iff_eq.mp own)

theorem Probe.events (probe : Probe sourceId s t) :
    (t.contracts.driftEvents.select fun _ event => event.sourceId == sourceId) ≠ [] := by
  obtain ⟨id, event, stored, own⟩ := probe.event
  exact List.ne_nil_of_mem (Rows.mem_select.mpr ⟨stored, beq_iff_eq.mpr own⟩)

/-- The report names the latest snapshot. -/
theorem compatibilityReport_differs (probe : Probe sourceId s t) :
    getCompatibilityReport s.contracts sourceId =
        .ok (uncomparedReport sourceId none contractCompatibilityMaxScore) ∧
      ∀ report, getCompatibilityReport t.contracts sourceId = .ok report →
        report ≠ uncomparedReport sourceId none contractCompatibilityMaxScore := by
  obtain ⟨⟨latestId, latest⟩, rest, sorted⟩ := probe.snapshots
  refine ⟨by simp only [getCompatibilityReport, probe.no_snapshots, List.head?_nil], ?_⟩
  intro report is same
  rw [same] at is
  simp only [getCompatibilityReport, sorted, List.head?_cons] at is
  split at is
  · cases is
  · split at is
    · cases is
    · have named := congrArg CompatibilityReport.latestSnapshotId (Except.ok.inj is)
      cases named

/-- The lists and the report tell the two states of a probe apart. -/
theorem answer_differs (probe : Probe sourceId s t) {request : Request}
    (reads : ∀ payload clock, request ≠ .ingestSnapshot payload clock)
    (unguarded : request.unguarded = true)
    (here : reached settings caller s.contracts.sources request = some sourceId) :
    (handle settings caller s request).2 ≠ (handle settings caller t request).2 := by
  cases request with
  | ingestSnapshot payload clock => exact absurd rfl (reads payload clock)
  | getBaseline => cases unguarded
  | acceptBaseline => cases unguarded
  | listSnapshots id offset limit =>
    obtain ⟨⟨bounds, profile⟩, own⟩ := Option.ite_none_right_eq_some.mp here
    cases own
    obtain ⟨source, found⟩ := Option.isSome_iff_exists.mp profile
    obtain ⟨latest, rest, sorted⟩ := probe.snapshots
    simp only [handle, listSnapshots, if_pos bounds, ← probe.agree.sources, found,
      probe.no_snapshots, sorted]
    intro same
    simp only [Answer.ok.injEq, Body.snapshots.injEq, List.length_nil, List.length_cons] at same
    exact absurd same.2.1.symm (Nat.succ_ne_zero _)
  | listDriftEvents id offset limit =>
    obtain ⟨⟨bounds, profile⟩, own⟩ := Option.ite_none_right_eq_some.mp here
    cases own
    obtain ⟨source, found⟩ := Option.isSome_iff_exists.mp profile
    obtain ⟨latest, rest, sorted⟩ := List.exists_cons_of_ne_nil probe.events
    simp only [handle, listDriftEvents, if_pos bounds, ← probe.agree.sources, found,
      probe.no_events, sorted]
    intro same
    simp only [Answer.ok.injEq, Body.driftEvents.injEq, List.length_reverse, List.length_nil,
      List.length_cons] at same
    exact absurd same.2.1.symm (Nat.succ_ne_zero _)
  | compatibilityReport named =>
    obtain ⟨profile, own⟩ := Option.ite_none_right_eq_some.mp here
    obtain rfl : named = sourceId := Option.some.inj own
    obtain ⟨source, found⟩ := Option.isSome_iff_exists.mp profile
    obtain ⟨first, second⟩ := compatibilityReport_differs probe
    simp only [handle, compatibilityReport, ← probe.agree.sources, found, first]
    intro same
    cases second' : getCompatibilityReport t.contracts named with
    | error text => simp [second'] at same
    | ok report =>
      simp only [second', Answer.ok.injEq, Body.report.injEq] at same
      exact second report second' same.symm

/-- The states a run that reaches the source is told apart by. -/
def blankState (sources : Rows SourceProfile) : State where
  contracts :=
    { sources
      snapshots := Rows.empty.reserve
      baselines := Rows.empty
      driftEvents := Rows.empty.reserve }
  incidents := Rows.empty
  observations := Rows.empty

def foreignSnapshot (sourceId : Nat) : ContractSnapshot where
  sourceId := sourceId
  schemaVersion := none
  payloadSchema := [("id", .string "integer")]
  schemaFingerprint := ""
  compatibilityScore := contractCompatibilityMaxScore
  snapshotNote := none
  createdAt := 0

def foreignEvent (sourceId : Nat) : DriftEvent where
  sourceId := sourceId
  previousSnapshotId := 1
  currentSnapshotId := 1
  eventType := .breaking
  severity := .critical
  addedFields := []
  removedFields := ["name"]
  typeChangedFields := []
  compatibilityScore := 90
  summary := "Breaking contract drift detected."

def foreignState (sources : Rows SourceProfile) (sourceId : Nat) : State where
  contracts :=
    { sources
      snapshots := Rows.single 1 (foreignSnapshot sourceId)
      baselines := Rows.empty
      driftEvents := Rows.single 1 (foreignEvent sourceId) }
  incidents := Rows.empty
  observations := Rows.empty

theorem probe_start (named : ∀ {id source}, sources.get id = some source → source.id = id)
    (sourceId : Nat) : Probe sourceId (blankState sources) (foreignState sources sourceId) where
  agree := ⟨rfl, Alike.single fun ne => ne rfl, .refl _ _, Alike.single fun ne => ne rfl,
    .refl _ _, .refl _ _⟩
  first := ⟨named, nofun, nofun⟩
  second := ⟨named, nofun, nofun⟩
  noBaseline := nofun
  noSnapshot := nofun
  noEvent := nofun
  snapshot := ⟨1, foreignSnapshot sourceId, Rows.get_single _ _, rfl⟩
  event := ⟨1, foreignEvent sourceId, Rows.get_single _ _, rfl⟩

/-- A run that leaves the source alone in every state does not reach it. -/
theorem not_reached_of_isolated {requests : List Request}
    (guarded : ∀ request : Request, request.unguarded = false →
      reached settings caller sources request ≠ some sourceId)
    (probe : Probe sourceId s t) (registry : s.contracts.sources = sources)
    (untouched : Every (handle settings caller)
      (fun s request => Untouched sourceId s (handle settings caller s request).1) s requests)
    (same : outputs (handle settings caller) (fun _ => true) s requests =
      outputs (handle settings caller) (fun _ => true) t requests) :
    ∀ request ∈ requests, reached settings caller sources request ≠ some sourceId := by
  induction requests generalizing s t with
  | nil => exact fun _ mem => absurd mem List.not_mem_nil
  | cons request rest ih =>
    simp only [outputs, if_true, List.cons.injEq] at same
    have here : reached settings caller s.contracts.sources request ≠ some sourceId := by
      intro reaches
      cases kind : request.unguarded with
      | false => exact guarded request kind (registry ▸ reaches)
      | true =>
        by_cases ingests : ∃ payload clock, request = .ingestSnapshot payload clock
        · obtain ⟨payload, clock, rfl⟩ := ingests
          exact ingestSnapshot_touches probe reaches untouched.1
        · exact answer_differs probe (fun payload clock is => ingests ⟨payload, clock, is⟩) kind
            reaches same.1
    rw [List.forall_mem_cons]
    refine ⟨registry ▸ here, ih (probe.after here) ?_ untouched.2 same.2⟩
    rw [sources_handle settings caller probe.first, registry]

/-- **Tenant isolation** of a plain user's run over a source of another tenant: it holds
exactly when no request to a route without the scope check reaches the source. -/
theorem isolated_iff_not_reached (settings : Settings) (caller : Caller)
    (sources : Rows SourceProfile) (requests : List Request) {sourceId tenant : Nat} {own : Int}
    {source : SourceProfile}
    (named : ∀ {id source}, sources.get id = some source → source.id = id)
    (stored : sources.get sourceId = some source) (owner : source.tenantId = some tenant)
    (scope : caller.tenantId = some own) (foreign : (tenant : Int) ≠ own)
    (plain : "admin" ∉ roles settings caller) :
    Isolated settings caller sources sourceId requests ↔
      ∀ request ∈ requests, request.unguarded = true →
        reached settings caller sources request ≠ some sourceId := by
  have guarded : ∀ request : Request, request.unguarded = false →
      reached settings caller sources request ≠ some sourceId := fun _ =>
    not_reached_guarded stored owner scope foreign plain
  constructor
  · intro isolated request mem _
    have probe := probe_start named sourceId
    obtain ⟨untouched, same⟩ := isolated _ _ probe.first probe.second rfl probe.agree
    exact not_reached_of_isolated guarded probe rfl untouched same request mem
  · intro elsewhere
    refine isolated_of_not_reached fun request mem => ?_
    cases kind : request.unguarded with
    | false => exact guarded request kind
    | true => exact elsewhere request mem kind

end Runs

/-! ### A source of another tenant -/

def billing : SourceProfile where
  id := 1
  name := "billing"
  baseUrl := "https://billing.example.com"
  tenantId := some 2

/-- The registry with one source, of tenant 2. -/
def onlyBilling : Rows SourceProfile := Rows.single 1 billing

/-- A user of tenant 1. -/
def alice : Caller := { subject := "alice", tenantId := some 1 }

def userSettings : Settings where
  superadminSubject := "root"
  policy :=
    { casbinPolicy with
      g := { user := "alice", role := "user", domain := "1" } :: casbinPolicy.g }
  sha256 := id
  broker := false
  notificationsEnabled := false
  channels := false
  distinctChannels := true

theorem named_onlyBilling {id : Nat} {source : SourceProfile}
    (stored : onlyBilling.get id = some source) : source.id = id := by
  by_cases here : id = 1
  · subst here
    rw [onlyBilling, Rows.get_single] at stored
    obtain rfl := Option.some.inj stored
    rfl
  · rw [onlyBilling, Rows.get_single_of_ne here] at stored
    cases stored

/-- Reading and accepting the baseline leaves the source alone. -/
theorem isolated_baseline_requests :
    Isolated userSettings alice onlyBilling 1 [.getBaseline 1, .acceptBaseline 1 none none 5] := by
  refine (isolated_iff_not_reached userSettings alice onlyBilling _ named_onlyBilling
    (Rows.get_single 1 billing) rfl rfl (by decide) (by decide)).mpr fun request mem unguarded => ?_
  rcases List.mem_cons.mp mem with rfl | later
  · cases unguarded
  · obtain rfl := List.mem_singleton.mp later
    cases unguarded

/-- The other four routes reach it. -/
theorem billing_reached :
    ¬ Isolated userSettings alice onlyBilling 1
        [.ingestSnapshot { sourceId := 1, payloadSchema := [] } ⟨1, 2, 3, 4, 5, 6⟩] ∧
      ¬ Isolated userSettings alice onlyBilling 1 [.listSnapshots 1 0 50] ∧
      ¬ Isolated userSettings alice onlyBilling 1 [.listDriftEvents 1 0 50] ∧
      ¬ Isolated userSettings alice onlyBilling 1 [.compatibilityReport 1] := by
  have guarded : ∀ request : Request, request.unguarded = false →
      reached userSettings alice onlyBilling request ≠ some 1 := fun _ =>
    not_reached_guarded (Rows.get_single 1 billing) rfl rfl (by decide) (by decide)
  have probe := probe_start named_onlyBilling 1
  have reveals : ∀ request, reached userSettings alice onlyBilling request = some 1 →
      ¬ Isolated userSettings alice onlyBilling 1 [request] := by
    intro request reaches isolated
    obtain ⟨untouched, same⟩ := isolated _ _ probe.first probe.second rfl probe.agree
    exact not_reached_of_isolated guarded probe rfl untouched same request List.mem_cons_self
      reaches
  exact ⟨reveals _ (by decide), reveals _ (by decide), reveals _ (by decide),
    reveals _ (by decide)⟩

end ApiObservatory.ContractRoutes
