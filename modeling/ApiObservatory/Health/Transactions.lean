import ApiObservatory.Health.Reconcile

/-
`record_health_sample` for one source, statement by statement
(`services/ingestor/incident_lifecycle.py`).

A call inserts its sample, selects the newest samples and makes the calls of its
reconciliation, all in one transaction. The calls run as a probe of the
incidents (`Incidents.advance`), which takes no lock on a row it only reads. A
call whose `INSERT` finds the active key taken fails, and its sample with it.

A worker makes one call. A transition is kept when the call that returns it has
run: at the `SELECT` that finds an active incident, or at the `INSERT` of a new
one.
-/

namespace ApiObservatory.Health.Overlap

open Foundation Incidents

/-- The trigger and the text of an `IncidentTransition`. -/
abbrev Transition := TriggerType × String

/-- Where a call stands. -/
inductive CallPhase where
  | idle
  | received (payload : HealthSampleCreate)
  | inserted (payload : HealthSampleCreate) (sampleId : Nat)
  | reconciling (payload : HealthSampleCreate) (sampleId : Nat) (transitions : List Transition)
  | stored (payload : HealthSampleCreate) (sampleId : Nat) (transitions : List Transition)
  | failed (payload : HealthSampleCreate)

/-- The samples, and the incidents with the objects of the sessions. -/
structure State where
  samples : Table Worker ProviderHealthSample
  probes : Incidents.State HealthDetails
  call : Worker → CallPhase

/-- `now` and `checkedAt` are the clock times of the reconciliation. -/
inductive Label where
  | record (w : Worker) (payload : HealthSampleCreate)
  | advance (w : Worker) (now checkedAt : TriggerType → Int)

def Label.worker : Label → Worker
  | .record w _ => w
  | .advance w _ _ => w

namespace State

def moveTo (s : State) (w : Worker) (p : CallPhase) : State :=
  { s with call := Function.update s.call w p }

def commit (s : State) (w : Worker) (p : CallPhase) : State :=
  { s with samples := s.samples.commit w, probes := s.probes.commit w }.moveTo w p

def rollback (s : State) (w : Worker) (p : CallPhase) : State :=
  { s with samples := s.samples.rollback w, probes := s.probes.rollback w }.moveTo w p

end State

/-- The transition that the next statement of a reconciliation returns. -/
def returned (s : Incidents.State HealthDetails) (w : Worker) : Option Transition :=
  match s.phase w with
  | .probing source (.openOrUpdate triggerType severity summary details now checkedAt :: _) _ =>
      (s.selectActive w (fingerprint source triggerType)).map fun entry =>
        (triggerType, (openOrUpdateIncident (some entry.2) source triggerType severity summary
          details now checkedAt).transition)
  | .probing source (.resolveActive triggerType actor now :: _) _ =>
      (resolveActiveIncident ((s.selectActive w (fingerprint source triggerType)).map Prod.snd)
        actor now).map fun done => (triggerType, done.transition)
  | .inserting source _ [] new =>
      some (new.triggerType, (openOrUpdateIncident none source new.triggerType new.severity
        new.summary new.triggerDetails new.firstSeenAt new.lastSeenAt).transition)
  | _ => none

/-- A session without a transaction. -/
def ended : Phase HealthDetails → Bool
  | .idle => true
  | _ => false

/-- The session has written everything and commits next. -/
def committing : Phase HealthDetails → Bool
  | .flushing [] => true
  | _ => false

section Machine

variable (source : SourceProfile)

/-- The next statement of a call. A session that ends without a `COMMIT` has met
an error. -/
def advance (s : State) (w : Worker) (now checkedAt : TriggerType → Int) : Option State :=
  match s.call w with
  | .received payload =>
      some ({ s with samples := s.samples.insert w (newSample source payload) }.moveTo w
        (.inserted payload s.samples.rows.nextId))
  | .inserted payload sampleId =>
      let recent := recentSamples (s.samples.select w fun _ row => row.sourceId == source.id)
        source.incidentFailureThreshold
      let calls := reconcileCalls source sampleId (newSample source payload) recent now checkedAt
      some ({ s with probes := s.probes.moveTo w (.probing source calls []) }.moveTo w
        (.reconciling payload sampleId []))
  | .reconciling payload sampleId transitions =>
      if committing (s.probes.phase w) then
        some (s.commit w (.stored payload sampleId transitions))
      else
        match Incidents.advance s.probes w with
        | none => none
        | some probes =>
            if ended (probes.phase w) then some (s.rollback w (.failed payload))
            else some ({ s with probes }.moveTo w
              (.reconciling payload sampleId (transitions ++ (returned s.probes w).toList)))
  | _ => none

/-- One statement of one call. A call is for the source. -/
def next (s : State) (label : Label) : Option State :=
  match s.call label.worker, label with
  | .idle, .record w payload =>
      if payload.sourceId = source.id then some (s.moveTo w (.received payload)) else none
  | _, .advance w now checkedAt => advance source s w now checkedAt
  | _, _ => none

end Machine

/-- Any samples, no incident and no call. -/
def initial (samples : Rows ProviderHealthSample) : State where
  samples := .ofRows samples
  probes := Incidents.initial
  call _ := .idle

/-! ### What one statement does -/

/-- What a reconciliation makes of the active incident it has loaded, with the
text of its transition. -/
inductive Made (change : Change HealthDetails) : String → Prop where
  | deduplicated : change.changed.status = change.loaded.status →
      change.changed.activeKey = change.loaded.activeKey →
      change.changed.occurrenceCount = change.loaded.occurrenceCount + 1 →
      Made change "deduplicated"
  | resolved : change.changed.status = .resolved → change.changed.activeKey = none →
      change.changed.occurrenceCount = change.loaded.occurrenceCount → Made change "resolved"

/-- The statements of a reconciliation before its commit, with the transitions
they return. -/
inductive Reconciles (s : Incidents.State HealthDetails) (w : Worker) :
    Incidents.State HealthDetails → List Transition → Prop where
  | load (source : SourceProfile) (call : Call HealthDetails) (rest : List (Call HealthDetails))
      (changes : List (Change HealthDetails)) (change : Change HealthDetails) (text : String) :
      s.phase w = .probing source (call :: rest) changes →
      s.incidents.visible w change.id = some change.loaded →
      change.loaded.activeKey = some (fingerprint source call.triggerType) → Made change text →
      Reconciles s w (s.moveTo w (.probing source rest (addChange change changes)))
        [(call.triggerType, text)]
  | skip (source : SourceProfile) (call : Call HealthDetails) (rest : List (Call HealthDetails))
      (changes : List (Change HealthDetails)) :
      s.phase w = .probing source (call :: rest) changes →
      Reconciles s w (s.moveTo w (.probing source rest changes)) []
  | create (source : SourceProfile) (call : Call HealthDetails) (rest : List (Call HealthDetails))
      (changes : List (Change HealthDetails)) (severity summary : String) (details : HealthDetails)
      (now : Int) :
      s.phase w = .probing source (call :: rest) changes →
      s.selectActive w (fingerprint source call.triggerType) = none →
      Reconciles s w (s.moveTo w (.inserting source rest changes
        (openIncident source call.triggerType severity summary details now))) []
  | finish (source : SourceProfile) (changes : List (Change HealthDetails)) :
      s.phase w = .probing source [] changes → Reconciles s w (s.moveTo w (.flushing changes)) []
  | update (change : Change HealthDetails) (p : Phase HealthDetails) (stored : Incident) :
      Sends (s.phase w) change p → s.incidents.visible w change.id = some stored →
      s.incidents.free w change.id → Reconciles s w (s.update w change stored p) []
  | insert (source : SourceProfile) (calls : List (Call HealthDetails)) (new : Incident) :
      s.phase w = .inserting source calls [] new →
      s.incidents.contested w (·.activeKey == some new.fingerprint) = false →
      s.selectActive w new.fingerprint = none →
      Reconciles s w (s.insert w new (.probing source calls [])) [(new.triggerType, "opened")]

/-- The errors of a reconciliation: the row of an `UPDATE` is gone, or the key of
an `INSERT` is taken. -/
inductive Fails (s : Incidents.State HealthDetails) (w : Worker) : Prop where
  | gone (change : Change HealthDetails) (p : Phase HealthDetails) :
      Sends (s.phase w) change p → s.incidents.visible w change.id = none → Fails s w
  | taken (source : SourceProfile) (calls : List (Call HealthDetails)) (new row : Incident)
      (id : Nat) : s.phase w = .inserting source calls [] new →
      s.incidents.visible w id = some row → row.activeKey = some new.fingerprint → Fails s w

/-- The statements, with what is known where they run. -/
inductive Step (source : SourceProfile) (s : State) : Label → State → Prop where
  | record (w : Worker) (payload : HealthSampleCreate) :
      s.call w = .idle → Step source s (.record w payload) (s.moveTo w (.received payload))
  | addSample (w : Worker) (payload : HealthSampleCreate) (now checkedAt : TriggerType → Int) :
      s.call w = .received payload →
      Step source s (.advance w now checkedAt)
        ({ s with samples := s.samples.insert w (newSample source payload) }.moveTo w
          (.inserted payload s.samples.rows.nextId))
  | selectRecent (w : Worker) (payload : HealthSampleCreate) (sampleId : Nat)
      (calls : List (Call HealthDetails)) (now checkedAt : TriggerType → Int) :
      s.call w = .inserted payload sampleId →
      (calls.map Call.triggerType).Sublist [.availability, .latency] →
      Step source s (.advance w now checkedAt)
        ({ s with probes := s.probes.moveTo w (.probing source calls []) }.moveTo w
          (.reconciling payload sampleId []))
  | reconcile (w : Worker) (payload : HealthSampleCreate) (sampleId : Nat)
      (transitions returns : List Transition) (probes : Incidents.State HealthDetails)
      (now checkedAt : TriggerType → Int) :
      s.call w = .reconciling payload sampleId transitions →
      Reconciles s.probes w probes returns →
      Step source s (.advance w now checkedAt)
        ({ s with probes }.moveTo w (.reconciling payload sampleId (transitions ++ returns)))
  | commit (w : Worker) (payload : HealthSampleCreate) (sampleId : Nat)
      (transitions : List Transition) (now checkedAt : TriggerType → Int) :
      s.call w = .reconciling payload sampleId transitions → s.probes.phase w = .flushing [] →
      Step source s (.advance w now checkedAt)
        (s.commit w (.stored payload sampleId transitions))
  | fail (w : Worker) (payload : HealthSampleCreate) (sampleId : Nat)
      (transitions : List Transition) (now checkedAt : TriggerType → Int) :
      s.call w = .reconciling payload sampleId transitions → Fails s.probes w →
      Step source s (.advance w now checkedAt) (s.rollback w (.failed payload))

/-- A reconciliation asks for availability, then for latency, once each. -/
theorem reconcileCalls_triggers (source : SourceProfile) (sampleId : Nat)
    (sample : ProviderHealthSample) (recent : List ProviderHealthSample)
    (now checkedAt : TriggerType → Int) :
    ((reconcileCalls source sampleId sample recent now checkedAt).map Call.triggerType).Sublist
      [.availability, .latency] := by
  have availability : ((availabilityCalls source sampleId sample recent now checkedAt).map
      Call.triggerType).Sublist [.availability] := by
    unfold availabilityCalls
    simp only
    split
    · exact .refl _
    · split
      · exact .refl _
      · exact List.nil_sublist _
  have latency : ((latencyCalls source sampleId sample recent now checkedAt).map
      Call.triggerType).Sublist [.latency] := by
    unfold latencyCalls
    simp only
    split
    · exact List.nil_sublist _
    · split
      · exact .refl _
      · split
        · exact .refl _
        · exact List.nil_sublist _
  rw [reconcileCalls, List.map_append]
  exact availability.append latency

theorem committing_iff {p : Phase HealthDetails} : committing p = true ↔ p = .flushing [] := by
  cases p with
  | flushing changes => cases changes <;> simp [committing]
  | _ => simp [committing]

section Steps

variable {probes probes' : Incidents.State HealthDetails} {w : Worker}

theorem phase_rollback : (probes.rollback w).phase w = .idle := by
  simp [Incidents.State.rollback]

theorem phase_update (change : Change HealthDetails) (stored : Incident)
    (p : Phase HealthDetails) : (probes.update w change stored p).phase w = p := by
  simp [Incidents.State.update]

theorem phase_insert (new : Incident) (p : Phase HealthDetails) :
    (probes.insert w new p).phase w = p := by
  simp [Incidents.State.insert]

theorem sendUpdate_cases {change : Change HealthDetails} {p : Phase HealthDetails}
    (sends : Sends (probes.phase w) change p) (h : probes.sendUpdate w change p = some probes') :
    (probes' = probes.rollback w ∧ Fails probes w) ∨
      (probes'.phase w = p ∧ Reconciles probes w probes' []) := by
  unfold Incidents.State.sendUpdate at h
  split at h
  · rename_i gone
    obtain rfl := Option.some.inj h
    exact Or.inl ⟨rfl, .gone change p sends gone⟩
  · rename_i stored seen
    split at h
    · rename_i unlocked
      obtain rfl := Option.some.inj h
      exact Or.inr ⟨phase_update change stored p, .update change p stored sends seen unlocked⟩
    · cases h

theorem sendInsert_cases {source : SourceProfile} {calls : List (Call HealthDetails)}
    {new : Incident} (phase : probes.phase w = .inserting source calls [] new)
    (h : probes.sendInsert w new (.probing source calls []) = some probes') :
    (probes' = probes.rollback w ∧ Fails probes w) ∨
      (probes'.phase w = .probing source calls [] ∧
        Reconciles probes w probes' [(new.triggerType, "opened")]) := by
  unfold Incidents.State.sendInsert at h
  split at h
  · cases h
  · rename_i uncontested
    split at h
    · rename_i absent
      obtain rfl := Option.some.inj h
      refine Or.inr ⟨phase_insert new _, ?_⟩
      exact .insert source calls new phase (Bool.not_eq_true _ ▸ uncontested) absent
    · rename_i id row found
      split at h
      · obtain rfl := Option.some.inj h
        obtain ⟨seen, keyed⟩ := selectActive_some found
        exact Or.inl ⟨rfl, .taken source calls new row id phase seen keyed⟩
      · cases h

/-- One call of a reconciliation: its `SELECT` and what it returns. -/
theorem reconciles_probeCall {source : SourceProfile} {call : Call HealthDetails}
    {rest : List (Call HealthDetails)} {changes : List (Change HealthDetails)}
    (phase : probes.phase w = .probing source (call :: rest) changes) :
    ended (probeCall probes w source call rest changes) = false ∧
      Reconciles probes w (probes.moveTo w (probeCall probes w source call rest changes))
        (returned probes w).toList := by
  cases call with
  | openOrUpdate triggerType severity summary details now checkedAt =>
    simp only [probeCall, returned, phase]
    cases found : probes.selectActive w (fingerprint source triggerType) with
    | none =>
      exact ⟨rfl, .create source _ rest changes severity summary details now phase found⟩
    | some entry =>
      obtain ⟨seen, keyed⟩ := selectActive_some found
      refine ⟨rfl, ?_⟩
      exact .load source _ rest changes ⟨entry.1, entry.2, _⟩ "deduplicated" phase seen keyed
        (.deduplicated rfl rfl rfl)
  | resolveActive triggerType actor now =>
    simp only [probeCall, returned, phase]
    cases found : probes.selectActive w (fingerprint source triggerType) with
    | none => exact ⟨rfl, .skip source _ rest changes phase⟩
    | some entry =>
      obtain ⟨seen, keyed⟩ := selectActive_some found
      refine ⟨rfl, ?_⟩
      exact .load source _ rest changes ⟨entry.1, entry.2, _⟩ "resolved" phase seen keyed
        (.resolved rfl rfl rfl)

/-- The next statement of a reconciliation, other than its commit: it fails, or
runs and returns its transition. -/
theorem reconciles_advance (uncommitted : committing (probes.phase w) = false)
    (h : Incidents.advance probes w = some probes') :
    (probes' = probes.rollback w ∧ Fails probes w) ∨
      (ended (probes'.phase w) = false ∧
        Reconciles probes w probes' (returned probes w).toList) := by
  unfold Incidents.advance at h
  split at h
  · cases h
  · rename_i source call rest changes phase
    obtain rfl := Option.some.inj h
    obtain ⟨goesOn, reconciles⟩ := reconciles_probeCall phase
    rw [phase_moveTo_self]
    exact Or.inr ⟨goesOn, reconciles⟩
  · rename_i source changes phase
    obtain rfl := Option.some.inj h
    rw [phase_moveTo_self]
    refine Or.inr ⟨rfl, ?_⟩
    rw [returned, phase]
    exact .finish source changes phase
  · rename_i source calls change rest new phase
    have sends : Sends (probes.phase w) change (.inserting source calls rest new) := by
      rw [phase]
      exact .inserting source calls change rest new
    rcases sendUpdate_cases sends h with fails | ⟨is, reconciles⟩
    · exact Or.inl fails
    · rw [is, returned, phase]
      exact Or.inr ⟨rfl, reconciles⟩
  · rename_i source calls new phase
    rcases sendInsert_cases phase h with fails | ⟨is, reconciles⟩
    · exact Or.inl fails
    · rw [is, returned, phase]
      exact Or.inr ⟨rfl, reconciles⟩
  · rename_i change rest phase
    have sends : Sends (probes.phase w) change (.flushing rest) := by
      rw [phase]
      exact .flushing change rest
    rcases sendUpdate_cases sends h with fails | ⟨is, reconciles⟩
    · exact Or.inl fails
    · rw [is, returned, phase]
      exact Or.inr ⟨rfl, reconciles⟩
  · rename_i phase
    rw [phase] at uncommitted
    cases uncommitted

variable {source : SourceProfile} {s s' : State} {label : Label}

theorem advance_step {now checkedAt : TriggerType → Int}
    (h : advance source s w now checkedAt = some s') :
    Step source s (.advance w now checkedAt) s' := by
  unfold Overlap.advance at h
  split at h
  · rename_i payload call
    obtain rfl := Option.some.inj h
    exact .addSample w payload now checkedAt call
  · rename_i payload sampleId call
    obtain rfl := Option.some.inj h
    exact .selectRecent w payload sampleId _ now checkedAt call (reconcileCalls_triggers ..)
  · rename_i payload sampleId transitions call
    split at h
    · rename_i commits
      obtain rfl := Option.some.inj h
      exact .commit w payload sampleId transitions now checkedAt call (committing_iff.mp commits)
    · rename_i uncommitted
      split at h
      · cases h
      · rename_i probes ran
        rcases reconciles_advance (Bool.not_eq_true _ ▸ uncommitted) ran with
          ⟨rfl, fails⟩ | ⟨goesOn, reconciles⟩
        · rw [phase_rollback] at h
          obtain rfl := Option.some.inj h
          exact .fail w payload sampleId transitions now checkedAt call fails
        · rw [goesOn] at h
          obtain rfl := Option.some.inj h
          exact .reconcile w payload sampleId transitions _ probes now checkedAt call reconciles
  · cases h

/-- **Every enabled label is one of the statements.** -/
theorem next_step (h : next source s label = some s') : Step source s label s' := by
  unfold Overlap.next at h
  split at h
  · rename_i w payload call
    split at h
    · obtain rfl := Option.some.inj h
      exact .record w payload call
    · cases h
  · exact advance_step h
  · cases h

/-- A reconciliation is a run of the incident machine. -/
theorem Reconciles.step {returns : List Transition}
    (reconciles : Reconciles probes w probes' returns) :
    Incidents.Step probes (.advance w) probes' := by
  cases reconciles with
  | load source call rest changes change text phase seen keyed made =>
    refine .load w source call rest changes change phase seen (fun coherent => ?_) fun changed => ?_
    · cases made with
      | deduplicated status key count => exact .keeps status key
      | resolved status key count =>
        exact .resolves (coherent.active_of_key (by rw [keyed]; simp)) (by rw [keyed]; simp)
          status key
    · cases made with
      | deduplicated status key count => exact status.symm.trans changed
      | resolved status key count => cases status.symm.trans changed
  | skip source call rest changes phase => exact .skip w source call rest changes phase
  | create source call rest changes severity summary details now phase absent =>
    exact .create w source call rest changes _ phase rfl rfl
  | finish source changes phase => exact .finish w source changes phase
  | update change p stored sends seen unlocked =>
    exact .update w change p stored sends seen unlocked
  | insert source calls new phase uncontested absent =>
    exact .insert w source calls new phase uncontested absent

end Steps

end ApiObservatory.Health.Overlap
