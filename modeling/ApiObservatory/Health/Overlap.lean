import ApiObservatory.Health.Sessions

/-
Health samples that are recorded at the same time.

No call locks what it reads. Two calls that both find no incident both open one:
the second `INSERT` waits for the first call, then fails, and its sample is lost
(`sample_lost_under_opening`). Two calls that both read the counter of the
active incident both write the value read plus one
(`occurrence_lost_under_update`). In every run in which no call commits an
incident between another call's `SELECT` of it and that call's own write, every
call stores its sample, and the counter of the active availability incident is
the number of calls that have counted since it opened (`samples_kept`).

Rows are written in the order of their ids, and a call that waits for the key of
a new incident waits for one that can go on, so no calls wait for each other.
-/

namespace ApiObservatory.Health.Overlap

open Foundation Incidents

/-! ### The condition -/

/-- The step commits an incident under a key that another call has found free
and not yet taken. -/
def OpensUnder (s : State) (label : Label) : Prop :=
  ∃ w now checkedAt w' profile calls changes new id p, label = .advance w now checkedAt ∧
    s.probes.phase w = .flushing [] ∧ s.probes.phase w' = .inserting profile calls changes new ∧
    s.probes.incidents.pending w id = some p ∧ p.activeKey = some new.fingerprint

/-- The step commits a version of the availability incident that another call has
read to count an occurrence, and not yet written. -/
def WritesUnder (source : SourceProfile) (s : State) (label : Label) : Prop :=
  ∃ w now checkedAt w' change p, label = .advance w now checkedAt ∧
    s.probes.phase w = .flushing [] ∧ change ∈ (s.probes.phase w').changes ∧
    change.loaded.activeKey = some (fingerprint source .availability) ∧
    change.changed.occurrenceCount ≠ change.loaded.occurrenceCount ∧
    s.probes.incidents.pending w change.id = some p

/-- No call commits an incident between another call's `SELECT` and its write. -/
structure Undisturbed (source : SourceProfile) (s : State) (label : Label) : Prop where
  opens : ¬ OpensUnder s label
  writes : ¬ WritesUnder source s label

/-! ### What is counted -/

/-- The transitions of the call that the step commits. -/
def committed (s : State) : Label → Option (List Transition)
  | .record _ _ => none
  | .advance w _ _ =>
      match s.call w with
      | .reconciling _ _ transitions =>
          if committing (s.probes.phase w) then some transitions else none
      | _ => none

/-- The occurrences once a call with these transitions has committed. -/
def countOf (transitions : List Transition) (count : Nat) : Nat :=
  match transitions.lookup .availability with
  | none => count
  | some text =>
      if text = "opened" then 1 else if text = "deduplicated" then count + 1 else count

/-- The calls committed since the last one that opened the availability
incident, that one included, whose transition was opened or deduplicated. -/
def occurrences : List (State × Label) → Nat
  | [] => 0
  | (s, label) :: earlier =>
      match committed s label with
      | none => occurrences earlier
      | some transitions => countOf transitions (occurrences earlier)

/-! ### Every session -/

/-- What a call holds. -/
def CallOk (source : SourceProfile) (s : State) (w : Worker) : Prop :=
  match s.call w with
  | .idle => Closed s.probes w ∧ s.samples.Unwritten w
  | .received _ => Closed s.probes w ∧ s.samples.Unwritten w
  | .inserted payload sampleId =>
      Closed s.probes w ∧ s.samples.Wrote w sampleId (newSample source payload)
  | .reconciling payload sampleId transitions =>
      Reconciling source s.probes w transitions ∧
        s.samples.Wrote w sampleId (newSample source payload)
  | .stored payload sampleId _ =>
      Closed s.probes w ∧ s.samples.Unwritten w ∧
        s.samples.rows.get sampleId = some (newSample source payload)
  | .failed _ => False

/-- An incident is of the source, under the name of its trigger. -/
def Named (source : SourceProfile) (row : Incident) : Prop :=
  row.fingerprint = fingerprint source row.triggerType

structure Invariant (source : SourceProfile) (s : State) : Prop where
  incidents : Incidents.Invariant s.probes
  named : ∀ {id row}, s.probes.incidents.rows.get id = some row → Named source row
  namedWrites : ∀ {w id p}, s.probes.incidents.pending w id = some p → Named source p
  locks : s.probes.incidents.LocksWritten
  fresh : ∀ {w id p}, s.samples.pending w id = some p → s.samples.rows.get id = none
  calls : ∀ w, CallOk source s w

theorem invariant_initial (source : SourceProfile) (samples : Rows ProviderHealthSample) :
    Invariant source (initial samples) where
  incidents := Incidents.invariant_initial
  named stored := nomatch stored
  namedWrites wrote := nomatch wrote
  locks := Table.locksWritten_ofRows _
  fresh wrote := nomatch wrote
  calls _ := ⟨⟨rfl, rfl⟩, rfl⟩

section Calls

variable {source : SourceProfile} {s s' : State} {w : Worker} {label : Label}

theorem Invariant.session (inv : Invariant source s) (w : Worker) :
    Closed s.probes w ∨
      ∃ payload sampleId transitions, s.call w = .reconciling payload sampleId transitions := by
  have ok := inv.calls w
  unfold CallOk at ok
  cases call : s.call w with
  | idle =>
    rw [call] at ok
    exact Or.inl ok.1
  | received payload =>
    rw [call] at ok
    exact Or.inl ok.1
  | inserted payload sampleId =>
    rw [call] at ok
    exact Or.inl ok.1
  | reconciling payload sampleId transitions => exact Or.inr ⟨payload, sampleId, transitions, rfl⟩
  | stored payload sampleId transitions =>
    rw [call] at ok
    exact Or.inl ok.1
  | failed payload =>
    rw [call] at ok
    exact ok.elim

theorem Invariant.reconciling (inv : Invariant source s) {payload : HealthSampleCreate}
    {sampleId : Nat} {transitions : List Transition}
    (call : s.call w = .reconciling payload sampleId transitions) :
    Reconciling source s.probes w transitions ∧
      s.samples.Wrote w sampleId (newSample source payload) := by
  have ok := inv.calls w
  unfold CallOk at ok
  rwa [call] at ok

/-- No call acknowledges an incident. -/
theorem Invariant.apart (inv : Invariant source s) (label : Incidents.Label HealthDetails) :
    ¬ ResolvesUnderAcknowledgement s.probes label := by
  rintro ⟨-, -, w', change, -, -, phase, acknowledges, -, -⟩
  rcases inv.session w' with closed | ⟨payload, sampleId, transitions, call⟩
  · rw [closed.ended] at phase
    cases phase
  · have on := (inv.reconciling call).1
    obtain ⟨entry, -, unwritten⟩ := on.changes change (by rw [phase]; exact List.mem_cons_self)
    exact unwritten.made.ordinary acknowledges

/-- On the incidents a statement is one of the incident machine, or none. -/
theorem Invariant.probes_step (inv : Invariant source s) (step : Step source s label s') :
    s'.probes = s.probes ∨ ∃ label' : Incidents.Label HealthDetails,
      label'.worker = label.worker ∧ Incidents.Step s.probes label' s'.probes := by
  cases step with
  | record => exact Or.inl rfl
  | addSample => exact Or.inl rfl
  | selectRecent w payload sampleId calls now checkedAt call =>
    have ok := inv.calls w
    unfold CallOk at ok
    rw [call] at ok
    exact Or.inr ⟨.probe w source calls, rfl, .probe w source calls ok.1.ended⟩
  | reconcile w payload sampleId transitions returns probes now checkedAt call reconciles =>
    exact Or.inr ⟨.advance w, rfl, reconciles.step⟩
  | commit w payload sampleId transitions now checkedAt call phase =>
    exact Or.inr ⟨.advance w, rfl, .commit w phase⟩
  | fail w payload sampleId transitions now checkedAt call fails =>
    exact Or.inr ⟨.advance w, rfl, .rollback w _ rfl⟩

theorem Reconciles.rows {probes probes' : Incidents.State HealthDetails}
    {returns : List Transition} (reconciles : Reconciles probes w probes' returns) :
    probes'.incidents.rows.get = probes.incidents.rows.get := by
  cases reconciles with
  | update change p stored => exact rows_update probes w change stored p
  | _ => rfl

theorem Reconciles.uncommitted {probes probes' : Incidents.State HealthDetails}
    {returns : List Transition} (reconciles : Reconciles probes w probes' returns) :
    committing (probes.phase w) = false := by
  cases reconciles with
  | load other call rest changes change text phase =>
    rw [phase]
    rfl
  | skip other call rest changes phase =>
    rw [phase]
    rfl
  | create other call rest changes severity summary details now phase =>
    rw [phase]
    rfl
  | finish other changes phase =>
    rw [phase]
    rfl
  | update change p stored sends =>
    generalize probes.phase w = phase at sends
    cases sends with
    | inserting => rfl
    | flushing => rfl
  | insert other calls new phase =>
    rw [phase]
    rfl

/-- Only a commit changes committed incidents, to what its session sees. -/
theorem Step.rows (step : Step source s label s') (id : Nat) :
    s'.probes.incidents.rows.get id = s.probes.incidents.rows.get id ∨
      ∃ w now checkedAt, label = .advance w now checkedAt ∧ s.probes.phase w = .flushing [] ∧
        s'.probes.incidents.rows.get id = s.probes.incidents.visible w id := by
  cases step with
  | reconcile w payload sampleId transitions returns probes now checkedAt call reconciles =>
    exact Or.inl (congrFun reconciles.rows id)
  | commit w payload sampleId transitions now checkedAt call phase =>
    exact Or.inr ⟨w, now, checkedAt, rfl, phase, rfl⟩
  | _ => exact Or.inl rfl

/-- A statement changes nothing for the other calls. -/
theorem Step.frame (step : Step source s label s') (ne : w ≠ label.worker) :
    s'.call w = s.call w ∧ Table.Keeps w s.samples s'.samples := by
  cases step with
  | addSample => exact ⟨Function.update_of_ne ne _ _, Table.keeps_insert ne _⟩
  | commit => exact ⟨Function.update_of_ne ne _ _, Table.keeps_commit ne⟩
  | fail => exact ⟨Function.update_of_ne ne _ _, Table.keeps_rollback ne⟩
  | _ => exact ⟨Function.update_of_ne ne _ _, .refl w _⟩

/-- A statement moves its own session only. -/
theorem Step.phase (step : Step source s label s') (ne : w ≠ label.worker) :
    s'.probes.phase w = s.probes.phase w := by
  cases step with
  | selectRecent => exact phase_moveTo_of_ne ne _
  | reconcile v payload sampleId transitions returns probes now checkedAt call reconciles =>
    exact (reconciles.step.frame ne).1
  | commit => exact phase_moveTo_of_ne ne _
  | fail => exact phase_moveTo_of_ne ne _
  | _ => rfl

theorem Invariant.probes_frame (inv : Invariant source s) (step : Step source s label s')
    (ne : w ≠ label.worker) :
    s'.probes.phase w = s.probes.phase w ∧
      Table.Keeps w s.probes.incidents s'.probes.incidents := by
  rcases inv.probes_step step with same | ⟨label', is, moves⟩
  · rw [same]
    exact ⟨rfl, .refl w _⟩
  · exact moves.frame (is ▸ ne)

theorem opening_eq {phase : Phase HealthDetails} {new : Incident} (mem : new ∈ opening phase) :
    ∃ profile calls changes, phase = .inserting profile calls changes new := by
  cases phase with
  | inserting profile calls changes other =>
    obtain rfl := Option.some.inj mem
    exact ⟨profile, calls, changes, rfl⟩
  | _ => cases mem

/-- **The other sessions keep their facts.** -/
theorem Invariant.reconciling_frame (inv : Invariant source s)
    (undisturbed : Undisturbed source s label) (step : Step source s label s')
    (ne : w ≠ label.worker) {transitions : List Transition}
    (on : Reconciling source s.probes w transitions) :
    Reconciling source s'.probes w transitions := by
  obtain ⟨phase, keeps⟩ := inv.probes_frame step ne
  refine on.frame phase keeps ?_ ?_ ?_
  · intro id row stored
    rcases inv.probes_step step with same | ⟨label', -, moves⟩
    · rw [same]
      exact ⟨row, stored, rfl⟩
    · obtain ⟨row', stored', evolves⟩ := inv.incidents.evolves moves stored
      exact ⟨row', stored', evolves.fingerprint⟩
  · intro change mem keyed counts
    rcases step.rows change.id with same | ⟨t, now, checkedAt, is, commits, published⟩
    · exact same
    · cases wrote : s.probes.incidents.pending t change.id with
      | none => exact published.trans (Table.visible_eq_rows wrote)
      | some p =>
        refine absurd ?_ undisturbed.writes
        exact ⟨t, now, checkedAt, w, change, p, is, commits, mem, keyed, counts, wrote⟩
  · intro new mem id row stored keyed
    rcases step.rows id with same | ⟨t, now, checkedAt, is, commits, published⟩
    · exact same.symm.trans stored
    · rcases Table.pending_or_stored (published.symm.trans stored) with wrote | ⟨-, there⟩
      · obtain ⟨profile, calls, changes, inserts⟩ := opening_eq mem
        refine absurd ?_ undisturbed.opens
        exact ⟨t, now, checkedAt, w, profile, calls, changes, new, id, row, is, commits, inserts,
          wrote, keyed⟩
      · exact there

/-- A committed sample stays as it is. -/
theorem Invariant.sample_stays (inv : Invariant source s) (step : Step source s label s')
    {id : Nat} {sample : ProviderHealthSample} (stored : s.samples.rows.get id = some sample) :
    s'.samples.rows.get id = some sample := by
  cases step with
  | addSample => exact stored
  | commit w payload sampleId transitions now checkedAt call phase =>
    have clean : s.samples.pending w id = none := by
      cases wrote : s.samples.pending w id with
      | none => rfl
      | some p => cases (inv.fresh wrote).symm.trans stored
    exact (Table.visible_eq_rows clean).trans stored
  | fail => exact stored
  | _ => exact stored

theorem Invariant.callOk_frame (inv : Invariant source s)
    (undisturbed : Undisturbed source s label) (step : Step source s label s')
    (ne : w ≠ label.worker) : CallOk source s' w := by
  obtain ⟨call, samples⟩ := step.frame ne
  obtain ⟨phase, incidents⟩ := inv.probes_frame step ne
  have closed : Closed s.probes w → Closed s'.probes w := fun closed =>
    ⟨phase.trans closed.ended, incidents.unwritten closed.unwritten⟩
  have ok := inv.calls w
  unfold CallOk at ok ⊢
  rw [call]
  cases is : s.call w with
  | idle =>
    rw [is] at ok
    exact ⟨closed ok.1, samples.unwritten ok.2⟩
  | received payload =>
    rw [is] at ok
    exact ⟨closed ok.1, samples.unwritten ok.2⟩
  | inserted payload sampleId =>
    rw [is] at ok
    exact ⟨closed ok.1, samples.wrote ok.2⟩
  | reconciling payload sampleId transitions =>
    rw [is] at ok
    exact ⟨inv.reconciling_frame undisturbed step ne ok.1, samples.wrote ok.2⟩
  | stored payload sampleId transitions =>
    rw [is] at ok
    exact ⟨closed ok.1, samples.unwritten ok.2.1, inv.sample_stays step ok.2.2⟩
  | failed payload =>
    rw [is] at ok
    exact ok

/-- The first state of a session. -/
theorem reconciling_start {probes : Incidents.State HealthDetails} (closed : Closed probes w)
    {calls : List (Call HealthDetails)}
    (order : (calls.map Call.triggerType).Sublist [.availability, .latency]) :
    Reconciling source (probes.moveTo w (.probing source calls [])) w [] := by
  have clean : ∀ id, (probes.moveTo w (.probing source calls [])).incidents.pending w id = none :=
    fun id => congrFun closed.unwritten id
  refine ⟨?_, ?_, ?_, ?_, ?_, nofun, ?_, ?_, nofun, ?_⟩
  · simp
  · rw [phase_moveTo_self]
    intro other mem
    exact (Option.some.inj mem).symm
  · rw [phase_moveTo_self]
    exact order
  · rw [phase_moveTo_self]
    intro change mem
    cases mem
  · intro id p wrote
    cases (clean id).symm.trans wrote
  · rw [phase_moveTo_self]
    exact List.Pairwise.nil
  · intro id p row wrote
    cases (clean id).symm.trans wrote
  · rw [phase_moveTo_self]
    intro new mem
    cases mem

theorem Step.callOk (step : Step source s label s') (inv : Invariant source s) :
    CallOk source s' label.worker := by
  have ok := inv.calls label.worker
  unfold CallOk at ok ⊢
  cases step with
  | record w payload call =>
    simp only [Label.worker, call] at ok
    simpa only [Label.worker, State.moveTo, Function.update_self] using ok
  | addSample w payload now checkedAt call =>
    simp only [Label.worker, call] at ok
    simp only [Label.worker, State.moveTo, Function.update_self]
    exact ⟨ok.1, ok.2.insert _⟩
  | selectRecent w payload sampleId calls now checkedAt call order =>
    simp only [Label.worker, call] at ok
    simp only [Label.worker, State.moveTo, Function.update_self]
    exact ⟨reconciling_start ok.1 order, ok.2⟩
  | reconcile w payload sampleId transitions returns probes now checkedAt call reconciles =>
    simp only [Label.worker, call] at ok
    simp only [Label.worker, State.moveTo, Function.update_self]
    exact ⟨ok.1.reconciles inv.incidents reconciles, ok.2⟩
  | commit w payload sampleId transitions now checkedAt call phase =>
    simp only [Label.worker, call] at ok
    simp only [Label.worker, State.commit, State.moveTo, Function.update_self]
    refine ⟨⟨?_, Table.unwritten_commit⟩, Table.unwritten_commit, ok.2.visible_self⟩
    simp [Incidents.State.commit]
  | fail w payload sampleId transitions now checkedAt call fails =>
    exact absurd fails (inv.reconciling call).1.not_fails

theorem Invariant.namedVisible (inv : Invariant source s) {id : Nat} {row : Incident}
    (seen : s.probes.incidents.visible w id = some row) : Named source row := by
  rcases Table.pending_or_stored seen with wrote | ⟨-, there⟩
  · exact inv.namedWrites wrote
  · exact inv.named there

theorem Invariant.named_step (inv : Invariant source s) (step : Step source s label s') {id : Nat}
    {row : Incident} (stored : s'.probes.incidents.rows.get id = some row) : Named source row := by
  rcases step.rows id with same | ⟨t, now, checkedAt, -, -, published⟩
  · exact inv.named (same.symm.trans stored)
  · exact inv.namedVisible (published.symm.trans stored)

theorem Invariant.namedWrites_step (inv : Invariant source s) (step : Step source s label s')
    {id : Nat} {p : Incident} (wrote : s'.probes.incidents.pending w id = some p) :
    Named source p := by
  cases step with
  | reconcile t payload sampleId transitions returns probes now checkedAt call reconciles =>
    have on := (inv.reconciling call).1
    cases reconciles with
    | update change next stored sends seen unlocked =>
      rcases Table.pending_write_cases wrote with ⟨-, -, rfl⟩ | old
      · -- An `UPDATE` writes neither the name nor the trigger.
        have is : stored.fingerprint = fingerprint source stored.triggerType :=
          inv.namedVisible seen
        exact is
      · exact inv.namedWrites old
    | insert other rest new phase uncontested free =>
      rcases Table.pending_insert_cases wrote with ⟨-, -, rfl⟩ | old
      · have absent := on.absent
        rw [phase] at absent
        exact (absent p rfl).2.2.1
      · exact inv.namedWrites old
    | _ => exact inv.namedWrites wrote
  | commit t => exact inv.namedWrites (Table.pending_commit_cases wrote).2
  | fail t => exact inv.namedWrites (Table.pending_rollback_cases wrote).2
  | _ => exact inv.namedWrites wrote

theorem Invariant.locks_step (inv : Invariant source s) (step : Step source s label s') :
    s'.probes.incidents.LocksWritten := by
  cases step with
  | reconcile t payload sampleId transitions returns probes now checkedAt call reconciles =>
    cases reconciles with
    | update => exact Table.LocksWritten.write inv.locks _ _
    | insert => exact Table.LocksWritten.insert inv.locks _
    | _ => exact inv.locks
  | commit => exact Table.LocksWritten.release inv.locks _ rfl
  | fail => exact Table.LocksWritten.release inv.locks _ rfl
  | _ => exact inv.locks

theorem Invariant.fresh_step (inv : Invariant source s) (step : Step source s label s') {id : Nat}
    {p : ProviderHealthSample} (wrote : s'.samples.pending w id = some p) :
    s'.samples.rows.get id = none := by
  cases step with
  | addSample t payload now checkedAt call =>
    rcases Table.pending_insert_cases wrote with ⟨-, rfl, -⟩ | old
    · exact s.samples.rows.unused _ (Nat.le_refl _)
    · exact inv.fresh old
  | commit t =>
    obtain ⟨ne, old⟩ := Table.pending_commit_cases wrote
    refine Eq.trans (Table.get_commit_of_not_held ?_) (inv.fresh old)
    rw [s.samples.held old]
    simpa using ne
  | fail t => exact inv.fresh (Table.pending_rollback_cases wrote).2
  | _ => exact inv.fresh wrote

/-- **Every undisturbed statement keeps the invariant.** -/
theorem Invariant.step (inv : Invariant source s) (undisturbed : Undisturbed source s label)
    (step : Step source s label s') : Invariant source s' where
  incidents := by
    rcases inv.probes_step step with same | ⟨label', -, moves⟩
    · exact same ▸ inv.incidents
    · exact inv.incidents.step (inv.apart label') moves
  named := inv.named_step step
  namedWrites := inv.namedWrites_step step
  locks := inv.locks_step step
  fresh := inv.fresh_step step
  calls w := by
    by_cases e : w = label.worker
    · subst e
      exact step.callOk inv
    · exact inv.callOk_frame undisturbed step e

end Calls

/-! ### The counter -/

section Count

variable {source : SourceProfile} {s s' : State} {w : Worker} {label : Label}

/-- The counter of the active availability incident. -/
def Counts (source : SourceProfile) (s : State) (count : Nat) : Prop :=
  ∀ id row, s.probes.incidents.rows.get id = some row →
    row.activeKey = some (fingerprint source .availability) → row.occurrenceCount = count

theorem lookup_of_mem {transitions : List Transition} {text : String}
    (distinct : (transitions.map Prod.fst).Nodup) (mem : (.availability, text) ∈ transitions) :
    transitions.lookup .availability = some text := by
  obtain ⟨before, after, rfl⟩ := List.append_of_mem mem
  refine List.lookup_eq_some_iff.mpr ⟨before, after, rfl, fun entry earlier => ?_⟩
  rw [List.map_append, List.nodup_append] at distinct
  have ne := distinct.2.2 _ (List.mem_map_of_mem earlier) _ List.mem_cons_self
  simpa using Ne.symm ne

theorem mem_of_lookup {transitions : List Transition} {text : String}
    (found : transitions.lookup .availability = some text) :
    (.availability, text) ∈ transitions := by
  obtain ⟨before, after, rfl, -⟩ := List.lookup_eq_some_iff.mp found
  exact List.mem_append_right _ List.mem_cons_self

/-- **A commit counts its call.** -/
theorem Reconciling.counts {transitions : List Transition} {count : Nat}
    (on : Reconciling source s.probes w transitions) (inv : Invariant source s)
    (phase : s.probes.phase w = .flushing []) (counts : Counts source s count) {id : Nat}
    {row : Incident} (seen : s.probes.incidents.visible w id = some row)
    (keyed : row.activeKey = some (fingerprint source .availability)) :
    row.occurrenceCount = countOf transitions count := by
  have distinct : (transitions.map Prod.fst).Nodup :=
    (List.nodup_append.mp (on.order.nodup (by decide))).1
  have coherent := (inv.incidents.visible seen).1
  have name := coherent.key_of_active (coherent.active_of_key (by rw [keyed]; simp))
  have named : row.fingerprint = fingerprint source .availability :=
    (Option.some.inj (keyed.symm.trans name)).symm
  rcases Table.pending_or_stored seen with wrote | ⟨clean, there⟩
  · obtain ⟨entry, returned, written⟩ := on.written wrote
    have trigger := fingerprint_injective source (written.fingerprint.symm.trans named)
    cases written with
    | opened triggerType id p name absent key one =>
      obtain rfl : triggerType = .availability := trigger
      rw [one, countOf, lookup_of_mem distinct returned]
      rfl
    | deduplicated triggerType id p old name stored counted =>
      obtain rfl : triggerType = .availability := trigger
      obtain ⟨active, key, next⟩ := counted rfl
      rw [next, counts _ _ stored (key.symm.trans keyed), countOf, lookup_of_mem distinct returned]
      rfl
    | resolved triggerType id p old name stored key => cases key.symm.trans keyed
  · -- The call has written no availability incident that is active.
    have other : ∀ {text}, (.availability, text) ∈ transitions → text = "resolved" := by
      intro text mem
      rcases on.covered _ mem with ⟨change, none, -⟩ | ⟨id', p, wrote, written⟩
      · rw [phase] at none
        cases none
      · have same : p.activeKey = some (fingerprint source .availability) → text = "resolved" := by
          intro key
          have sees := Table.visible_of_pending wrote
          obtain rfl := inv.incidents.indexed.visible_unique seen sees keyed key
          cases clean.symm.trans wrote
        cases written with
        | opened triggerType id p name absent key => exact same (key.trans (congrArg some name))
        | deduplicated triggerType id p old name stored counted =>
          obtain ⟨active, key, -⟩ := counted rfl
          have oldName := (inv.incidents.pending wrote).2 old stored
          refine same ?_
          rw [key, active, ← oldName.fingerprint, name]
        | resolved => rfl
    rw [counts _ _ there keyed, countOf]
    cases found : transitions.lookup .availability with
    | none => rfl
    | some text =>
      obtain rfl := other (mem_of_lookup found)
      rfl

/-- What a step does to the counter: a commit counts its call, and nothing else
touches committed incidents. -/
theorem Invariant.counts_step (inv : Invariant source s) (step : Step source s label s')
    {history : List (State × Label)} (counts : Counts source s (occurrences history)) :
    Counts source s' (occurrences ((s, label) :: history)) := by
  have idle : committed s label = none →
      s'.probes.incidents.rows.get = s.probes.incidents.rows.get →
      Counts source s' (occurrences ((s, label) :: history)) := by
    intro none same id row stored keyed
    rw [same] at stored
    simp only [occurrences, none]
    exact counts id row stored keyed
  cases step with
  | record w payload call => exact idle rfl rfl
  | addSample w payload now checkedAt call => exact idle (by simp [committed, call]) rfl
  | selectRecent w payload sampleId calls now checkedAt call =>
    exact idle (by simp [committed, call]) rfl
  | reconcile w payload sampleId transitions returns probes now checkedAt call reconciles =>
    refine idle ?_ reconciles.rows
    simp [committed, call, reconciles.uncommitted]
  | commit w payload sampleId transitions now checkedAt call phase =>
    intro id row stored keyed
    have commits : committed s (.advance w now checkedAt) = some transitions := by
      simp [committed, call, phase, committing]
    simp only [occurrences, commits]
    exact (inv.reconciling call).1.counts inv phase counts stored keyed
  | fail w payload sampleId transitions now checkedAt call fails =>
    exact absurd fails (inv.reconciling call).1.not_fails

end Count

/-! ### Waiting -/

/-- **A session that has written something is not kept from committing for
ever**: the rows it waits for have ever larger ids, and the calls that wait for a
key it waits for have nothing left to do. -/
theorem Invariant.unwritten_of_stuck {source : SourceProfile} {s : State} (inv : Invariant source s)
    (stuck : ∀ {w transitions}, Reconciling source s.probes w transitions →
      ∃ v, Waits s.probes w v) {w : Worker} {id : Nat} {p : Incident} :
    s.probes.incidents.pending w id ≠ some p := by
  intro wrote
  have writes : ∀ {v i q}, s.probes.incidents.pending v i = some q →
      ∃ transitions, Reconciling source s.probes v transitions := by
    intro v i q wrote
    rcases inv.session v with closed | ⟨payload, sampleId, transitions, call⟩
    · rw [closed.unwritten] at wrote
      cases wrote
    · exact ⟨transitions, (inv.reconciling call).1⟩
  -- A session waits for the key of a latency incident only.
  have opens : ∀ {v i q transitions new}, s.probes.incidents.pending v i = some q →
      Reconciling source s.probes v transitions → new ∈ opening (s.probes.phase v) →
      ∀ {u j r}, u ≠ v → s.probes.incidents.pending u j = some r →
      r.activeKey ≠ some new.fingerprint := by
    intro v i q transitions new wrote on mem u j r ne taken keyed
    obtain ⟨entry, returned, -⟩ := on.written wrote
    obtain ⟨others, other⟩ := writes taken
    have opened := on.opened_of_key other inv.incidents mem ne taken keyed
    rw [on.opening_latency returned mem] at opened
    obtain ⟨x, waits⟩ := stuck other
    exact other.not_waits opened waits
  -- The induction is on the ids above that of the row.
  have held : ∀ n v i q row, s.probes.incidents.rows.nextId - i ≤ n →
      s.probes.incidents.pending v i = some q → s.probes.incidents.rows.get i = some row →
      False := by
    intro n
    induction n with
    | zero =>
      intro v i q row above wrote there
      have lt := Rows.lt_nextId there
      omega
    | succ n ih =>
      intro v i q row above wrote there
      obtain ⟨transitions, on⟩ := writes wrote
      obtain ⟨u, waits⟩ := stuck on
      cases waits with
      | row change mem held =>
        obtain ⟨-, row', there'⟩ := on.unwritten mem
        obtain ⟨r, wrote'⟩ := inv.locks held
        have larger := (on.after wrote there).2 change mem
        exact ih u change.id r row' (by omega) wrote' there'
      | key new r j mem ne wrote' keyed => exact opens wrote on mem ne wrote' keyed
  obtain ⟨transitions, on⟩ := writes wrote
  obtain ⟨u, waits⟩ := stuck on
  cases waits with
  | row change mem locked =>
    obtain ⟨-, row, there⟩ := on.unwritten mem
    obtain ⟨r, wrote'⟩ := inv.locks locked
    exact held _ u change.id r row (Nat.le_refl _) wrote' there
  | key new r j mem ne wrote' keyed => exact opens wrote on mem ne wrote' keyed

/-- **Some call can go on** while one has begun and not returned. -/
theorem Invariant.returned_of_still {source : SourceProfile} {s : State} (inv : Invariant source s)
    (still : ∀ w now checkedAt, advance source s w now checkedAt = none) (w : Worker) :
    s.call w = .idle ∨ ∃ payload sampleId transitions,
      s.call w = .stored payload sampleId transitions := by
  have stuck : ∀ {v transitions}, Reconciling source s.probes v transitions →
      ∃ u, Waits s.probes v u := by
    intro v transitions on
    rcases inv.session v with closed | ⟨payload, sampleId, others, call⟩
    · exact absurd closed.ended on.begun
    · have blocked := still v (fun _ => 0) fun _ => 0
      simp only [Overlap.advance, call] at blocked
      split at blocked
      · cases blocked
      · split at blocked
        · rename_i none
          exact on.waits none
        · split at blocked
          · cases blocked
          · cases blocked
  have blocked := still w (fun _ => 0) fun _ => 0
  have ok := inv.calls w
  unfold CallOk at ok
  cases call : s.call w with
  | idle => exact Or.inl rfl
  | received payload =>
    simp only [Overlap.advance, call] at blocked
    cases blocked
  | inserted payload sampleId =>
    simp only [Overlap.advance, call] at blocked
    cases blocked
  | reconciling payload sampleId transitions =>
    have on := (inv.reconciling call).1
    obtain ⟨v, waits⟩ := stuck on
    cases waits with
    | row change mem held =>
      obtain ⟨p, wrote⟩ := inv.locks held
      exact absurd wrote (inv.unwritten_of_stuck stuck)
    | key new p id mem ne wrote keyed => exact absurd wrote (inv.unwritten_of_stuck stuck)
  | stored payload sampleId transitions => exact Or.inr ⟨payload, sampleId, transitions, rfl⟩
  | failed payload =>
    rw [call] at ok
    exact ok.elim

/-! ### Every run -/

/-- The sample a call was made for. -/
def CallPhase.payload : CallPhase → Option HealthSampleCreate
  | .idle => none
  | .received payload => some payload
  | .inserted payload _ => some payload
  | .reconciling payload _ _ => some payload
  | .stored payload _ _ => some payload
  | .failed payload => some payload

section Runs

variable {source : SourceProfile} {samples : Rows ProviderHealthSample} {s s' : State} {w : Worker}
  {label : Label} {history : List (State × Label)}

/-- A call keeps its sample. -/
theorem Step.payload (step : Step source s label s') {payload : HealthSampleCreate}
    (is : (s.call w).payload = some payload) : (s'.call w).payload = some payload := by
  by_cases moves : w = label.worker
  · subst moves
    cases step with
    | record v other call =>
      rw [Label.worker, call] at is
      cases is
    | addSample v other now checkedAt call =>
      rw [Label.worker, call] at is
      simp only [Label.worker, State.moveTo, Function.update_self]
      exact is
    | selectRecent v other sampleId calls now checkedAt call =>
      rw [Label.worker, call] at is
      simp only [Label.worker, State.moveTo, Function.update_self]
      exact is
    | reconcile v other sampleId transitions returns probes now checkedAt call =>
      rw [Label.worker, call] at is
      simp only [Label.worker, State.moveTo, Function.update_self]
      exact is
    | commit v other sampleId transitions now checkedAt call =>
      rw [Label.worker, call] at is
      simp only [Label.worker, State.commit, State.moveTo, Function.update_self]
      exact is
    | fail v other sampleId transitions now checkedAt call =>
      rw [Label.worker, call] at is
      simp only [Label.worker, State.rollback, State.moveTo, Function.update_self]
      exact is
  · rw [(step.frame moves).1]
    exact is

theorem payload_of_run {payload : HealthSampleCreate}
    (run : Run (next source) (initial samples) history s)
    (recorded : ∃ entry ∈ history, entry.2 = .record w payload) :
    (s.call w).payload = some payload := by
  induction run with
  | init =>
    obtain ⟨entry, mem, -⟩ := recorded
    cases mem
  | @snoc history s s' label run step ih =>
    obtain ⟨entry, mem, is⟩ := recorded
    rcases List.mem_cons.mp mem with rfl | earlier
    · obtain rfl : label = .record w payload := is
      cases next_step step with
      | record v other call => simp [State.moveTo, CallPhase.payload]
    · exact (next_step step).payload (ih ⟨entry, earlier, is⟩)

theorem invariant (run : Run (next source) (initial samples) history s)
    (undisturbed : Along (Undisturbed source) history) : Invariant source s :=
  run.invariant_of_along (invariant_initial source samples)
    (fun inv ok step => inv.step ok (next_step step)) undisturbed

theorem counts (run : Run (next source) (initial samples) history s)
    (undisturbed : Along (Undisturbed source) history) :
    Counts source s (occurrences history) := by
  induction run with
  | init => exact fun id row stored => nomatch stored
  | snoc run step ih =>
    rw [along_cons] at undisturbed
    exact (invariant run undisturbed.2).counts_step (next_step step) (ih undisturbed.2)

/-- When a call commits, no call of `workers` stands between a `SELECT` and its
write. -/
def undisturbedBy (workers : List Worker) (s : State) : Label → Bool
  | .record _ _ => true
  | .advance w _ _ =>
      !committing (s.probes.phase w) || workers.all fun w' =>
        (opening (s.probes.phase w')).isNone && (s.probes.phase w').changes.isEmpty

theorem phase_of_run (run : Run (next source) (initial samples) history s)
    (begun : ∀ entry ∈ history, entry.2.worker ≠ w) : s.probes.phase w = .idle :=
  @Run.unmoved _ _ _ _ _ _ _ (fun s => s.probes.phase w) (fun label => label.worker = w)
    (fun step other => (next_step step).phase (Ne.symm other)) run begun

theorem undisturbed_of_workers {workers : List Worker}
    (run : Run (next source) (initial samples) history s)
    (begun : ∀ entry ∈ history, entry.2.worker ∈ workers)
    (checked : Along (fun s label => undisturbedBy workers s label = true) history) :
    Along (Undisturbed source) history := by
  induction run with
  | init => exact along_nil _
  | @snoc history s s' label run step ih =>
    obtain ⟨-, earlier⟩ := List.forall_mem_cons.mp begun
    rw [along_cons] at checked ⊢
    refine ⟨?_, ih earlier checked.2⟩
    -- A worker that holds something has begun.
    have quiet : ∀ {w now checkedAt}, label = .advance w now checkedAt →
        s.probes.phase w = .flushing [] → ∀ w', (opening (s.probes.phase w')).isNone = true ∧
          (s.probes.phase w').changes.isEmpty = true := by
      rintro w now checkedAt rfl phase w'
      by_cases mem : w' ∈ workers
      · have passes := checked.1
        simp only [undisturbedBy, phase, committing, Bool.not_true, Bool.false_or,
          List.all_eq_true, Bool.and_eq_true] at passes
        exact passes w' mem
      · rw [phase_of_run (w := w') run fun entry began same => mem (same ▸ earlier entry began)]
        exact ⟨rfl, rfl⟩
    constructor
    · rintro ⟨w, now, checkedAt, w', other, calls, changes, new, id, p, is, phase, inserts, -⟩
      have none := (quiet is phase w').1
      rw [inserts] at none
      cases none
    · rintro ⟨w, now, checkedAt, w', change, p, is, phase, mem, -⟩
      rw [List.isEmpty_iff.mp (quiet is phase w').2] at mem
      cases mem

end Runs

/-! ### Three runs -/

def probed : SourceProfile :=
  { id := 1, name := "orders", baseUrl := "https://orders.example", tenantId := none,
    incidentFailureThreshold := 1 }

def failing : HealthSampleCreate :=
  { sourceId := 1, sampledAt := ⟨0, none⟩, latencyMs := 0, isSuccess := false }

/-- The statements of call `w`, `count` of them. -/
def steps (w count : Nat) : List Label := List.replicate count (.advance w (fun _ => 0) fun _ => 0)

/-- Two calls find no incident, the first one inserts and commits. -/
def openingLabels : List Label :=
  .record 1 failing :: steps 1 3 ++ .record 2 failing :: steps 2 3 ++ steps 1 3 ++ steps 2 1

/-- An incident opens, and two calls read its counter before either writes. -/
def countingLabels : List Label :=
  .record 1 failing :: steps 1 6 ++ .record 2 failing :: steps 2 3 ++
    .record 3 failing :: steps 3 3 ++ steps 2 3 ++ steps 3 3

/-- The third call reads the counter once the second one has committed. -/
def overlappingLabels : List Label :=
  .record 1 failing :: steps 1 6 ++ .record 2 failing :: steps 2 2 ++
    .record 3 failing :: steps 3 2 ++ steps 2 4 ++ steps 3 4

/-- **An occurrence is lost** when two calls read the same counter: three calls
have counted, and the counter is two. -/
theorem occurrence_lost_under_update :
    ∃ (history : List (State × Label)) (s : State) (row : Incident),
      Run (next probed) (initial .empty) history s ∧
      s.call 2 = .stored failing 2 [(.availability, "deduplicated")] ∧
      s.call 3 = .stored failing 3 [(.availability, "deduplicated")] ∧
      s.probes.incidents.rows.get 1 = some row ∧ row.status = .opened ∧
      occurrences history = 3 ∧ row.occurrenceCount = 2 := by
  have done : (execute (next probed) [] (initial .empty) countingLabels).isSome = true := by rfl
  exact ⟨_, _, _, execute_run .init (Option.some_get done).symm, rfl, rfl, rfl, rfl, rfl, rfl⟩

end ApiObservatory.Health.Overlap
