import ApiObservatory.Repositories.SourceRegistry
import ApiObservatory.Scheduling.Scheduler
import Std.Data.String.ToNat

/-
Job registration (`services/ingestor/jobs_registry.py`).

Each source has two jobs that are registered together and stopped and started
together. `Plan` is this pair as one value, and every operation on the scheduler
is described by what it does to the plans of the sources.
-/

namespace ApiObservatory.Scheduling

open Foundation

def probeJobName (sourceId : Nat) : String := "probe_source_" ++ Nat.repr sourceId

def snapshotJobName (sourceId : Nat) : String := "contract_snapshot_source_" ++ Nat.repr sourceId

/-- `register_jobs`. -/
def registerJobs (s : JobScheduler) : JobScheduler :=
  s.job "ingest_scheduled_batch_example" { handler := .scheduledBatch, trigger := none }

/-- The body of the loop of `register_source_probe_jobs` for one source. -/
def registerSourceJobs (s : JobScheduler) (registered : Nat) (sourceId : Nat)
    (source : SourceProfile) : JobScheduler × Nat :=
  let intervalSeconds := max 1 source.probeIntervalSeconds
  if (s.jobs (probeJobName sourceId)).isSome then (s, registered)
  else
    let s := s.job (probeJobName sourceId)
      { handler := .sourceProbe sourceId, trigger := some intervalSeconds }
    if (s.jobs (snapshotJobName sourceId)).isSome then (s, registered + 1)
    else
      (s.job (snapshotJobName sourceId)
        { handler := .sourceSnapshot sourceId, trigger := some (max 300 (intervalSeconds * 5)) },
        registered + 1)

/-- The `WHERE` clause of `register_source_probe_jobs`. -/
def Probed (source : SourceProfile) : Bool := source.deletedAt.isNone && source.isActive

/-- `register_source_probe_jobs`: the scheduler and the number of new probe jobs. -/
def registerSourceProbeJobs (s : JobScheduler) (sources : Rows SourceProfile) :
    JobScheduler × Nat :=
  (sources.select fun _ source => Probed source).foldl
    (fun (s, registered) (sourceId, source) => registerSourceJobs s registered sourceId source)
    (s, 0)

/-! ### Job names -/

theorem probeJobName_inj {a b : Nat} (same : probeJobName a = probeJobName b) : a = b := by
  unfold probeJobName at same
  exact Nat.repr_injective ((String.append_right_inj _).mp same)

theorem snapshotJobName_inj {a b : Nat} (same : snapshotJobName a = snapshotJobName b) :
    a = b := by
  unfold snapshotJobName at same
  exact Nat.repr_injective ((String.append_right_inj _).mp same)

theorem head?_toList_append {s : String} (t : String) {c : Char} (head : s.toList.head? = some c) :
    (s ++ t).toList.head? = some c := by
  rw [String.toList_append, List.head?_append, head, Option.some_or]

theorem probeJobName_ne_snapshot (a b : Nat) : probeJobName a ≠ snapshotJobName b := by
  intro same
  have probe : (probeJobName a).toList.head? = some 'p' := head?_toList_append _ (by decide)
  have snapshot : (snapshotJobName b).toList.head? = some 'c' :=
    head?_toList_append _ (by decide)
  rw [same, snapshot] at probe
  cases probe

/-! ### The jobs of one source -/

/-- The two jobs of a source: the intervals they were registered with, and whether
they are paused. -/
structure Plan where
  probeSeconds : Int
  snapshotSeconds : Int
  paused : Bool
deriving DecidableEq

/-- What the scheduler holds under the two names of a source. -/
structure SourceJobs where
  probe : Option Job
  snapshot : Option Job
  liveProbe : Option LiveJob
  liveSnapshot : Option LiveJob

def JobScheduler.jobsOf (s : JobScheduler) (sourceId : Nat) : SourceJobs where
  probe := s.jobs (probeJobName sourceId)
  snapshot := s.jobs (snapshotJobName sourceId)
  liveProbe := s.live (probeJobName sourceId)
  liveSnapshot := s.live (snapshotJobName sourceId)

/-- The jobs of a planned source. They are live once the scheduler runs. -/
def Plan.jobs (plan : Plan) (sourceId : Nat) (running : Bool) : SourceJobs where
  probe := some { handler := .sourceProbe sourceId, trigger := some plan.probeSeconds }
  snapshot := some { handler := .sourceSnapshot sourceId, trigger := some plan.snapshotSeconds }
  liveProbe :=
    if running then
      some { handler := .sourceProbe sourceId, trigger := plan.probeSeconds, paused := plan.paused }
    else none
  liveSnapshot :=
    if running then
      some
        { handler := .sourceSnapshot sourceId
          trigger := plan.snapshotSeconds
          paused := plan.paused }
    else none

def SourceJobs.absent : SourceJobs := ⟨none, none, none, none⟩

/-- The scheduler holds for each source the jobs of its plan, and no job of a
source without one. -/
def JobScheduler.Holds (s : JobScheduler) (plans : Nat → Option Plan) : Prop :=
  ∀ sourceId, s.jobsOf sourceId =
    (plans sourceId).elim .absent fun plan => plan.jobs sourceId s.running

/-- The plan of a source that is registered now. -/
def newPlan (source : SourceProfile) : Plan where
  probeSeconds := max 1 source.probeIntervalSeconds
  snapshotSeconds := max 300 (max 1 source.probeIntervalSeconds * 5)
  paused := false

theorem JobScheduler.jobsOf_ext {s s' : JobScheduler} {sourceId : Nat}
    (jobs : ∀ name ∈ [probeJobName sourceId, snapshotJobName sourceId], s'.jobs name = s.jobs name)
    (live : ∀ name ∈ [probeJobName sourceId, snapshotJobName sourceId],
      s'.live name = s.live name) : s'.jobsOf sourceId = s.jobsOf sourceId := by
  simp only [List.forall_mem_cons, List.not_mem_nil, false_imp_iff, implies_true, and_true]
    at jobs live
  simp only [JobScheduler.jobsOf, jobs, live]

/-- The names of one source are not those of another. -/
theorem names_ne {sourceId other : Nat} (ne : other ≠ sourceId) :
    ∀ name ∈ [probeJobName other, snapshotJobName other],
      name ≠ probeJobName sourceId ∧ name ≠ snapshotJobName sourceId := by
  simp only [List.forall_mem_cons, List.not_mem_nil, false_imp_iff, implies_true, and_true]
  exact ⟨⟨fun same => ne (probeJobName_inj same), probeJobName_ne_snapshot other sourceId⟩,
    ⟨(probeJobName_ne_snapshot sourceId other).symm, fun same => ne (snapshotJobName_inj same)⟩⟩

/-! ### Registration -/

section Holds

variable {s : JobScheduler} {plans : Nat → Option Plan}

/-- A change of the jobs of one source. -/
theorem JobScheduler.Holds.change (holds : s.Holds plans) {s' : JobScheduler} {sourceId : Nat}
    {plan : Option Plan} (running : s'.running = s.running)
    (others : ∀ {other}, other ≠ sourceId → s'.jobsOf other = s.jobsOf other)
    (own : s'.jobsOf sourceId = plan.elim .absent fun plan => plan.jobs sourceId s.running) :
    s'.Holds (Function.update plans sourceId plan) := by
  intro other
  rw [running]
  by_cases same : other = sourceId
  · subst same
    rw [Function.update_self, own]
  · rw [Function.update_of_ne same, others same]
    exact holds other

theorem holds_new : ({} : JobScheduler).Holds fun _ => none :=
  fun _ => rfl

/-- The example job is not one of a source, and it has no trigger. -/
theorem JobScheduler.Holds.registerJobs (holds : s.Holds plans) :
    (registerJobs s).Holds plans := by
  have example_ne : ∀ sourceId, ∀ name ∈ [probeJobName sourceId, snapshotJobName sourceId],
      name ≠ "ingest_scheduled_batch_example" := by
    intro sourceId name mem same
    rw [same, List.mem_pair] at mem
    rcases mem with probe | snapshot
    · have head : (probeJobName sourceId).toList.head? = some 'p' :=
        head?_toList_append _ (by decide)
      rw [← probe] at head
      revert head
      decide
    · have head : (snapshotJobName sourceId).toList.head? = some 'c' :=
        head?_toList_append _ (by decide)
      rw [← snapshot] at head
      revert head
      decide
  intro sourceId
  have same : (Scheduling.registerJobs s).jobsOf sourceId = s.jobsOf sourceId := by
    refine JobScheduler.jobsOf_ext ?_ ?_
    · intro name mem
      rw [Scheduling.registerJobs, JobScheduler.job_jobs,
        Function.update_of_ne (example_ne sourceId name mem)]
    · intro name mem
      exact JobScheduler.job_live_of_ne _ (example_ne sourceId name mem)
  rw [same, holds sourceId, Scheduling.registerJobs, JobScheduler.job_running]

theorem registerSourceJobs_running (s : JobScheduler) (registered sourceId : Nat)
    (source : SourceProfile) :
    (registerSourceJobs s registered sourceId source).1.running = s.running := by
  unfold registerSourceJobs
  dsimp only
  split
  · rfl
  · split <;> simp

theorem registerSourceJobs_other {sourceId other : Nat} (registered : Nat)
    (source : SourceProfile) (ne : other ≠ sourceId) :
    (registerSourceJobs s registered sourceId source).1.jobsOf other = s.jobsOf other := by
  have names := names_ne ne
  unfold registerSourceJobs
  dsimp only
  split
  · rfl
  · split
    · refine JobScheduler.jobsOf_ext ?_ ?_
      · intro name mem
        rw [JobScheduler.job_jobs, Function.update_of_ne (names name mem).1]
      · intro name mem
        exact JobScheduler.job_live_of_ne _ (names name mem).1
    · refine JobScheduler.jobsOf_ext ?_ ?_
      · intro name mem
        rw [JobScheduler.job_jobs, Function.update_of_ne (names name mem).2,
          JobScheduler.job_jobs, Function.update_of_ne (names name mem).1]
      · intro name mem
        rw [JobScheduler.job_live_of_ne _ (names name mem).2,
          JobScheduler.job_live_of_ne _ (names name mem).1]

/-- A source without jobs gets both. -/
theorem registerSourceJobs_new {sourceId : Nat} (registered : Nat) (source : SourceProfile)
    (absent : s.jobsOf sourceId = .absent) :
    (registerSourceJobs s registered sourceId source).1.jobsOf sourceId =
      (newPlan source).jobs sourceId s.running := by
  obtain ⟨probe, snapshot, liveProbe, liveSnapshot⟩ := SourceJobs.mk.inj absent
  have ne := probeJobName_ne_snapshot sourceId sourceId
  unfold registerSourceJobs
  simp only [probe, Option.isSome_none, Bool.false_eq_true, if_false, JobScheduler.job_jobs,
    Function.update_of_ne ne.symm, snapshot]
  simp only [JobScheduler.jobsOf, Plan.jobs, newPlan, JobScheduler.job_jobs,
    Function.update_self, Function.update_of_ne ne, JobScheduler.job_live_self,
    JobScheduler.job_live_of_ne _ ne, JobScheduler.job_live_of_ne _ ne.symm,
    JobScheduler.job_running, liveProbe, liveSnapshot]

theorem JobScheduler.Holds.registerSourceJobs (holds : s.Holds plans) (registered sourceId : Nat)
    (source : SourceProfile) :
    (registerSourceJobs s registered sourceId source).1.Holds
      (Function.update plans sourceId (some ((plans sourceId).getD (newPlan source)))) := by
  refine holds.change (registerSourceJobs_running ..)
    (fun ne => registerSourceJobs_other registered source ne) ?_
  have here := holds sourceId
  cases planned : plans sourceId with
  | none =>
    rw [planned] at here
    exact registerSourceJobs_new registered source here
  | some plan =>
    rw [planned] at here
    have probe : s.jobs (probeJobName sourceId) = _ := congrArg SourceJobs.probe here
    simp only [Scheduling.registerSourceJobs, probe, Plan.jobs, Option.elim_some,
      Option.isSome_some, if_true]
    exact here

theorem registerSourceProbeJobs_running (s : JobScheduler) (sources : Rows SourceProfile) :
    (registerSourceProbeJobs s sources).1.running = s.running := by
  refine List.foldlRecOn _ _
    (motive := fun acc : JobScheduler × Nat => acc.1.running = s.running) rfl ?_
  intro acc kept entry _
  exact (registerSourceJobs_running acc.1 acc.2 entry.1 entry.2).trans kept

/-- The loop over a list of sources; the first entry of a source decides. -/
theorem JobScheduler.Holds.foldl_registerSourceJobs (holds : s.Holds plans) (registered : Nat)
    (entries : List (Nat × SourceProfile)) :
    (entries.foldl
      (fun (s, registered) (sourceId, source) =>
        Scheduling.registerSourceJobs s registered sourceId source)
      (s, registered)).1.Holds fun sourceId =>
        (plans sourceId).or ((entries.lookup sourceId).map newPlan) := by
  induction entries generalizing s plans registered with
  | nil => simpa using holds
  | cons entry rest ih =>
    obtain ⟨sourceId, source⟩ := entry
    rw [List.foldl_cons]
    refine (congrArg _ (funext fun other => ?_)).mp
      (ih (holds.registerSourceJobs registered sourceId source)
        (Scheduling.registerSourceJobs s registered sourceId source).2)
    by_cases same : other = sourceId
    · subst same
      cases plans other <;> simp
    · rw [Function.update_of_ne same, List.lookup_cons, beq_false_of_ne same]

/-- **Registration.** Every probed source without jobs gets those of its profile;
the other sources keep theirs. -/
theorem JobScheduler.Holds.registerSourceProbeJobs (holds : s.Holds plans)
    (sources : Rows SourceProfile) :
    (registerSourceProbeJobs s sources).1.Holds fun sourceId =>
      (plans sourceId).or (((sources.get sourceId).filter Probed).map newPlan) := by
  have looped := holds.foldl_registerSourceJobs 0 (sources.select fun _ source => Probed source)
  simp only [Rows.lookup_select] at looped
  exact looped

/-! ### Starting the scheduler, and stopping and starting one source -/

/-- `start` makes the jobs of every plan live. -/
theorem JobScheduler.Holds.start (holds : s.Holds plans)
    (unpaused : ∀ sourceId plan, plans sourceId = some plan → plan.paused = false) :
    s.start.Holds plans := by
  intro sourceId
  have here := holds sourceId
  cases planned : plans sourceId with
  | none =>
    rw [planned] at here
    obtain ⟨probe, snapshot, liveProbe, liveSnapshot⟩ := SourceJobs.mk.inj here
    simp [JobScheduler.jobsOf, JobScheduler.start, SourceJobs.absent, probe, snapshot, liveProbe,
      liveSnapshot]
  | some plan =>
    rw [planned] at here
    obtain ⟨probe, snapshot, -, -⟩ := SourceJobs.mk.inj here
    simp [JobScheduler.jobsOf, JobScheduler.start, JobScheduler.activateJob, Plan.jobs, probe,
      snapshot, unpaused sourceId plan planned]

/-- The two calls of `stop_source_jobs`. -/
def JobScheduler.pauseSource (s : JobScheduler) (sourceId : Nat) : JobScheduler :=
  (s.pauseJob (probeJobName sourceId)).pauseJob (snapshotJobName sourceId)

/-- The two calls of `start_source_jobs`. -/
def JobScheduler.resumeSource (s : JobScheduler) (sourceId : Nat) : JobScheduler :=
  (s.resumeJob (probeJobName sourceId)).resumeJob (snapshotJobName sourceId)

@[simp] theorem JobScheduler.pauseSource_running (s : JobScheduler) (sourceId : Nat) :
    (s.pauseSource sourceId).running = s.running := by
  simp [JobScheduler.pauseSource]

@[simp] theorem JobScheduler.resumeSource_running (s : JobScheduler) (sourceId : Nat) :
    (s.resumeSource sourceId).running = s.running := by
  simp [JobScheduler.resumeSource]

@[simp] theorem JobScheduler.pauseSource_jobs (s : JobScheduler) (sourceId : Nat) :
    (s.pauseSource sourceId).jobs = s.jobs := by
  simp [JobScheduler.pauseSource]

@[simp] theorem JobScheduler.resumeSource_jobs (s : JobScheduler) (sourceId : Nat) :
    (s.resumeSource sourceId).jobs = s.jobs := by
  simp [JobScheduler.resumeSource]

theorem JobScheduler.pauseSource_other {sourceId other : Nat} (ne : other ≠ sourceId) :
    (s.pauseSource sourceId).jobsOf other = s.jobsOf other := by
  have names := names_ne ne
  refine JobScheduler.jobsOf_ext ?_ ?_
  · intro name _
    rw [JobScheduler.pauseSource, JobScheduler.pauseJob_jobs, JobScheduler.pauseJob_jobs]
  · intro name mem
    rw [JobScheduler.pauseSource, JobScheduler.pauseJob_live_of_ne (names name mem).2,
      JobScheduler.pauseJob_live_of_ne (names name mem).1]

theorem JobScheduler.resumeSource_other {sourceId other : Nat} (ne : other ≠ sourceId) :
    (s.resumeSource sourceId).jobsOf other = s.jobsOf other := by
  have names := names_ne ne
  refine JobScheduler.jobsOf_ext ?_ ?_
  · intro name _
    rw [JobScheduler.resumeSource, JobScheduler.resumeJob_jobs, JobScheduler.resumeJob_jobs]
  · intro name mem
    rw [JobScheduler.resumeSource, JobScheduler.resumeJob_live_of_ne (names name mem).2,
      JobScheduler.resumeJob_live_of_ne (names name mem).1]

def Plan.setPaused (paused : Bool) (plan : Plan) : Plan := { plan with paused }

/-- **Stopping a source** pauses both of its jobs. -/
theorem JobScheduler.Holds.pauseSource (holds : s.Holds plans) (running : s.running = true)
    (sourceId : Nat) :
    (s.pauseSource sourceId).Holds
      (Function.update plans sourceId ((plans sourceId).map (Plan.setPaused true))) := by
  have ne := probeJobName_ne_snapshot sourceId sourceId
  refine holds.change (JobScheduler.pauseSource_running ..)
    (fun ne => JobScheduler.pauseSource_other ne) ?_
  have here := holds sourceId
  cases planned : plans sourceId with
  | none =>
    rw [planned] at here
    obtain ⟨probe, snapshot, liveProbe, liveSnapshot⟩ := SourceJobs.mk.inj here
    simp [JobScheduler.jobsOf, JobScheduler.pauseSource, SourceJobs.absent, probe, snapshot,
      liveProbe, liveSnapshot, JobScheduler.pauseJob]
  | some plan =>
    rw [planned, running] at here
    obtain ⟨probe, snapshot, liveProbe, liveSnapshot⟩ := SourceJobs.mk.inj here
    simp only [JobScheduler.jobsOf, JobScheduler.pauseSource, JobScheduler.pauseJob_jobs,
      JobScheduler.pauseJob_live_of_ne ne, JobScheduler.pauseJob_live_self,
      JobScheduler.pauseJob_live_of_ne ne.symm, probe, snapshot, liveProbe, liveSnapshot, running]
    rfl

/-- **Starting a source** lets both of its jobs fire, if it has any. -/
theorem JobScheduler.Holds.resumeSource (holds : s.Holds plans) (running : s.running = true)
    (sourceId : Nat) :
    (s.resumeSource sourceId).Holds
      (Function.update plans sourceId ((plans sourceId).map (Plan.setPaused false))) := by
  have ne := probeJobName_ne_snapshot sourceId sourceId
  refine holds.change (JobScheduler.resumeSource_running ..)
    (fun ne => JobScheduler.resumeSource_other ne) ?_
  have here := holds sourceId
  cases planned : plans sourceId with
  | none =>
    rw [planned] at here
    obtain ⟨probe, snapshot, liveProbe, liveSnapshot⟩ := SourceJobs.mk.inj here
    rw [JobScheduler.resumeSource, JobScheduler.resumeJob_of_unregistered probe,
      JobScheduler.resumeJob_of_unregistered snapshot]
    exact here
  | some plan =>
    rw [planned, running] at here
    obtain ⟨probe, snapshot, liveProbe, liveSnapshot⟩ := SourceJobs.mk.inj here
    have probeResumed := JobScheduler.resumeJob_live_self liveProbe (by rw [probe]; rfl)
    have snapshotResumed : ((s.resumeJob (probeJobName sourceId)).resumeJob
        (snapshotJobName sourceId)).live (snapshotJobName sourceId) = _ :=
      JobScheduler.resumeJob_live_self
        ((JobScheduler.resumeJob_live_of_ne ne.symm).trans liveSnapshot)
        (by rw [JobScheduler.resumeJob_jobs, snapshot]; rfl)
    simp only [JobScheduler.jobsOf, JobScheduler.resumeSource, JobScheduler.resumeJob_jobs,
      JobScheduler.resumeJob_live_of_ne ne, probeResumed, snapshotResumed, probe, snapshot,
      running]
    rfl

end Holds

end ApiObservatory.Scheduling
