import ApiObservatory.Sources.Routes

/-
The probe schedule and the registry.

The schedule is a second copy of two columns of the registry. Only a registration
writes both copies: `patch_source` changes the interval and the activity of a
profile without touching the scheduler, and no request registers a job again.
The schedule follows the registry in exactly the runs where no PATCH leaves an
unstopped active source with another interval than its registered job has, and
where `jobs/start` finds the job of an active source registered with its interval.
-/

namespace ApiObservatory.Sources

open Foundation Scheduling

/-- `jobs/stop` was the last of the stop and start requests of a source. -/
def stopped (sourceId : Nat) : List (App × Request) → Bool
  | [] => false
  | (_, .stopJobs id) :: earlier => id == sourceId || stopped sourceId earlier
  | (_, .startJobs id) :: earlier => id != sourceId && stopped sourceId earlier
  | _ :: earlier => stopped sourceId earlier

/-- A source has an unpaused probe job with the interval of its profile, and an
unpaused snapshot job. -/
def Follows (scheduler : JobScheduler) (sourceId : Nat) (profile : SourceProfile) : Prop :=
  scheduler.live (probeJobName sourceId) =
      some
        { handler := .sourceProbe sourceId
          trigger := max 1 profile.probeIntervalSeconds
          paused := false } ∧
    ∃ trigger, scheduler.live (snapshotJobName sourceId) =
      some { handler := .sourceSnapshot sourceId, trigger, paused := false }

/-- The schedule follows the registry: so does each live active source, unless it
was stopped last. -/
def ScheduleFollows (history : List (App × Request)) (s : App) : Prop :=
  ∀ sourceId profile, s.sources.get sourceId = some profile → profile.deletedAt = none →
    profile.isActive = true → stopped sourceId history = false →
    Follows s.scheduler sourceId profile

/-- The interval the probe job of a source was registered with. -/
def registeredSeconds (scheduler : JobScheduler) (sourceId : Nat) : Option Int :=
  (scheduler.jobs (probeJobName sourceId)).bind Job.trigger

/-- The probe job of a source was registered with the interval of this profile. -/
def Fits (scheduler : JobScheduler) (sourceId : Nat) (profile : SourceProfile) : Prop :=
  registeredSeconds scheduler sourceId = some (max 1 profile.probeIntervalSeconds)

/-- What a request must find. A PATCH after which an unstopped source is active
finds its probe job registered with the interval the source has then, and a start
request of an active source with the one it has. -/
def FindsJob (history : List (App × Request)) (s : App) : Request → Prop
  | .patch sourceId patch _ =>
      ∀ profile updated, getSourceProfile s.sources sourceId = some profile →
        patch.apply profile = .ok updated → updated.isActive = true →
        stopped sourceId history = false → Fits s.scheduler sourceId updated
  | .startJobs sourceId =>
      ∀ profile, getSourceProfile s.sources sourceId = some profile → profile.isActive = true →
        Fits s.scheduler sourceId profile
  | _ => True

/-! ### The plans of a run -/

/-- The scheduler runs and holds a plan for each source that has jobs. A paused
source was stopped last, and no jobs wait for a source to come. -/
structure Scheduled (history : List (App × Request)) (s : App) (plans : Nat → Option Plan) :
    Prop where
  running : s.scheduler.running = true
  holds : s.scheduler.Holds plans
  paused : ∀ sourceId plan, plans sourceId = some plan → plan.paused = true →
    stopped sourceId history = true
  unused : ∀ sourceId, s.sources.nextId ≤ sourceId → plans sourceId = none

section Scheduled

variable {history : List (App × Request)} {s s' : App} {plans : Nat → Option Plan}

theorem Scheduled.registeredSeconds_eq (scheduled : Scheduled history s plans) (sourceId : Nat) :
    registeredSeconds s.scheduler sourceId = (plans sourceId).map Plan.probeSeconds := by
  have here := congrArg SourceJobs.probe (scheduled.holds sourceId)
  unfold registeredSeconds
  change s.scheduler.jobs (probeJobName sourceId) = _ at here
  rw [here]
  cases plans sourceId with
  | none => rfl
  | some plan => rfl

/-- An unstopped source follows its profile when its probe job was registered with
the profile's interval. -/
theorem Scheduled.follows_iff (scheduled : Scheduled history s plans) {sourceId : Nat}
    (profile : SourceProfile) (going : stopped sourceId history = false) :
    Follows s.scheduler sourceId profile ↔ Fits s.scheduler sourceId profile := by
  have here := scheduled.holds sourceId
  rw [scheduled.running] at here
  have probe := congrArg SourceJobs.liveProbe here
  have snapshot := congrArg SourceJobs.liveSnapshot here
  change s.scheduler.live (probeJobName sourceId) = _ at probe
  change s.scheduler.live (snapshotJobName sourceId) = _ at snapshot
  unfold Follows Fits
  rw [scheduled.registeredSeconds_eq, probe, snapshot]
  cases planned : plans sourceId with
  | none => simp [SourceJobs.absent]
  | some plan =>
    have unpaused : plan.paused = false := by
      cases paused : plan.paused with
      | false => rfl
      | true =>
        have last := scheduled.paused sourceId plan planned paused
        rw [going] at last
        cases last
    simp [Plan.jobs, unpaused]

/-- So the schedule follows the registry when the registered intervals fit. -/
theorem Scheduled.scheduleFollows_iff (scheduled : Scheduled history s plans) :
    ScheduleFollows history s ↔
      ∀ sourceId profile, getSourceProfile s.sources sourceId = some profile →
        profile.isActive = true → stopped sourceId history = false →
        Fits s.scheduler sourceId profile := by
  constructor
  · intro follows sourceId profile found active going
    obtain ⟨found, live⟩ := getSourceProfile_eq_some.mp found
    exact (scheduled.follows_iff profile going).mp
      (follows sourceId profile found live active going)
  · intro fits sourceId profile found live active going
    exact (scheduled.follows_iff profile going).mpr
      (fits sourceId profile (getSourceProfile_eq_some.mpr ⟨found, live⟩) active going)

/-! ### One request -/

/-- The plans after a request. -/
def plansAfter (plans : Nat → Option Plan) (s' : App) : Request → Nat → Option Plan
  | .register .. => fun sourceId =>
      (plans sourceId).or (((s'.sources.get sourceId).filter Probed).map newPlan)
  | .stopJobs sourceId =>
      Function.update plans sourceId ((plans sourceId).map (Plan.setPaused true))
  | .startJobs sourceId =>
      Function.update plans sourceId ((plans sourceId).map (Plan.setPaused false))
  | _ => plans

theorem Scheduled.step (scheduled : Scheduled history s plans) {request : Request}
    (step : next s request = some s') :
    Scheduled ((s, request) :: history) s' (plansAfter plans s' request) := by
  cases request with
  | register payload tenantId validated =>
    obtain ⟨row, rfl⟩ := next_register step
    refine ⟨?_, scheduled.holds.registerSourceProbeJobs _, ?_, ?_⟩
    · rw [registerSourceProbeJobs_running, scheduled.running]
    · intro sourceId plan planned paused
      rcases Option.or_eq_some_iff.mp planned with before | ⟨-, new⟩
      · exact scheduled.paused sourceId plan before paused
      · obtain ⟨_, _, rfl⟩ := Option.map_eq_some_iff.mp new
        cases paused
    · intro sourceId later
      have absent := (s.sources.insert row).unused sourceId later
      rw [Rows.nextId_insert] at later
      simp only [plansAfter, absent, scheduled.unused sourceId (by omega)]
      rfl
  | patch sourceId patch validated =>
    obtain ⟨profile, updated, -, -, rfl⟩ := next_patch step
    exact ⟨scheduled.running, scheduled.holds, scheduled.paused, scheduled.unused⟩
  | delete sourceId now =>
    obtain ⟨profile, -, rfl⟩ := next_delete step
    refine ⟨scheduled.running, scheduled.holds, scheduled.paused, ?_⟩
    intro other later
    refine scheduled.unused other ?_
    unfold deactivateSourceProfile at later
    split at later <;> exact later
  | stopJobs sourceId =>
    obtain ⟨profile, -, rfl⟩ := next_stopJobs step
    refine ⟨?_, scheduled.holds.pauseSource scheduled.running sourceId, ?_, ?_⟩
    · exact (JobScheduler.pauseSource_running _ _).trans scheduled.running
    · intro other plan planned paused
      by_cases same : other = sourceId
      · simp [stopped, same]
      · rw [plansAfter, Function.update_of_ne same] at planned
        simp [stopped, scheduled.paused other plan planned paused]
    · intro other later
      have before := scheduled.unused other later
      by_cases same : other = sourceId
      · simp [plansAfter, same, same ▸ before]
      · rw [plansAfter, Function.update_of_ne same, before]
  | startJobs sourceId =>
    obtain ⟨profile, -, rfl⟩ := next_startJobs step
    refine ⟨?_, scheduled.holds.resumeSource scheduled.running sourceId, ?_, ?_⟩
    · exact (JobScheduler.resumeSource_running _ _).trans scheduled.running
    · intro other plan planned paused
      by_cases same : other = sourceId
      · rw [same, plansAfter, Function.update_self] at planned
        obtain ⟨_, _, rfl⟩ := Option.map_eq_some_iff.mp planned
        cases paused
      · rw [plansAfter, Function.update_of_ne same] at planned
        have last := scheduled.paused other plan planned paused
        simpa [stopped, Ne.symm same] using last
    · intro other later
      have before := scheduled.unused other later
      by_cases same : other = sourceId
      · simp [plansAfter, same, same ▸ before]
      · rw [plansAfter, Function.update_of_ne same, before]

/-- Only a registration changes what the probe jobs were registered with. -/
theorem registeredSeconds_kept {scheduler scheduler' : JobScheduler}
    (jobs : scheduler'.jobs = scheduler.jobs) (sourceId : Nat) :
    registeredSeconds scheduler' sourceId = registeredSeconds scheduler sourceId := by
  rw [registeredSeconds, jobs, registeredSeconds]

theorem Scheduled.scheduleFollows_step (scheduled : Scheduled history s plans)
    (follows : ScheduleFollows history s) {request : Request} (step : next s request = some s') :
    ScheduleFollows ((s, request) :: history) s' ↔ FindsJob history s request := by
  rw [(scheduled.step step).scheduleFollows_iff]
  have fits := scheduled.scheduleFollows_iff.mp follows
  cases request with
  | register payload tenantId validated =>
    refine iff_of_true ?_ trivial
    obtain ⟨row, rfl⟩ := next_register step
    intro sourceId profile found active going
    obtain ⟨found, live⟩ := getSourceProfile_eq_some.mp found
    unfold Fits
    rw [(scheduled.step step).registeredSeconds_eq, plansAfter]
    dsimp only
    rcases Rows.get_insert_cases found with ⟨rfl, rfl⟩ | ⟨-, old⟩
    · rw [found, scheduled.unused _ le_rfl]
      simp [Option.filter, Probed, live, active, newPlan]
    · have before := fits sourceId profile (getSourceProfile_eq_some.mpr ⟨old, live⟩) active going
      rw [Fits, scheduled.registeredSeconds_eq] at before
      obtain ⟨plan, planned, seconds⟩ := Option.map_eq_some_iff.mp before
      rw [planned, Option.some_or, Option.map_some, seconds]
  | patch sourceId patch validated =>
    obtain ⟨profile, updated, found, applied, rfl⟩ := next_patch step
    obtain ⟨stored, live⟩ := getSourceProfile_eq_some.mp found
    constructor
    · intro after profile' updated' found' applied' active going
      rw [found] at found'
      obtain rfl := Option.some.inj found'
      rw [applied] at applied'
      obtain rfl := Except.ok.inj applied'
      refine after sourceId updated (getSourceProfile_eq_some.mpr ⟨?_, ?_⟩) active going
      · rw [Rows.get_modify_self, stored, Option.map_some]
      · exact (SourceProfileUpdate.apply_deletedAt applied).trans live
    · intro finds other row found' active going
      by_cases same : other = sourceId
      · subst same
        obtain ⟨here, -⟩ := getSourceProfile_eq_some.mp found'
        rw [Rows.get_modify_self, stored, Option.map_some] at here
        obtain rfl := Option.some.inj here
        exact finds profile updated found applied active going
      · refine fits other row ?_ active going
        rw [getSourceProfile, Rows.get_modify_of_ne _ same] at found'
        exact found'
  | delete sourceId now =>
    refine iff_of_true ?_ trivial
    obtain ⟨profile, stored, rfl⟩ := next_delete step
    intro other row found active going
    refine fits other row ?_ active going
    unfold deactivateSourceProfile at found
    split at found
    · by_cases same : other = sourceId
      · subst same
        obtain ⟨here, live⟩ := getSourceProfile_eq_some.mp found
        rw [Rows.get_modify_self, stored, Option.map_some] at here
        obtain rfl := Option.some.inj here
        cases live
      · rw [getSourceProfile, Rows.get_modify_of_ne _ same] at found
        exact found
    · exact found
  | stopJobs sourceId =>
    refine iff_of_true ?_ trivial
    obtain ⟨profile, -, rfl⟩ := next_stopJobs step
    intro other row found active going
    simp only [stopped, Bool.or_eq_false_iff] at going
    have before := fits other row found active going.2
    rw [Fits, registeredSeconds_kept (JobScheduler.pauseSource_jobs _ _)]
    exact before
  | startJobs sourceId =>
    obtain ⟨profile, found, rfl⟩ := next_startJobs step
    constructor
    · intro after profile' found' active
      have here := after sourceId profile' found' active (by simp [stopped])
      rw [Fits, registeredSeconds_kept (JobScheduler.resumeSource_jobs _ _)] at here
      exact here
    · intro finds other row found' active going
      rw [Fits, registeredSeconds_kept (JobScheduler.resumeSource_jobs _ _)]
      by_cases same : other = sourceId
      · subst same
        exact finds row found' active
      · refine fits other row found' active ?_
        simpa [stopped, Ne.symm same] using going

end Scheduled

/-! ### Runs -/

/-- At startup every probed source gets its jobs. -/
theorem scheduled_startup (sources : Rows SourceProfile) :
    Scheduled [] (startup sources) fun sourceId =>
      ((sources.get sourceId).filter Probed).map newPlan where
  running := rfl
  holds := by
    have registered := holds_new.registerJobs.registerSourceProbeJobs sources
    simp only [Option.none_or] at registered
    refine registered.start ?_
    intro sourceId plan planned
    obtain ⟨_, _, rfl⟩ := Option.map_eq_some_iff.mp planned
    rfl
  paused := by
    intro sourceId plan planned paused
    obtain ⟨_, _, rfl⟩ := Option.map_eq_some_iff.mp planned
    cases paused
  unused := by
    intro sourceId later
    rw [show sources.get sourceId = none from sources.unused sourceId later]
    rfl

variable {sources : Rows SourceProfile} {history : List (App × Request)} {s : App}

theorem scheduled_of_run (run : Run next (startup sources) history s) :
    ∃ plans, Scheduled history s plans := by
  induction run with
  | init => exact ⟨_, scheduled_startup sources⟩
  | snoc _ step ih =>
    obtain ⟨plans, scheduled⟩ := ih
    exact ⟨_, scheduled.step step⟩

theorem scheduleFollows_startup (sources : Rows SourceProfile) :
    ScheduleFollows [] (startup sources) := by
  have scheduled := scheduled_startup sources
  rw [scheduled.scheduleFollows_iff]
  intro sourceId profile found active _
  obtain ⟨found, live⟩ := getSourceProfile_eq_some.mp found
  change sources.get sourceId = some profile at found
  rw [Fits, scheduled.registeredSeconds_eq, found]
  simp [Option.filter, Probed, live, active, newPlan]

/-- **The schedule follows the registry** in every state of a run exactly when
each PATCH and each start request of the run finds a fitting probe job. -/
theorem schedule_follows_registry (run : Run next (startup sources) history s) :
    Throughout ScheduleFollows history s ↔ Meets FindsJob history := by
  refine Run.throughout_iff_meets (scheduleFollows_startup sources) ?_ run
  intro history s request s' run follows step
  obtain ⟨plans, scheduled⟩ := scheduled_of_run run
  exact scheduled.scheduleFollows_step follows step

/-! ### A changed interval -/

def weatherSource : SourceProfile :=
  { id := 1, name := "weather", baseUrl := "https://api.example.com", healthCheckPath := "/health"
    probeIntervalSeconds := 60, tenantId := none }

/-- One registered source, probed every minute. -/
def weatherSources : Rows SourceProfile := .single 1 weatherSource

/-- `PATCH /sources/1` with `{"probe_interval_seconds": 30}`. -/
def halveInterval : Request := .patch 1 { probeIntervalSeconds := some (some 30) } (.ok ())

theorem next_halveInterval :
    next (startup weatherSources) halveInterval =
      some
        { startup weatherSources with
          sources := weatherSources.modify 1 fun _ =>
            { weatherSource with probeIntervalSeconds := 30 } } := by
  rfl

/-- The probe job keeps the interval it was registered with. -/
theorem patched_interval_ignored :
    ¬ ∀ (sources : Rows SourceProfile) (history : List (App × Request)) (s : App),
      Run next (startup sources) history s → ScheduleFollows history s := by
  intro follows
  have patched := follows _ _ _ (Run.init.snoc next_halveInterval) 1
    { weatherSource with probeIntervalSeconds := 30 } rfl rfl rfl rfl
  have live := congrArg SourceJobs.liveProbe ((scheduled_startup weatherSources).holds 1)
  have registered : (startup weatherSources).scheduler.live (probeJobName 1) =
      some { handler := .sourceProbe 1, trigger := 60, paused := false } := live
  have same := patched.1.symm.trans registered
  revert same
  decide

/-- A source that is stopped and started again. -/
theorem schedule_follows_registry_restarted :
    ∃ history s, Run next (startup weatherSources) history s ∧
      history.map Prod.snd = [.startJobs 1, .stopJobs 1] ∧ Throughout ScheduleFollows history s := by
  obtain ⟨s₁, stop⟩ : ∃ s₁, next (startup weatherSources) (.stopJobs 1) = some s₁ := ⟨_, rfl⟩
  obtain ⟨profile, found, rfl⟩ := next_stopJobs stop
  obtain ⟨s₂, start⟩ : ∃ s₂, next { startup weatherSources with
      scheduler := (startup weatherSources).scheduler.pauseSource 1 } (.startJobs 1) = some s₂ :=
    ⟨_, rfl⟩
  have run := (Run.init.snoc stop).snoc start
  refine ⟨_, _, run, rfl, (schedule_follows_registry run).mpr ⟨?_, trivial, trivial⟩⟩
  intro row found' _
  have scheduled := scheduled_startup weatherSources
  obtain rfl : weatherSource = row := Option.some.inj found'
  rw [Fits, registeredSeconds_kept (JobScheduler.pauseSource_jobs _ _),
    scheduled.registeredSeconds_eq]
  rfl

end ApiObservatory.Sources
