import ApiObservatory.Foundation.Run
import ApiObservatory.Scheduling.Registry

/-
The routes of the source registry that change it or its jobs
(`services/ingestor/api/routes/source_registry.py`).

A request carries what it gets from outside: the answer of
`validate_source_base_url`, the tenant of its claims and the clock. Requests are
handled one after another; the step relation takes the successful ones.
-/

namespace ApiObservatory.Sources

open Foundation Scheduling

def sourceNotFound : RouteError := .httpException 404 "Source not found."

def schedulerNotInitialized : RouteError := .httpException 503 "Scheduler not initialized."

/-- The body of the answer of `stop_source_jobs` and `start_source_jobs`. -/
structure SourceJobsAnswer where
  sourceId : Nat
  action : String
  jobs : List String
  schedulerRunning : Bool

/-- `register_source`. -/
def registerSource (sources : Rows SourceProfile) (scheduler : Option JobScheduler)
    (payload : SourceProfileCreate) (tenantId : Option Nat) (validated : Except String Unit) :
    Except RouteError (Rows SourceProfile × Option JobScheduler) :=
  if payload.valid then
    match validated with
    | .error detail => .error (.httpException 422 detail)
    | .ok () =>
        match createSourceProfile sources payload tenantId with
        | .error _ => .error (.httpException 409 "Source name already registered.")
        | .ok sources =>
            .ok (sources, scheduler.map fun s => (registerSourceProbeJobs s sources).1)
  else .error .requestValidation

/-- `patch_source`. -/
def patchSource (sources : Rows SourceProfile) (sourceId : Nat) (patch : SourceProfileUpdate)
    (validated : Except String Unit) : Except RouteError (Rows SourceProfile) :=
  if patch.valid then
    match getSourceProfile sources sourceId with
    | none => .error sourceNotFound
    | some profile =>
        match patch.baseUrl.join, validated with
        | some _, .error detail => .error (.httpException 422 detail)
        | _, _ => (updateSourceProfile sources sourceId profile patch).mapError .database
  else .error .requestValidation

/-- `delete_source`. -/
def deleteSource (sources : Rows SourceProfile) (sourceId : Nat) (now : Int) :
    Except RouteError (Rows SourceProfile) :=
  match getSourceProfile sources sourceId true with
  | none => .error sourceNotFound
  | some profile => .ok (deactivateSourceProfile sources sourceId profile now)

/-- `stop_source_jobs`. -/
def stopSourceJobs (sources : Rows SourceProfile) (scheduler : Option JobScheduler)
    (sourceId : Nat) : Except RouteError (JobScheduler × SourceJobsAnswer) :=
  match getSourceProfile sources sourceId, scheduler with
  | none, _ => .error sourceNotFound
  | some _, none => .error schedulerNotInitialized
  | some _, some s =>
      let s := s.pauseJob (probeJobName sourceId)
      let s := s.pauseJob (snapshotJobName sourceId)
      .ok (s,
        { sourceId
          action := "stopped"
          jobs := [probeJobName sourceId, snapshotJobName sourceId]
          schedulerRunning := s.running })

/-- `start_source_jobs`. -/
def startSourceJobs (sources : Rows SourceProfile) (scheduler : Option JobScheduler)
    (sourceId : Nat) : Except RouteError (JobScheduler × SourceJobsAnswer) :=
  match getSourceProfile sources sourceId, scheduler with
  | none, _ => .error sourceNotFound
  | some _, none => .error schedulerNotInitialized
  | some _, some s =>
      let s := s.resumeJob (probeJobName sourceId)
      let s := s.resumeJob (snapshotJobName sourceId)
      .ok (s,
        { sourceId
          action := "started"
          jobs := [probeJobName sourceId, snapshotJobName sourceId]
          schedulerRunning := s.running })

/-! ### The requests of a running service -/

/-- The registry and the scheduler the routes were given at startup. -/
structure App where
  sources : Rows SourceProfile
  scheduler : JobScheduler

inductive Request where
  | register (payload : SourceProfileCreate) (tenantId : Option Nat)
      (validated : Except String Unit)
  | patch (sourceId : Nat) (patch : SourceProfileUpdate) (validated : Except String Unit)
  | delete (sourceId : Nat) (now : Int)
  | stopJobs (sourceId : Nat)
  | startJobs (sourceId : Nat)

/-- The state after a request. -/
def App.handle (s : App) : Request → Except RouteError App
  | .register payload tenantId validated =>
      (registerSource s.sources (some s.scheduler) payload tenantId validated).map
        fun (sources, scheduler) => { sources, scheduler := scheduler.getD s.scheduler }
  | .patch sourceId patch validated =>
      (patchSource s.sources sourceId patch validated).map fun sources => { s with sources }
  | .delete sourceId now =>
      (deleteSource s.sources sourceId now).map fun sources => { s with sources }
  | .stopJobs sourceId =>
      (stopSourceJobs s.sources (some s.scheduler) sourceId).map
        fun (scheduler, _) => { s with scheduler }
  | .startJobs sourceId =>
      (startSourceJobs s.sources (some s.scheduler) sourceId).map
        fun (scheduler, _) => { s with scheduler }

/-- A request that succeeds. -/
def next (s : App) (request : Request) : Option App := (s.handle request).toOption

/-- Startup in `main.py`: the jobs are registered, then the scheduler starts. -/
def startup (sources : Rows SourceProfile) : App where
  sources
  scheduler := (registerSourceProbeJobs (registerJobs {}) sources).1.start

/-! ### What a successful request does -/

theorem registerSource_ok {sources sources' : Rows SourceProfile}
    {scheduler scheduler' : Option JobScheduler} {payload : SourceProfileCreate}
    {tenantId : Option Nat} {validated : Except String Unit}
    (success : registerSource sources scheduler payload tenantId validated =
      .ok (sources', scheduler')) :
    payload.valid = true ∧ createSourceProfile sources payload tenantId = .ok sources' ∧
      scheduler' = scheduler.map fun s => (registerSourceProbeJobs s sources').1 := by
  unfold registerSource at success
  by_cases valid : payload.valid = true
  · rw [if_pos valid] at success
    cases validated with
    | error => cases success
    | ok =>
      cases created : createSourceProfile sources payload tenantId with
      | error =>
        rw [created] at success
        cases success
      | ok =>
        rw [created] at success
        cases success
        exact ⟨valid, rfl, rfl⟩
  · rw [if_neg valid] at success
    cases success

theorem createSourceProfile_ok {sources sources' : Rows SourceProfile}
    {payload : SourceProfileCreate} {tenantId : Option Nat}
    (created : createSourceProfile sources payload tenantId = .ok sources') :
    ∃ row, sources' = sources.insert row := by
  unfold createSourceProfile at created
  split at created
  · cases created
  · cases created
    exact ⟨_, rfl⟩

theorem patchSource_ok {sources sources' : Rows SourceProfile} {sourceId : Nat}
    {patch : SourceProfileUpdate} {validated : Except String Unit}
    (success : patchSource sources sourceId patch validated = .ok sources') :
    ∃ profile updated, getSourceProfile sources sourceId = some profile ∧
      patch.apply profile = .ok updated ∧ sources' = sources.modify sourceId fun _ => updated := by
  unfold patchSource at success
  split at success
  · cases found : getSourceProfile sources sourceId with
    | none =>
      rw [found] at success
      cases success
    | some profile =>
      rw [found] at success
      dsimp only at success
      split at success
      · cases success
      · unfold updateSourceProfile at success
        cases applied : patch.apply profile with
        | error =>
          rw [applied] at success
          cases success
        | ok updated =>
          rw [applied] at success
          cases success
          exact ⟨profile, updated, rfl, applied, rfl⟩
  · cases success

variable {s s' : App}

theorem next_register {payload : SourceProfileCreate} {tenantId : Option Nat}
    {validated : Except String Unit}
    (step : next s (.register payload tenantId validated) = some s') :
    ∃ row, s' =
      { sources := s.sources.insert row
        scheduler := (registerSourceProbeJobs s.scheduler (s.sources.insert row)).1 } := by
  obtain ⟨⟨sources, scheduler⟩, success, rfl⟩ := ok_of_toOption_map step
  obtain ⟨-, created, rfl⟩ := registerSource_ok success
  obtain ⟨row, rfl⟩ := createSourceProfile_ok created
  exact ⟨row, rfl⟩

theorem next_patch {sourceId : Nat} {patch : SourceProfileUpdate}
    {validated : Except String Unit} (step : next s (.patch sourceId patch validated) = some s') :
    ∃ profile updated, getSourceProfile s.sources sourceId = some profile ∧
      patch.apply profile = .ok updated ∧
      s' = { s with sources := s.sources.modify sourceId fun _ => updated } := by
  obtain ⟨sources, success, rfl⟩ := ok_of_toOption_map step
  obtain ⟨profile, updated, found, applied, rfl⟩ := patchSource_ok success
  exact ⟨profile, updated, found, applied, rfl⟩

theorem next_delete {sourceId : Nat} {now : Int} (step : next s (.delete sourceId now) = some s') :
    ∃ profile, s.sources.get sourceId = some profile ∧
      s' = { s with sources := deactivateSourceProfile s.sources sourceId profile now } := by
  obtain ⟨sources, success, rfl⟩ := ok_of_toOption_map step
  unfold deleteSource at success
  cases found : getSourceProfile s.sources sourceId true with
  | none =>
    rw [found] at success
    cases success
  | some profile =>
    rw [found] at success
    cases success
    exact ⟨profile, (Option.filter_eq_some_iff.mp found).1, rfl⟩

theorem next_stopJobs {sourceId : Nat} (step : next s (.stopJobs sourceId) = some s') :
    ∃ profile, getSourceProfile s.sources sourceId = some profile ∧
      s' = { s with scheduler := s.scheduler.pauseSource sourceId } := by
  obtain ⟨⟨scheduler, answer⟩, success, rfl⟩ := ok_of_toOption_map step
  unfold stopSourceJobs at success
  cases found : getSourceProfile s.sources sourceId with
  | none =>
    rw [found] at success
    cases success
  | some profile =>
    rw [found] at success
    cases success
    exact ⟨profile, rfl, rfl⟩

theorem next_startJobs {sourceId : Nat} (step : next s (.startJobs sourceId) = some s') :
    ∃ profile, getSourceProfile s.sources sourceId = some profile ∧
      s' = { s with scheduler := s.scheduler.resumeSource sourceId } := by
  obtain ⟨⟨scheduler, answer⟩, success, rfl⟩ := ok_of_toOption_map step
  unfold startSourceJobs at success
  cases found : getSourceProfile s.sources sourceId with
  | none =>
    rw [found] at success
    cases success
  | some profile =>
    rw [found] at success
    cases success
    exact ⟨profile, rfl, rfl⟩

end ApiObservatory.Sources
