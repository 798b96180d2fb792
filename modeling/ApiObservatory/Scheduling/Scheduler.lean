import Mathlib.Logic.Function.Basic

/-
The job scheduler (`services/ingestor/core/scheduler.py`).

`jobs` is the bookkeeping in `_jobs`; `live` holds the jobs of the APScheduler
under their ids. Adding a job there replaces one with the same id and schedules
it; pausing and resuming a job only set whether it fires.
-/

namespace ApiObservatory.Scheduling

/-- The functions the job registry schedules. -/
inductive Handler where
  | scheduledBatch
  | sourceProbe (sourceId : Nat)
  | sourceSnapshot (sourceId : Nat)
deriving DecidableEq

/-- A registered job; `trigger` is the number of seconds of its `IntervalTrigger`. -/
structure Job where
  handler : Handler
  trigger : Option Int
deriving DecidableEq

/-- A job of the APScheduler. -/
structure LiveJob where
  handler : Handler
  trigger : Int
  paused : Bool
deriving DecidableEq

structure JobScheduler where
  jobs : String → Option Job := fun _ => none
  live : String → Option LiveJob := fun _ => none
  running : Bool := false

namespace JobScheduler

/-- `_activate_job`. -/
def activateJob (s : JobScheduler) (jobName : String) (job : Job) : JobScheduler :=
  match job.trigger with
  | none => s
  | some trigger =>
      { s with
        live := Function.update s.live jobName
          (some { handler := job.handler, trigger, paused := false }) }

/-- The decorator `job`. -/
def job (s : JobScheduler) (name : String) (job : Job) : JobScheduler :=
  let s := { s with jobs := Function.update s.jobs name (some job) }
  if s.running then s.activateJob name job else s

/-- `start`. The loop activates each job under its own name. -/
def start (s : JobScheduler) : JobScheduler :=
  { s with
    live := fun jobName =>
      match s.jobs jobName with
      | none => s.live jobName
      | some job => (s.activateJob jobName job).live jobName
    running := true }

/-- `pause_job`. -/
def pauseJob (s : JobScheduler) (jobName : String) : JobScheduler :=
  match s.live jobName with
  | none => s
  | some liveJob =>
      { s with live := Function.update s.live jobName (some { liveJob with paused := true }) }

/-- `resume_job`. -/
def resumeJob (s : JobScheduler) (jobName : String) : JobScheduler :=
  match s.jobs jobName with
  | none => s
  | some job =>
      match s.live jobName with
      | some liveJob =>
          { s with live := Function.update s.live jobName (some { liveJob with paused := false }) }
      | none => s.activateJob jobName job

/-! ### What an operation leaves as it is -/

@[simp] theorem activateJob_jobs (s : JobScheduler) (jobName : String) (job : Job) :
    (s.activateJob jobName job).jobs = s.jobs := by
  unfold activateJob
  split <;> rfl

@[simp] theorem activateJob_running (s : JobScheduler) (jobName : String) (job : Job) :
    (s.activateJob jobName job).running = s.running := by
  unfold activateJob
  split <;> rfl

theorem activateJob_live_of_ne {s : JobScheduler} {jobName other : String} (job : Job)
    (ne : other ≠ jobName) : (s.activateJob jobName job).live other = s.live other := by
  unfold activateJob
  split
  · rfl
  · exact Function.update_of_ne ne _ _

@[simp] theorem job_jobs (s : JobScheduler) (name : String) (new : Job) :
    (s.job name new).jobs = Function.update s.jobs name (some new) := by
  unfold job
  dsimp only
  split <;> simp

@[simp] theorem job_running (s : JobScheduler) (name : String) (new : Job) :
    (s.job name new).running = s.running := by
  unfold job
  dsimp only
  split <;> simp

theorem job_live_of_ne {s : JobScheduler} {name other : String} (new : Job) (ne : other ≠ name) :
    (s.job name new).live other = s.live other := by
  unfold job
  dsimp only
  split
  · exact activateJob_live_of_ne new ne
  · rfl

@[simp] theorem pauseJob_jobs (s : JobScheduler) (jobName : String) :
    (s.pauseJob jobName).jobs = s.jobs := by
  unfold pauseJob
  split <;> rfl

@[simp] theorem pauseJob_running (s : JobScheduler) (jobName : String) :
    (s.pauseJob jobName).running = s.running := by
  unfold pauseJob
  split <;> rfl

theorem pauseJob_live_of_ne {s : JobScheduler} {jobName other : String} (ne : other ≠ jobName) :
    (s.pauseJob jobName).live other = s.live other := by
  unfold pauseJob
  split
  · rfl
  · exact Function.update_of_ne ne _ _

@[simp] theorem resumeJob_jobs (s : JobScheduler) (jobName : String) :
    (s.resumeJob jobName).jobs = s.jobs := by
  unfold resumeJob
  split
  · rfl
  · split
    · rfl
    · exact activateJob_jobs s jobName _

@[simp] theorem resumeJob_running (s : JobScheduler) (jobName : String) :
    (s.resumeJob jobName).running = s.running := by
  unfold resumeJob
  split
  · rfl
  · split
    · rfl
    · exact activateJob_running s jobName _

theorem resumeJob_live_of_ne {s : JobScheduler} {jobName other : String} (ne : other ≠ jobName) :
    (s.resumeJob jobName).live other = s.live other := by
  unfold resumeJob
  split
  · rfl
  · split
    · exact Function.update_of_ne ne _ _
    · exact activateJob_live_of_ne _ ne

/-! ### What it does to its own job -/

theorem job_live_self (s : JobScheduler) (name : String) (handler : Handler) (trigger : Int) :
    (s.job name { handler, trigger := some trigger }).live name =
      if s.running then some { handler, trigger, paused := false } else s.live name := by
  unfold job activateJob
  cases s.running <;> simp

theorem pauseJob_live_self (s : JobScheduler) (jobName : String) :
    (s.pauseJob jobName).live jobName =
      (s.live jobName).map fun liveJob => { liveJob with paused := true } := by
  unfold pauseJob
  cases here : s.live jobName with
  | none => simp [here]
  | some liveJob => simp

theorem resumeJob_live_self {s : JobScheduler} {jobName : String} {liveJob : LiveJob}
    (live : s.live jobName = some liveJob) (registered : (s.jobs jobName).isSome) :
    (s.resumeJob jobName).live jobName = some { liveJob with paused := false } := by
  obtain ⟨job, here⟩ := Option.isSome_iff_exists.mp registered
  simp [resumeJob, here, live]

theorem resumeJob_of_unregistered {s : JobScheduler} {jobName : String}
    (absent : s.jobs jobName = none) : s.resumeJob jobName = s := by
  simp [resumeJob, absent]

end JobScheduler

end ApiObservatory.Scheduling
