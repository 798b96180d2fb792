import ApiObservatory.Foundation.Run
import ApiObservatory.Jobs.Probes

/-
The breaker of a source over any run of its jobs.

The probes and contract snapshots of an active source with an allowed URL run
as overlapping calls; a step goes from one `await` to the next. Only `enter`
takes a breaker from OPEN to HALF_OPEN, and a job that finds the breaker OPEN
returns before it enters. So no call made when the breaker is OPEN sends a
request, however long ago it opened, and with no earlier call under way the
breaker stays OPEN for good.
-/

namespace ApiObservatory.Jobs

open Foundation

abbrev Worker := Nat

/-- Where a call stands: past the test of the breaker, inside the request, or done. -/
inductive Phase where
  | idle
  | validating (job : Job)
  | requesting (job : Job)
  | returned (result : Result)

structure State where
  breakers : Breakers
  phase : Worker → Phase

inductive Label where
  | call (w : Worker) (job : Job) (now : Int)
  | enter (w : Worker) (now : Int)
  | respond (w : Worker) (outcome : Except RequestError Response) (now : Int) (latencyMs : Rat)

def Label.worker : Label → Worker
  | .call w _ _ => w
  | .enter w _ => w
  | .respond w _ _ _ => w

namespace State

def moveTo (s : State) (w : Worker) (p : Phase) : State :=
  { s with phase := Function.update s.phase w p }

/-- The breaker of the source. -/
def breaker (s : State) (profile : SourceProfile) : CircuitBreaker RequestError :=
  getSourceProbeBreaker s.breakers profile.id

def store (s : State) (profile : SourceProfile) (breaker : CircuitBreaker RequestError) : State :=
  { s with breakers := Function.update s.breakers profile.id (some breaker) }

end State

/-- One step of one call for the active source `profile`. -/
def next (profile : SourceProfile) (s : State) (label : Label) : Option State :=
  match s.phase label.worker, label with
  | .idle, .call w job _ =>
      if (s.breaker profile).isOpen then some (s.moveTo w (.returned circuitOpen))
      else some (s.moveTo w (.validating job))
  | .validating job, .enter w now =>
      match (s.breaker profile).enter now with
      | none => some (s.moveTo w (.returned job.rejected))
      | some entered => some ((s.store profile entered).moveTo w (.requesting job))
  | .requesting job, .respond w outcome now latencyMs =>
      some ((s.store profile ((s.breaker profile).leave (raisedBy outcome) now)).moveTo w
        (.returned (job.result (targetUrl profile) latencyMs outcome)))
  | _, _ => none

/-- No breaker and no call. -/
def initial : State where
  breakers _ := none
  phase _ := .idle

/-- A call that has tested the breaker and not returned. -/
def Phase.underWay : Phase → Bool
  | .validating _ => true
  | .requesting _ => true
  | _ => false

/-! ### What one step does -/

/-- The steps, with what is known where they run. -/
inductive Step (profile : SourceProfile) (s : State) : Label → State → Prop where
  | skips (w : Worker) (job : Job) (now : Int) :
      s.phase w = .idle → (s.breaker profile).isOpen = true →
      Step profile s (.call w job now) (s.moveTo w (.returned circuitOpen))
  | begins (w : Worker) (job : Job) (now : Int) :
      s.phase w = .idle → (s.breaker profile).isOpen = false →
      Step profile s (.call w job now) (s.moveTo w (.validating job))
  | rejected (w : Worker) (job : Job) (now : Int) :
      s.phase w = .validating job → (s.breaker profile).enter now = none →
      Step profile s (.enter w now) (s.moveTo w (.returned job.rejected))
  | requests (w : Worker) (job : Job) (now : Int) (entered : CircuitBreaker RequestError) :
      s.phase w = .validating job → (s.breaker profile).enter now = some entered →
      Step profile s (.enter w now) ((s.store profile entered).moveTo w (.requesting job))
  | responds (w : Worker) (job : Job) (outcome : Except RequestError Response) (now : Int)
      (latencyMs : Rat) :
      s.phase w = .requesting job →
      Step profile s (.respond w outcome now latencyMs)
        ((s.store profile ((s.breaker profile).leave (raisedBy outcome) now)).moveTo w
          (.returned (job.result (targetUrl profile) latencyMs outcome)))

variable {profile : SourceProfile} {s s' : State} {label : Label} {w : Worker}

theorem next_step (h : next profile s label = some s') : Step profile s label s' := by
  unfold next at h
  split at h
  · rename_i w job now phase
    split at h
    · rename_i opened
      cases h
      exact .skips w job now phase opened
    · rename_i closed
      cases h
      exact .begins w job now phase (Bool.not_eq_true _ ▸ closed)
  · rename_i job w now phase
    split at h
    · rename_i refused
      cases h
      exact .rejected w job now phase refused
    · rename_i entered admitted
      cases h
      exact .requests w job now entered phase admitted
  · rename_i job w outcome now latencyMs phase
    cases h
    exact .responds w job outcome now latencyMs phase
  · cases h

@[simp] theorem phase_moveTo_self (s : State) (w : Worker) (p : Phase) :
    (s.moveTo w p).phase w = p := by
  simp [State.moveTo]

theorem phase_moveTo_of_ne {w' : Worker} (ne : w' ≠ w) (s : State) (p : Phase) :
    (s.moveTo w p).phase w' = s.phase w' := by
  simp [State.moveTo, ne]

/-- A step moves its own call only. -/
theorem Step.frame (step : Step profile s label s') (ne : w ≠ label.worker) :
    s'.phase w = s.phase w := by
  cases step with
  | skips | begins | rejected => exact phase_moveTo_of_ne ne _ _
  | requests | responds => exact phase_moveTo_of_ne ne _ _

/-- A call does not become idle again. -/
theorem Step.idle_before (step : Step profile s label s') (idle : s'.phase w = .idle) :
    s.phase w = .idle := by
  by_cases own : w = label.worker
  · subst own
    cases step with
    | skips | begins | rejected => simp [Label.worker] at idle
    | requests | responds => simp [Label.worker] at idle
  · rw [← step.frame own, idle]

/-- A call that has returned stays so. -/
theorem Step.returned (step : Step profile s label s') {result : Result}
    (returned : s.phase w = .returned result) : s'.phase w = .returned result := by
  by_cases own : w = label.worker
  · subst own
    cases step with
    | skips w job now phase | begins w job now phase =>
      cases returned.symm.trans phase
    | rejected w job now phase | requests w job now entered phase =>
      cases returned.symm.trans phase
    | responds w job outcome now latencyMs phase => cases returned.symm.trans phase
  · rw [step.frame own, returned]

/-! ### A call made when the breaker is open -/

section Run

variable {start : State} {history : List (State × Label)}

/-- A call that is idle has been idle all along. -/
theorem idle_of_run (run : Run (next profile) start history s) (idle : s.phase w = .idle) :
    ∀ entry ∈ history, entry.1.phase w = .idle := by
  induction run with
  | init => exact nofun
  | snoc run step ih =>
    have before := (next_step step).idle_before idle
    exact List.forall_mem_cons.mpr ⟨before, ih before⟩

/-- A call made when the breaker is OPEN has returned, and was never past the test. -/
theorem skipped_of_run (run : Run (next profile) start history s) {before : State} {job : Job}
    {now : Int} (called : (before, Label.call w job now) ∈ history)
    (opened : (before.breaker profile).isOpen = true) :
    s.phase w = .returned circuitOpen ∧
      ∀ entry ∈ history, (entry.1.phase w).underWay = false := by
  induction run with
  | init => cases called
  | @snoc history s s' label run step ih =>
    have is := next_step step
    rw [List.forall_mem_cons]
    rcases List.mem_cons.mp called with now | earlier
    · -- The call is made now; its worker was idle until here.
      obtain ⟨rfl, rfl⟩ := Prod.mk.inj now
      cases is with
      | skips w job now phase opened =>
        refine ⟨phase_moveTo_self _ _ _, by rw [phase]; rfl, fun entry mem => ?_⟩
        rw [idle_of_run run phase entry mem]
        rfl
      | begins w job now phase closed =>
        rw [opened] at closed
        cases closed
    · obtain ⟨returned, never⟩ := ih earlier
      exact ⟨is.returned returned, by rw [returned]; rfl, never⟩

/-- With no call under way an open breaker is not touched, at any step. -/
theorem open_of_run (run : Run (next profile) start history s)
    (opened : (start.breaker profile).isOpen = true)
    (quiet : ∀ w, (start.phase w).underWay = false) :
    s.breakers = start.breakers ∧ (∀ w, (s.phase w).underWay = false) ∧
      ∀ entry ∈ history, entry.1.breakers = start.breakers := by
  induction run with
  | init => exact ⟨rfl, quiet, nofun⟩
  | @snoc history s s' label run step ih =>
    obtain ⟨same, still, earlier⟩ := ih
    have isOpen : (s.breaker profile).isOpen = true := by
      unfold State.breaker
      rw [same]
      exact opened
    cases next_step step with
    | skips w job now phase opened =>
      refine ⟨same, fun w' => ?_, List.forall_mem_cons.mpr ⟨same, earlier⟩⟩
      by_cases own : w' = w
      · subst own
        rw [phase_moveTo_self]
        rfl
      · rw [phase_moveTo_of_ne own]
        exact still w'
    | begins w job now phase closed =>
      rw [isOpen] at closed
      cases closed
    | rejected w job now phase | requests w job now entered phase =>
      have under := still w
      rw [phase] at under
      cases under
    | responds w job outcome now latencyMs phase =>
      have under := still w
      rw [phase] at under
      cases under

/-- **The source-probe breaker does not recover.** In every run: a call made when
the breaker is OPEN returns `circuit_open` and never sends a request, at whatever
time it is made; and once the breaker is OPEN with no call under way, it is the
same breaker after every further run. -/
theorem source_probe_breaker_never_recovers (run : Run (next profile) initial history s) :
    (∀ before w job now, (before, Label.call w job now) ∈ history →
      (before.breaker profile).isOpen = true →
      s.phase w = .returned circuitOpen ∧
        ∀ entry ∈ history, ∀ job, entry.1.phase w ≠ .requesting job) ∧
    ((s.breaker profile).isOpen = true → (∀ w, (s.phase w).underWay = false) →
      ∀ later s', Run (next profile) s later s' →
        s'.breakers = s.breakers ∧
        ∀ before w job now, (before, Label.call w job now) ∈ later →
          s'.phase w = .returned circuitOpen) := by
  constructor
  · intro before w job now called opened
    obtain ⟨returned, never⟩ := skipped_of_run run called opened
    refine ⟨returned, fun entry mem job requesting => ?_⟩
    have under := never entry mem
    rw [requesting] at under
    cases under
  · intro opened quiet later s' further
    obtain ⟨same, -, before_same⟩ := open_of_run further opened quiet
    refine ⟨same, fun before w job now called => (skipped_of_run further called ?_).1⟩
    have still : before.breakers = s.breakers := before_same _ called
    unfold State.breaker at opened ⊢
    rw [still, opened]

end Run

/-! ### A run -/

def probedProfile : SourceProfile :=
  { id := 1, name := "orders", baseUrl := "https://orders.example", tenantId := none }

/-- A probe whose request fails. -/
def failingProbe (w : Worker) (now : Int) : List Label :=
  [.call w .probe now, .enter w now, .respond w (.error (.http "refused")) now 0]

/-- Three probes fail. -/
def openingLabels : List Label :=
  failingProbe 1 (seconds 1) ++ failingProbe 2 (seconds 2) ++ failingProbe 3 (seconds 3)

/-- **A due call is skipped**: the breaker has been OPEN for longer than its
recovery timeout. -/
theorem due_call_skipped :
    ∃ (history : List (State × Label)) (s before : State),
      Run (next probedProfile) initial history s ∧
      (before, Label.call 4 .probe (seconds 103)) ∈ history ∧
      (before.breaker probedProfile).isOpen = true ∧
      (before.breaker probedProfile).openedAt = some (seconds 3) ∧
      seconds 103 - seconds 3 ≥ (before.breaker probedProfile).recoveryTimeout ∧
      s.phase 4 = .returned circuitOpen := by
  have done : (finalState (next probedProfile) initial openingLabels).isSome = true := by rfl
  obtain ⟨history, run⟩ := run_of_isSome done
  have called : next probedProfile ((finalState (next probedProfile) initial openingLabels).get done)
      (.call 4 .probe (seconds 103)) = some _ := rfl
  have due : seconds 60 ≤ seconds 103 - seconds 3 := by decide
  exact ⟨_, _, _, run.snoc called, List.mem_cons_self, rfl, rfl, due, rfl⟩

/-- The same call, by the general result. -/
theorem due_call_never_requests :
    ∃ (history : List (State × Label)) (s : State),
      Run (next probedProfile) initial history s ∧ s.phase 4 = .returned circuitOpen ∧
      ∀ entry ∈ history, ∀ job, entry.1.phase 4 ≠ .requesting job := by
  have done : (finalState (next probedProfile) initial openingLabels).isSome = true := by rfl
  obtain ⟨history, run⟩ := run_of_isSome done
  have called : next probedProfile ((finalState (next probedProfile) initial openingLabels).get done)
      (.call 4 .probe (seconds 103)) = some _ := rfl
  obtain ⟨returned, never⟩ := (source_probe_breaker_never_recovers (run.snoc called)).1 _ 4 .probe
    (seconds 103) List.mem_cons_self rfl
  exact ⟨_, _, run.snoc called, returned, never⟩

end ApiObservatory.Jobs
