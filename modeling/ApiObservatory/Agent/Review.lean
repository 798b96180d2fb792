import ApiObservatory.Foundation.Run
import ApiObservatory.Foundation.Tasks
import ApiObservatory.Platform.Routes
import ApiObservatory.Repositories.Users
import ApiObservatory.Time

/-
The review of an agent run (`services/ingestor/api/routes/agent.py`,
`services/ingestor/agent/runner.py`).

A resume request checks the run, hands its decision to the graph and writes the outcome to the
row, in three sessions and without a lock. A paused thread consumes one decision; a thread that
has consumed one answers every later resume with its final state, or raises. The row is written
in both cases, so a second reviewer overwrites the verdict of the first (`overwritten`). What a
run must not do for the first verdict to stay is `Ok` (`decided_once_iff`).
-/

namespace ApiObservatory.AgentReview

open Foundation

/-! ### Rows and threads -/

inductive AgentRunStatus where
  | pending | running | awaitingReview | approved | rejected | failed
deriving DecidableEq

/-- The text of the column. -/
def AgentRunStatus.text : AgentRunStatus → String
  | .pending => "pending"
  | .running => "running"
  | .awaitingReview => "awaiting_review"
  | .approved => "approved"
  | .rejected => "rejected"
  | .failed => "failed"

structure AgentRun where
  status : AgentRunStatus := .pending
  rootCauseHypothesis : Option String := none
  severityAssessment : Option String := none
  recommendedAction : Option String := none
  confidenceScore : Option Rat := none
  reviewerUserId : Option Nat := none
  reviewedAt : Option Int := none
deriving DecidableEq

/-- `AgentState`, as far as the row is written from it. -/
structure AgentState where
  llmSeverity : Option String
  rootCauseHypothesis : Option String
  recommendedAction : Option String
  confidenceScore : Option Rat
  reviewDecision : Option Bool
  reviewerUserId : Option Nat
deriving DecidableEq

/-- The payload of `Command(resume=…)`. -/
structure Decision where
  approve : Bool
  reviewerUserId : Option Nat
deriving DecidableEq

/-- `human_review` behind the pause. -/
def humanReview (state : AgentState) (decision : Decision) : AgentState :=
  { state with
    reviewDecision := some decision.approve
    reviewerUserId := decision.reviewerUserId }

/-- The checkpoint of the run. A decided thread keeps whose decision it consumed. -/
inductive Thread where
  | paused (state : AgentState)
  | decided (state : AgentState) (consumer : Nat)
deriving DecidableEq

def Thread.consumer : Thread → Option Nat
  | .paused _ => none
  | .decided _ consumer => some consumer

/-! ### The code -/

/-- The attributes that `_sync_agent_run` sets on the row it has loaded. -/
def syncAgentRun (agentRun : AgentRun) (result : AgentState) (interrupted resumed : Bool)
    (now : Int) : AgentRun :=
  let synced := { agentRun with
    severityAssessment := result.llmSeverity.or agentRun.severityAssessment
    rootCauseHypothesis := result.rootCauseHypothesis.or agentRun.rootCauseHypothesis
    recommendedAction := result.recommendedAction.or agentRun.recommendedAction
    confidenceScore := result.confidenceScore.or agentRun.confidenceScore }
  if interrupted then { synced with status := .awaitingReview }
  else if resumed then
    { synced with
      status := if result.reviewDecision.getD false then .approved else .rejected
      reviewerUserId := result.reviewerUserId
      reviewedAt := some now }
  else synced

/-- The attributes that `_set_status` sets. -/
def setStatus (agentRun : AgentRun) (status : AgentRunStatus) : AgentRun :=
  { agentRun with status }

/-- The commit of a session: the columns it has changed. -/
def commit (loaded changed stored : AgentRun) : AgentRun where
  status := columnUpdate loaded.status changed.status stored.status
  rootCauseHypothesis := columnUpdate loaded.rootCauseHypothesis changed.rootCauseHypothesis
    stored.rootCauseHypothesis
  severityAssessment := columnUpdate loaded.severityAssessment changed.severityAssessment
    stored.severityAssessment
  recommendedAction := columnUpdate loaded.recommendedAction changed.recommendedAction
    stored.recommendedAction
  confidenceScore := columnUpdate loaded.confidenceScore changed.confidenceScore
    stored.confidenceScore
  reviewerUserId := columnUpdate loaded.reviewerUserId changed.reviewerUserId
    stored.reviewerUserId
  reviewedAt := columnUpdate loaded.reviewedAt changed.reviewedAt stored.reviewedAt

/-- The checks of `resume_agent_run_endpoint` on the row. -/
def checkAgentRun : Option AgentRun → Except RouteError Unit
  | none => .error (.httpException 404 "Agent run not found")
  | some agentRun =>
      if agentRun.status ≠ .awaitingReview then
        .error (.httpException 409
          s!"Agent run is '{agentRun.status.text}', not awaiting review")
      else .ok ()

/-- The answer to what `resume_agent_run` returns. -/
def answer : Option AgentRun → Except RouteError AgentRun
  | none => .error (.httpException 502 "Agent run resume failed — see server logs")
  | some updated => .ok updated

/-- Where a request stands, with what its session has read. -/
inductive Phase where
  | checked
  | returned (result : AgentState)
  | raised
  | syncing (result : AgentState) (loaded : AgentRun)
  | failing (loaded : AgentRun)
  | synced
  | answered (answer : Except RouteError AgentRun)
deriving DecidableEq

structure Request where
  decision : Decision
  phase : Phase
deriving DecidableEq

/-- A request comes: the endpoint reads the row, and the user its token names. -/
def resumeAgentRunEndpoint (agentRun : Option AgentRun) (approve : Bool) (sub : String)
    (users : UserDb) : Request where
  decision := ⟨approve, (getUserByUsername users sub).map Prod.fst⟩
  phase :=
    match checkAgentRun agentRun with
    | .error error => .answered (.error error)
    | .ok () => .checked

/-- How a resume of the thread ends; an exception comes before or after the decision is
consumed. -/
inductive Outcome where
  | returns
  | raises (consumed : Bool)
  | disabled
deriving DecidableEq

/-- The invocation of `resume_agent_run`: what becomes of the thread and of the request. -/
def resumeAgentRun (thread : Thread) (index : Nat) (decision : Decision) :
    Outcome → Thread × Phase
  | .disabled =>
      (thread, .answered (.error (.httpException 501 "Incident-triage agent is not enabled")))
  | .returns =>
      match thread with
      | .paused state =>
          (.decided (humanReview state decision) index, .returned (humanReview state decision))
      | .decided state consumer => (.decided state consumer, .returned state)
  | .raises consumed =>
      match thread with
      | .paused state =>
          (if consumed then .decided (humanReview state decision) index else .paused state, .raised)
      | .decided state consumer => (.decided state consumer, .raised)

/-! ### Overlapping requests -/

/-- The committed row, the thread, and the requests in the order they came. -/
structure State where
  agentRun : AgentRun
  thread : Thread
  requests : List Request := []
deriving DecidableEq

inductive Label where
  | resume (approve : Bool) (sub : String) (users : UserDb)
  | invoke (index : Nat) (outcome : Outcome)
  | load (index : Nat)
  | syncAgentRun (index : Nat) (now : Int)
  | setFailed (index : Nat)
  | refresh (index : Nat)

/-- A request moves. -/
def State.move (s : State) (index : Nat) (decision : Decision) (phase : Phase) : State :=
  { s with requests := s.requests.set index ⟨decision, phase⟩ }

/-- The session of a request loads the row: that of `_sync_agent_run`, or of `_set_status`. -/
def load (agentRun : AgentRun) : Phase → Option Phase
  | .returned result => some (.syncing result agentRun)
  | .raised => some (.failing agentRun)
  | _ => none

def next (s : State) : Label → Option State
  | .resume approve sub users =>
      some { s with
        requests := s.requests ++ [resumeAgentRunEndpoint (some s.agentRun) approve sub users] }
  | .invoke index outcome =>
      match s.requests[index]? with
      | some ⟨decision, .checked⟩ =>
          let (thread, phase) := resumeAgentRun s.thread index decision outcome
          some ({ s with thread }.move index decision phase)
      | _ => none
  | .load index =>
      match s.requests[index]? with
      | some ⟨decision, phase⟩ => (load s.agentRun phase).map (s.move index decision)
      | none => none
  | .syncAgentRun index now =>
      match s.requests[index]? with
      | some ⟨decision, .syncing result loaded⟩ =>
          let changed := AgentReview.syncAgentRun loaded result false true now
          some ({ s with agentRun := commit loaded changed s.agentRun }.move index decision .synced)
      | _ => none
  | .setFailed index =>
      match s.requests[index]? with
      | some ⟨decision, .failing loaded⟩ =>
          let changed := setStatus loaded .failed
          some ({ s with agentRun := commit loaded changed s.agentRun }.move index decision
            (.answered (answer none)))
      | _ => none
  | .refresh index =>
      match s.requests[index]? with
      | some ⟨decision, .synced⟩ =>
          some (s.move index decision (.answered (answer (some s.agentRun))))
      | _ => none

/-! ### Decided once -/

def AgentRun.Decided (agentRun : AgentRun) : Prop :=
  agentRun.status = .approved ∨ agentRun.status = .rejected

instance (agentRun : AgentRun) : Decidable agentRun.Decided := by
  unfold AgentRun.Decided; infer_instance

/-- What a decision says of the run. -/
structure Verdict where
  status : AgentRunStatus
  reviewerUserId : Option Nat
  reviewedAt : Option Int
deriving DecidableEq

def AgentRun.verdict (agentRun : AgentRun) : Verdict :=
  ⟨agentRun.status, agentRun.reviewerUserId, agentRun.reviewedAt⟩

/-- The verdict of a decision that is written at a time. -/
def Decision.verdict (decision : Decision) (now : Int) : Verdict :=
  ⟨if decision.approve then .approved else .rejected, decision.reviewerUserId, some now⟩

/-- The request is answered with the row, or has no other answer left. -/
def Phase.Succeeds : Phase → Prop
  | .synced | .answered (.ok _) => True
  | _ => False

/-- The run has reached its review, and no request has come. -/
structure Reviewable (s : State) : Prop where
  status : s.agentRun.status = .awaitingReview
  paused : s.thread.consumer = none
  nobody : s.requests = []

structure DecidedOnce (history : List (State × Label)) (s : State) : Prop where
  /-- The verdict of a decided run stays. -/
  stays : ∀ entry ∈ history, entry.1.agentRun.Decided →
    s.agentRun.verdict = entry.1.agentRun.verdict
  /-- It is what the request whose decision the thread consumed has written. -/
  own : s.agentRun.Decided → ∃ index request earlier now, s.thread.consumer = some index ∧
    s.requests[index]? = some request ∧ (earlier, .syncAgentRun index now) ∈ history ∧
    s.agentRun.verdict = request.decision.verdict now
  /-- Only that request is answered with the row. -/
  others : ∀ index request, s.requests[index]? = some request → request.phase.Succeeds →
    s.thread.consumer = some index

/-- A request writes the outcome of the graph only when the thread consumed its decision, and
`failed` over a decided run only when it has loaded `failed`, so that nothing is written. -/
def Ok (_ : List (State × Label)) (s : State) : Label → Prop
  | .syncAgentRun index _ => s.thread.consumer = some index
  | .setFailed index => s.agentRun.Decided → ∀ decision loaded,
      s.requests[index]? = some ⟨decision, .failing loaded⟩ → loaded.status = .failed
  | _ => True

/-! ### What the code writes -/

variable {loaded stored : AgentRun} {now : Int}

theorem AgentRun.Decided.of_verdict {agentRun other : AgentRun}
    (same : agentRun.verdict = other.verdict) (decided : other.Decided) : agentRun.Decided := by
  have status : agentRun.status = other.status := congrArg Verdict.status same
  rwa [Decided, status]

/-- The first verdict: the columns of the review are as they were loaded, and not decided. -/
theorem verdict_commit_syncAgentRun {result : AgentState} {decision : Decision}
    (approve : result.reviewDecision = some decision.approve)
    (reviewer : result.reviewerUserId = decision.reviewerUserId) (undecided : ¬ loaded.Decided)
    (sameReviewer : loaded.reviewerUserId = stored.reviewerUserId)
    (sameTime : loaded.reviewedAt = stored.reviewedAt) :
    (commit loaded (syncAgentRun loaded result false true now) stored).verdict =
      decision.verdict now := by
  have differs : (if decision.approve then AgentRunStatus.approved else .rejected) ≠
      loaded.status := by
    intro same
    refine undecided ?_
    unfold AgentRun.Decided
    rw [← same]
    cases decision.approve <;> simp
  have status : columnUpdate loaded.status
      (if decision.approve then AgentRunStatus.approved else .rejected) stored.status = _ :=
    columnUpdate_of_ne differs stored.status
  simp only [AgentRun.verdict, commit, syncAgentRun, approve, reviewer, Option.getD_some,
    Bool.false_eq_true, if_false, if_true, sameReviewer, sameTime, columnUpdate_loaded, status,
    Decision.verdict]

theorem decided_verdict (decision : Decision) {agentRun : AgentRun}
    (same : agentRun.verdict = decision.verdict now) : agentRun.Decided := by
  have status : agentRun.status = if decision.approve then .approved else .rejected :=
    congrArg Verdict.status same
  unfold AgentRun.Decided
  rw [status]
  cases decision.approve <;> simp

/-- `_set_status` touches the status only. -/
theorem verdict_commit_setStatus (status : AgentRunStatus) :
    (commit loaded (setStatus loaded status) stored).verdict =
      { stored.verdict with status := columnUpdate loaded.status status stored.status } := by
  simp only [AgentRun.verdict, commit, setStatus, columnUpdate_self]

/-- A run that is not decided is not decided by a failure. -/
theorem not_decided_setFailed (undecided : ¬ stored.Decided) :
    ¬ (commit loaded (setStatus loaded .failed) stored).Decided := by
  unfold AgentRun.Decided at undecided ⊢
  unfold commit setStatus
  rcases columnUpdate_eq_or loaded.status AgentRunStatus.failed stored.status with same | failed
  · simpa only [same] using undecided
  · simp [failed]

/-! ### What one step keeps -/

variable {start s s' : State} {history : List (State × Label)} {label : Label}

/-- The row that a request has loaded, or the run, is not decided, and its review columns are
those of the start. -/
def Unreviewed (start agentRun : AgentRun) : Prop :=
  ¬ agentRun.Decided ∧ agentRun.reviewerUserId = start.reviewerUserId ∧
    agentRun.reviewedAt = start.reviewedAt

/-- What is known of a request, by phase. Only the consumer's own result is of use: it comes
before the verdict. -/
def PhaseSound (start s : State) (index : Nat) : Phase → Prop
  | .checked => s.thread.consumer ≠ some index
  | .returned result => (∃ consumer, s.thread = .decided result consumer) ∧
      (s.thread.consumer = some index → ¬ s.agentRun.Decided)
  | .syncing result loaded => (∃ consumer, s.thread = .decided result consumer) ∧
      (s.thread.consumer = some index →
        ¬ s.agentRun.Decided ∧ Unreviewed start.agentRun loaded)
  | .synced | .answered (.ok _) => s.thread.consumer = some index
  | .raised | .failing _ | .answered (.error _) => True

structure Sound (start : State) (history : List (State × Label)) (s : State) : Prop where
  stays : ∀ entry ∈ history, entry.1.agentRun.Decided →
    s.agentRun.verdict = entry.1.agentRun.verdict
  own : s.agentRun.Decided → ∃ index request earlier now, s.thread.consumer = some index ∧
    s.requests[index]? = some request ∧ (earlier, .syncAgentRun index now) ∈ history ∧
    s.agentRun.verdict = request.decision.verdict now
  undecided : ¬ s.agentRun.Decided → Unreviewed start.agentRun s.agentRun
  consumed : ∀ state index, s.thread = .decided state index → ∃ request,
    s.requests[index]? = some request ∧ state.reviewDecision = some request.decision.approve ∧
      state.reviewerUserId = request.decision.reviewerUserId
  requests : ∀ index request, s.requests[index]? = some request →
    PhaseSound start s index request.phase

theorem PhaseSound.consumer {index : Nat} {phase : Phase}
    (sound : PhaseSound start s index phase) (succeeds : phase.Succeeds) :
    s.thread.consumer = some index := by
  cases phase with
  | synced => exact sound
  | answered answer =>
    cases answer with
    | ok => exact sound
    | error => cases succeeds
  | _ => cases succeeds

theorem Sound.decidedOnce (sound : Sound start history s) : DecidedOnce history s where
  stays := sound.stays
  own := sound.own
  others index request found succeeds := (sound.requests index request found).consumer succeeds

theorem Reviewable.sound (reviewable : Reviewable s) : Sound s [] s where
  stays entry mem := by cases mem
  own decided := by
    rcases decided with status | status <;> rw [reviewable.status] at status <;> cases status
  undecided undecided := ⟨undecided, rfl, rfl⟩
  consumed state index decided := by
    have paused := reviewable.paused
    rw [decided] at paused
    cases paused
  requests index request found := by
    rw [reviewable.nobody] at found
    cases found

/-- A decided thread stays as it is. -/
def Thread.Keeps (thread after : Thread) : Prop :=
  ∀ state consumer, thread = .decided state consumer → after = .decided state consumer

theorem Thread.Keeps.refl (thread : Thread) : thread.Keeps thread := fun _ _ same => same

theorem Thread.Keeps.consumer {thread after : Thread} (keeps : thread.Keeps after) {index : Nat}
    (consumed : thread.consumer = some index) : after.consumer = some index := by
  cases thread with
  | paused => cases consumed
  | decided state consumer =>
    rw [keeps state consumer rfl]
    exact consumed

/-- The consumer was there before, or the thread was paused. -/
theorem Thread.Keeps.consumer_cases {thread after : Thread} (keeps : thread.Keeps after)
    {index : Nat} (consumed : after.consumer = some index) :
    thread.consumer = some index ∨
      (thread.consumer = none ∧ ∃ state, after = .decided state index) := by
  cases thread with
  | paused =>
    cases after with
    | paused => cases consumed
    | decided state consumer =>
      cases consumed
      exact .inr ⟨rfl, state, rfl⟩
  | decided state consumer =>
    rw [keeps state consumer rfl] at consumed
    exact .inl consumed

/-- A request that moves keeps its decision, and so do the others. -/
theorem State.decision_of_move {index : Nat} {decision : Decision} {before : Phase}
    (found : s.requests[index]? = some ⟨decision, before⟩) (phase : Phase) {i : Nat}
    {request : Request} (there : s.requests[i]? = some request) :
    ∃ moved : Request, (s.move index decision phase).requests[i]? = some moved ∧
      moved.decision = request.decision := by
  by_cases here : i = index
  · subst here
    rw [found] at there
    cases there
    exact ⟨⟨decision, phase⟩, getElem?_set_of_some found, rfl⟩
  · exact ⟨request, (List.getElem?_set_ne (Ne.symm here)).trans there, rfl⟩

/-- What is known of a request that does not move stays while the row is not decided anew and
its decision is not the one consumed. -/
theorem PhaseSound.of_frame {index : Nat} {phase : Phase} (sound : PhaseSound start s index phase)
    (thread : s.thread.Keeps s'.thread)
    (other : s'.thread.consumer = some index → s.thread.consumer = some index)
    (row : s'.thread.consumer = some index → ¬ s.agentRun.Decided → ¬ s'.agentRun.Decided) :
    PhaseSound start s' index phase := by
  cases phase with
  | checked => exact fun consumer => sound (other consumer)
  | returned result =>
    obtain ⟨⟨consumer, decided⟩, before⟩ := sound
    exact ⟨⟨consumer, thread _ _ decided⟩, fun here => row here (before (other here))⟩
  | syncing result loaded =>
    obtain ⟨⟨consumer, decided⟩, before⟩ := sound
    exact ⟨⟨consumer, thread _ _ decided⟩, fun here =>
      ⟨row here (before (other here)).1, (before (other here)).2⟩⟩
  | raised => trivial
  | failing => trivial
  | synced => exact thread.consumer sound
  | answered answer =>
    cases answer with
    | error => trivial
    | ok => exact thread.consumer sound

/-- The verdict of every earlier state, and that of the run now. -/
theorem Sound.stays_cons (sound : Sound start history s)
    (kept : s.agentRun.Decided → s'.agentRun.verdict = s.agentRun.verdict) :
    ∀ entry ∈ (s, label) :: history, entry.1.agentRun.Decided →
      s'.agentRun.verdict = entry.1.agentRun.verdict := by
  intro entry mem decided
  rcases List.mem_cons.mp mem with rfl | earlier
  · exact kept decided
  · have same := sound.stays entry earlier decided
    exact (kept (.of_verdict same decided)).trans same

/-- A step that moves one request. The thread may consume its decision, and the row may get its
verdict. -/
theorem Sound.move (sound : Sound start history s) {index : Nat} {decision : Decision}
    {before phase : Phase} {agentRun : AgentRun} {thread : Thread}
    (found : s.requests[index]? = some ⟨decision, before⟩)
    (kept : s.agentRun.Decided → agentRun.verdict = s.agentRun.verdict)
    (first : agentRun.Decided → ¬ s.agentRun.Decided → thread.consumer = some index ∧
      ∃ now, label = .syncAgentRun index now ∧ agentRun.verdict = decision.verdict now)
    (undecided : ¬ agentRun.Decided → Unreviewed start.agentRun agentRun)
    (keeps : s.thread.Keeps thread)
    (consumes : s.thread.consumer = none → ∀ state consumer, thread = .decided state consumer →
      consumer = index ∧ state.reviewDecision = some decision.approve ∧
        state.reviewerUserId = decision.reviewerUserId)
    (own : PhaseSound start (State.move ⟨agentRun, thread, s.requests⟩ index decision phase) index
      phase) :
    Sound start ((s, label) :: history)
      (State.move ⟨agentRun, thread, s.requests⟩ index decision phase) := by
  have after : (s.requests.set index ⟨decision, phase⟩)[index]? = some ⟨decision, phase⟩ :=
    getElem?_set_of_some found
  refine ⟨sound.stays_cons kept, ?_, undecided, ?_, ?_⟩
  · intro decided
    by_cases earlier : s.agentRun.Decided
    · obtain ⟨i, request, s₀, now, consumed, there, written, verdict⟩ := sound.own earlier
      obtain ⟨moved, there', same⟩ := State.decision_of_move found phase there
      refine ⟨i, moved, s₀, now, keeps.consumer consumed, there', List.mem_cons_of_mem _ written, ?_⟩
      rw [same]
      exact (kept earlier).trans verdict
    · obtain ⟨consumed, now, rfl, verdict⟩ := first decided earlier
      exact ⟨index, _, s, now, consumed, after, List.mem_cons_self, verdict⟩
  · intro state i decided
    cases thread₀ : s.thread with
    | paused state₀ =>
      obtain ⟨rfl, approve, reviewer⟩ := consumes (by rw [thread₀]; rfl) state i decided
      exact ⟨_, after, approve, reviewer⟩
    | decided state₀ j =>
      cases decided.symm.trans (keeps state₀ j thread₀)
      obtain ⟨request, there, approve, reviewer⟩ := sound.consumed state i thread₀
      obtain ⟨moved, there', same⟩ := State.decision_of_move found phase there
      exact ⟨moved, there', by rw [same, approve], by rw [same, reviewer]⟩
  · intro i request there
    rcases getElem?_set_cases there with ⟨rfl, rfl⟩ | ⟨other, there⟩
    · exact own
    · refine (sound.requests i request there).of_frame keeps ?_ ?_
      · intro here
        rcases keeps.consumer_cases here with earlier | ⟨paused, state, became⟩
        · exact earlier
        · exact absurd (consumes paused state i became).1 other
      · intro here undecidedBefore decided
        -- Only the first verdict decides the run, and its request is the one that moves.
        have is := (first decided undecidedBefore).1
        exact other (Option.some.inj (here.symm.trans is))

/-- A step that moves one request and nothing else. -/
theorem Sound.move_request (sound : Sound start history s) {index : Nat} {decision : Decision}
    {before phase : Phase} {thread : Thread}
    (found : s.requests[index]? = some ⟨decision, before⟩) (same : s.thread = thread)
    (own : PhaseSound start s index phase) :
    Sound start ((s, label) :: history) (State.move { s with thread } index decision phase) := by
  subst same
  refine sound.move found (fun _ => rfl) (fun decided earlier => absurd decided earlier)
    sound.undecided (.refl _) ?_ (own.of_frame (.refl _) id fun _ => id)
  intro paused state consumer decided
  rw [decided] at paused
  cases paused

/-- The paused thread consumes the decision of a request. -/
theorem Sound.consume (sound : Sound start history s) {index : Nat} {decision : Decision}
    {before phase : Phase} {state : AgentState}
    (found : s.requests[index]? = some ⟨decision, before⟩) (paused : s.thread = .paused state)
    (invoked : phase = .raised ∨ phase = .returned (humanReview state decision)) :
    Sound start ((s, label) :: history) (State.move
      { s with thread := .decided (humanReview state decision) index } index decision phase) := by
  have undecided : ¬ s.agentRun.Decided := by
    intro decided
    obtain ⟨i, -, -, -, consumed, -⟩ := sound.own decided
    rw [paused] at consumed
    cases consumed
  refine sound.move found (fun _ => rfl) (fun decided earlier => absurd decided earlier)
    sound.undecided ?_ ?_ ?_
  · intro state' consumer decided
    rw [paused] at decided
    cases decided
  · rintro - state' consumer decided
    cases decided
    exact ⟨rfl, rfl, rfl⟩
  · rcases invoked with rfl | rfl
    · trivial
    · exact ⟨⟨index, rfl⟩, fun _ => undecided⟩

theorem Sound.invoke (sound : Sound start history s) {index : Nat} {decision : Decision}
    (found : s.requests[index]? = some ⟨decision, .checked⟩) (outcome : Outcome) :
    Sound start ((s, label) :: history) (State.move
      { s with thread := (resumeAgentRun s.thread index decision outcome).1 } index decision
        (resumeAgentRun s.thread index decision outcome).2) := by
  have fresh : s.thread.consumer ≠ some index := sound.requests index _ found
  unfold resumeAgentRun
  cases outcome with
  | disabled => exact sound.move_request found rfl trivial
  | returns =>
    cases thread : s.thread with
    | paused state => exact sound.consume found thread (.inr rfl)
    | decided state consumer =>
      have own : PhaseSound start s index (.returned state) :=
        ⟨⟨consumer, thread⟩, fun consumed => absurd consumed fresh⟩
      exact sound.move_request found thread own
  | raises consumed =>
    cases thread : s.thread with
    | paused state =>
      cases consumed with
      | true => exact sound.consume found thread (.inl rfl)
      | false => exact sound.move_request found thread trivial
    | decided state consumer => exact sound.move_request found thread trivial

/-- A request comes. -/
theorem Sound.resume (sound : Sound start history s) (approve : Bool) (sub : String)
    (users : UserDb) : Sound start ((s, label) :: history) { s with
      requests := s.requests ++ [resumeAgentRunEndpoint (some s.agentRun) approve sub users] } where
  stays := sound.stays_cons fun _ => rfl
  own decided := by
    obtain ⟨i, request, s₀, now, consumed, there, written, verdict⟩ := sound.own decided
    exact ⟨i, request, s₀, now, consumed, getElem?_append_of_some there,
      List.mem_cons_of_mem _ written, verdict⟩
  undecided := sound.undecided
  consumed state i decided := by
    obtain ⟨request, there, same⟩ := sound.consumed state i decided
    exact ⟨request, getElem?_append_of_some there, same⟩
  requests i request there := by
    rcases getElem?_append_cases there with ⟨rfl, rfl⟩ | there
    · unfold resumeAgentRunEndpoint
      cases checkAgentRun (some s.agentRun) with
      | error => trivial
      | ok =>
        intro consumed
        cases thread : s.thread with
        | paused => rw [thread] at consumed; cases consumed
        | decided state consumer =>
          rw [thread] at consumed
          cases consumed
          obtain ⟨request, there, -⟩ := sound.consumed state _ thread
          exact absurd (List.getElem?_eq_some_iff.mp there).1 (Nat.lt_irrefl _)
    · exact (sound.requests i request there).of_frame (.refl _) id fun _ => id

theorem Sound.load (sound : Sound start history s) {index : Nat} {decision : Decision}
    {before phase : Phase} (found : s.requests[index]? = some ⟨decision, before⟩)
    (loads : load s.agentRun before = some phase) :
    Sound start ((s, label) :: history) (s.move index decision phase) := by
  refine sound.move_request found rfl ?_
  have own := sound.requests index _ found
  cases before with
  | returned result =>
    cases loads
    exact ⟨own.1, fun consumed => ⟨own.2 consumed, sound.undecided (own.2 consumed)⟩⟩
  | raised =>
    cases loads
    trivial
  | _ => cases loads

/-- The request whose decision the thread consumed writes the verdict, over a run that is not
decided. -/
theorem Sound.syncAgentRun (sound : Sound start history s) {index : Nat} {decision : Decision}
    {result : AgentState} {loaded : AgentRun}
    (found : s.requests[index]? = some ⟨decision, .syncing result loaded⟩)
    (consumer : s.thread.consumer = some index) (now : Int) :
    Sound start ((s, .syncAgentRun index now) :: history) (State.move { s with
      agentRun := commit loaded (AgentReview.syncAgentRun loaded result false true now) s.agentRun }
      index decision .synced) := by
  obtain ⟨⟨i, thread⟩, before⟩ := sound.requests index _ found
  obtain ⟨earlier, undecided, reviewer, time⟩ := before consumer
  obtain ⟨-, sameReviewer, sameTime⟩ := sound.undecided earlier
  have here : i = index := by
    rw [thread] at consumer
    exact Option.some.inj consumer
  subst here
  obtain ⟨request, there, approves, reviews⟩ := sound.consumed result i thread
  rw [found] at there
  cases there
  have verdict := @verdict_commit_syncAgentRun loaded s.agentRun now result decision approves reviews
    undecided (reviewer.trans sameReviewer.symm) (time.trans sameTime.symm)
  refine sound.move found (fun decided => absurd decided earlier)
    (fun _ _ => ⟨consumer, now, rfl, verdict⟩)
    (fun undecided => absurd (decided_verdict decision verdict) undecided) (.refl _) ?_ consumer
  intro paused
  rw [paused] at consumer
  cases consumer

theorem Sound.setFailed (sound : Sound start history s) {index : Nat} {decision : Decision}
    {loaded : AgentRun} (found : s.requests[index]? = some ⟨decision, .failing loaded⟩)
    (ok : s.agentRun.Decided → loaded.status = .failed) :
    Sound start ((s, label) :: history) (State.move { s with
      agentRun := commit loaded (setStatus loaded .failed) s.agentRun } index decision
      (.answered (answer none))) := by
  have kept : s.agentRun.Decided →
      (commit loaded (setStatus loaded .failed) s.agentRun).verdict = s.agentRun.verdict := by
    intro decided
    rw [verdict_commit_setStatus, ok decided, columnUpdate_self]
    rfl
  refine sound.move found kept
    (fun decided earlier => absurd decided (not_decided_setFailed earlier)) ?_ (.refl _) ?_ trivial
  · intro undecided
    have earlier : ¬ s.agentRun.Decided := fun decided =>
      undecided (.of_verdict (kept decided) decided)
    obtain ⟨-, reviewer, time⟩ := sound.undecided earlier
    refine ⟨undecided, ?_, ?_⟩
    · exact (columnUpdate_self loaded.reviewerUserId s.agentRun.reviewerUserId).trans reviewer
    · exact (columnUpdate_self loaded.reviewedAt s.agentRun.reviewedAt).trans time
  · intro paused state consumer decided
    rw [decided] at paused
    cases paused

/-- **Every step that meets the condition keeps what is known.** -/
theorem Sound.step (sound : Sound start history s) (ok : Ok history s label)
    (step : next s label = some s') : Sound start ((s, label) :: history) s' := by
  cases label with
  | resume approve sub users =>
    cases step
    exact sound.resume approve sub users
  | invoke index outcome =>
    unfold next at step
    dsimp only at step
    split at step
    · rename_i decision found
      cases step
      exact sound.invoke found outcome
    · cases step
  | load index =>
    unfold next at step
    dsimp only at step
    split at step
    · rename_i decision before found
      obtain ⟨phase, loads, rfl⟩ := Option.map_eq_some_iff.mp step
      exact sound.load found loads
    · cases step
  | syncAgentRun index now =>
    unfold next at step
    dsimp only at step
    split at step
    · rename_i decision result loaded found
      cases step
      exact sound.syncAgentRun found ok now
    · cases step
  | setFailed index =>
    unfold next at step
    dsimp only at step
    split at step
    · rename_i decision loaded found
      cases step
      exact sound.setFailed found fun decided => ok decided decision loaded found
    · cases step
  | refresh index =>
    unfold next at step
    dsimp only at step
    split at step
    · rename_i decision found
      cases step
      exact sound.move_request found rfl (sound.requests index _ found)
    · cases step

/-- A step that does not meet it breaks the verdict, or lets a second request succeed. -/
theorem ok_of_decidedOnce (step : next s label = some s')
    (once : DecidedOnce ((s, label) :: history) s') : Ok history s label := by
  cases label with
  | syncAgentRun index now =>
    unfold next at step
    dsimp only at step
    split at step
    · rename_i decision result loaded found
      cases step
      exact once.others index _ (getElem?_set_of_some found) trivial
    · cases step
  | setFailed index =>
    intro decided decision loaded found
    simp only [next, found, Option.some.injEq] at step
    subst step
    have same := once.stays _ List.mem_cons_self decided
    have stays := AgentRun.Decided.of_verdict same decided
    by_contra other
    -- The status that is written is `failed`.
    have failed : columnUpdate loaded.status AgentRunStatus.failed s.agentRun.status = .failed :=
      columnUpdate_of_ne (Ne.symm other) _
    rcases stays with status | status
    · cases failed.symm.trans status
    · cases failed.symm.trans status
  | _ => trivial

/-- **When the run is decided once**: in every run of overlapping requests, in all states, if
and only if each step meets the condition. -/
theorem decided_once_iff (reviewable : Reviewable start) (run : Run next start history s) :
    Throughout DecidedOnce history s ↔ Meets Ok history :=
  run.throughout_iff_meets_with reviewable.sound reviewable.sound.decidedOnce
    (fun sound _ ok step => sound.step ok step)
    fun _ sound _ step => ⟨ok_of_decidedOnce step, fun ok => (sound.step ok step).decidedOnce⟩

/-! ### Two reviewers -/

/-- A run that waits for its review. -/
def awaitingRun : State where
  agentRun := { status := .awaitingReview, severityAssessment := some "critical" }
  thread := .paused ⟨some "critical", none, none, none, none, none⟩

theorem reviewable_awaitingRun : Reviewable awaitingRun := ⟨rfl, rfl, rfl⟩

/-- Users 1 and 2. -/
def reviewers : UserDb where
  users := (Rows.empty.insert ⟨"alice", "alice@example.com", "hash", true, none, none⟩).insert
    ⟨"bob", "bob@example.com", "hash", true, none, none⟩
  tenants := .empty
  userTenants := .empty
  casbinRules := []
  enforcer := ⟨[], []⟩

/-- Both pass the check, and the first is approved. The second, a rejection, gets the final state
of the thread and writes the approval again; for the third the graph raises. -/
def overlappingReviews : List Label :=
  [.resume true "alice" reviewers, .resume false "bob" reviewers, .resume true "bob" reviewers,
    .invoke 0 .returns, .load 0, .syncAgentRun 0 (seconds 10), .refresh 0,
    .invoke 1 .returns, .load 1, .syncAgentRun 1 (seconds 20), .refresh 1,
    .invoke 2 (.raises false), .load 2, .setFailed 2]

/-- **The second reviewer overwrites the time of the first verdict and is answered with the run;
the third makes an approved run a failed one.** -/
theorem overwritten : Reviewable awaitingRun ∧ ∃ history s, Run next awaitingRun history s ∧
    s.agentRun.verdict = ⟨.failed, some 1, some (seconds 20)⟩ ∧
    ¬ Throughout DecidedOnce history s := by
  obtain ⟨history, run⟩ := run_of_isSome (show (finalState next awaitingRun
    overlappingReviews).isSome = true by decide)
  refine ⟨reviewable_awaitingRun, history, _, run, by decide, fun all => ?_⟩
  have second : ∃ request : Request, ((finalState next awaitingRun overlappingReviews).get
      (by decide)).requests[1]? = some request ∧ request.phase.Succeeds := ⟨_, rfl, trivial⟩
  obtain ⟨request, found, succeeds⟩ := second
  have consumer := all.here.others 1 request found succeeds
  revert consumer
  decide

/-- One reviewer fails before the other decides. -/
theorem decided_once_after_failure : ∃ history s, Run next awaitingRun history s ∧
    s.agentRun.verdict = ⟨.approved, some 1, some (seconds 10)⟩ ∧
    (Throughout DecidedOnce history s ↔ Meets Ok history) := by
  obtain ⟨history, run⟩ := run_of_isSome (show (finalState next awaitingRun
    [.resume true "alice" reviewers, .resume false "bob" reviewers, .invoke 1 (.raises false),
      .load 1, .setFailed 1, .invoke 0 .returns, .load 0, .syncAgentRun 0 (seconds 10),
      .refresh 0]).isSome = true by decide)
  exact ⟨history, _, run, by decide, decided_once_iff reviewable_awaitingRun run⟩

end ApiObservatory.AgentReview
