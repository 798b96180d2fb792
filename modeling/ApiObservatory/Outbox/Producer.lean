import ApiObservatory.Foundation.AsyncLock
import ApiObservatory.Foundation.Run
import ApiObservatory.Foundation.Tasks
import ApiObservatory.Platform.Breakers
import ApiObservatory.Time

/-
The Kafka producer (`services/ingestor/events.py`): calls that publish, connect and disconnect on one
event loop.

A step is what one task does between two suspensions. The lock of the breaker is taken twice in a
call, at the gate and at its end, and the producer is looked at twice, before the gate and behind it.
That nothing comes between the two looks is a fact about the lock: no section suspends while it holds
it, so it is free whenever a task runs (`Calm`).
-/

namespace ApiObservatory.Producer

open Foundation

abbrev Bytes := List UInt8

/-- The exceptions that the callers tell apart. -/
inductive Failure where
  | kafkaError
  | circuitOpenError
  | other
deriving DecidableEq

/-- How a call ends; `none` is a return. -/
abbrev Outcome := Option (Raised Failure)

/-- What is handed to `send_and_wait` of a producer. -/
structure Send where
  producer : Nat
  topic : String
  value : Bytes
deriving DecidableEq

inductive Call where
  | publishEventBytes (topic : String) (value : Bytes)
  /-- With the encoded event, or what `json.dumps` raises. -/
  | publishObservationCreated (event : Except Failure Bytes)
  | publishDocScraped (event : Bytes)
  /-- With what the constructor of the producer raises, if it does. -/
  | connectProducer (refused : Option Failure)
  | disconnectProducer
deriving DecidableEq

/-- Where a call is suspended, or how it ended. -/
inductive Phase where
  | atGate (call : Call) (topic : String) (value : Bytes)
  | sending (call : Call) (send : Send)
  | atEnd (call : Call) (outcome : Outcome)
  | inPubsub (call : Call)
  | starting (call : Call)
  | stopping (call : Call)
  | ended (call : Call) (outcome : Outcome)
deriving DecidableEq

/-- The module: `_producer`, the number of producers made so far, and the breaker of
`_send_to_kafka` with its lock. -/
structure Module where
  producer : Option Nat := none
  created : Nat := 0
  breaker : DecoratorBreaker := { failureThreshold := 5, recoveryTimeout := seconds 30 }
  lock : AsyncLock := {}

def topicObservationCreated : String := "observations.events"

def topicScraped : String := "scraped.events"

/-! ### What a task does between two suspensions -/

/-- What follows `_send_to_kafka` in its caller: two of them swallow some exceptions, and one goes on
to the cache. -/
def afterSend (call : Call) (outcome : Outcome) : Phase :=
  let swallowed := outcome = none ∨ outcome = some (.exception .kafkaError) ∨
    outcome = some (.exception .circuitOpenError)
  match call with
  | .publishObservationCreated _ => if swallowed then .inPubsub call else .ended call outcome
  | .publishDocScraped _ => .ended call (if swallowed then none else outcome)
  | _ => .ended call outcome

namespace Module

variable (module : Module) (task : Nat) (call : Call) (now : Int)

/-- The end of `_CircuitBreaker.call`. A `CancelledError` passes it by. -/
def leave (outcome : Outcome) : Module × Phase :=
  if outcome = some .exit then (module, afterSend call outcome)
  else if module.lock.Free then
    ({ module with
        breaker := module.breaker.leave outcome now
        lock := module.lock.take.release }, afterSend call outcome)
  else ({ module with lock := module.lock.wait task }, .atEnd call outcome)

/-- `_send_to_kafka` up to `send_and_wait`. -/
def sendToKafka (topic : String) (value : Bytes) : Module × Phase :=
  match module.producer with
  | none => module.leave task call now none
  | some producer => (module, .sending call ⟨producer, topic, value⟩)

/-- The section at the gate of `_CircuitBreaker.call`, with the lock held, and what follows it. -/
def gate (topic : String) (value : Bytes) : Module × Phase :=
  let released := { module with lock := module.lock.release }
  match module.breaker.enter now with
  | none => (released, afterSend call (some (.exception .circuitOpenError)))
  | some breaker => { released with breaker }.sendToKafka task call now topic value

/-- `_CircuitBreaker.call`. -/
def callBreaker (topic : String) (value : Bytes) : Module × Phase :=
  if module.lock.Free then
    { module with lock := module.lock.take }.gate task call now topic value
  else ({ module with lock := module.lock.wait task }, .atGate call topic value)

/-- A call up to its first suspension. -/
def start : Module × Phase :=
  match call with
  | .publishEventBytes topic value =>
      match module.producer with
      | none => (module, .ended call (some (.exception .other)))
      | some _ => module.callBreaker task call now topic value
  | .publishObservationCreated event =>
      match module.producer, event with
      | none, _ => (module, .ended call none)
      | some _, .error failure => (module, afterSend call (some (.exception failure)))
      | some _, .ok value => module.callBreaker task call now topicObservationCreated value
  | .publishDocScraped event =>
      match module.producer with
      | none => (module, .ended call none)
      | some _ => module.callBreaker task call now topicScraped event
  | .connectProducer refused =>
      match refused with
      | some failure => (module, .ended call (some (.exception failure)))
      | none =>
          ({ module with producer := some module.created, created := module.created + 1 },
            .starting call)
  | .disconnectProducer =>
      match module.producer with
      | none => (module, .ended call none)
      | some _ => (module, .stopping call)

/-- What a call awaits ends with this outcome. -/
def resume (outcome : Outcome) : Phase → Option (Module × Phase)
  | .sending call _ => some (module.leave task call now outcome)
  | .inPubsub call => some (module, .ended call outcome)
  | .starting call => some (module, .ended call outcome)
  | .stopping call =>
      match outcome with
      | none => some ({ module with producer := none }, .ended call none)
      | some raised => some (module, .ended call (some raised))
  | .atGate .. | .atEnd .. | .ended .. => none

/-- A call that waits for the lock gets it. -/
def acquire : Phase → Option (Module × Phase)
  | .atGate call topic value => (module.lock.grant task).map fun lock =>
      { module with lock }.gate task call now topic value
  | .atEnd call outcome => (module.lock.grant task).map fun lock =>
      ({ module with breaker := module.breaker.leave outcome now, lock := lock.release },
        afterSend call outcome)
  | _ => none

/-- A call that waits for the lock is cancelled. -/
def cancel : Phase → Option (Module × Phase)
  | .atGate call _ _ | .atEnd call _ =>
      some ({ module with lock := module.lock.cancel task }, afterSend call (some .exit))
  | _ => none

end Module

/-! ### Steps -/

structure State where
  module : Module := {}
  tasks : List Phase := []

inductive Label where
  | start (call : Call) (now : Int)
  | resume (task : Nat) (outcome : Outcome) (now : Int)
  | acquire (task : Nat) (now : Int)
  | cancel (task : Nat)

/-- Replace a task by what it has come to. -/
def State.put (state : State) (task : Nat) (result : Module × Phase) : State :=
  { module := result.1, tasks := state.tasks.set task result.2 }

def next (state : State) : Label → Option State
  | .start call now =>
      let result := state.module.start state.tasks.length call now
      some { module := result.1, tasks := state.tasks ++ [result.2] }
  | .resume task outcome now =>
      (state.tasks[task]?.bind (state.module.resume task now outcome)).map (state.put task)
  | .acquire task now =>
      (state.tasks[task]?.bind (state.module.acquire task now)).map (state.put task)
  | .cancel task =>
      (state.tasks[task]?.bind (state.module.cancel task)).map (state.put task)

/-! ### What is asked of a call -/

/-- `send_and_wait` of a producer has returned normally to the task, for this topic and value. -/
def Acknowledged (history : List (State × Label)) (task : Nat) (topic : String) (value : Bytes) :
    Prop :=
  ∃ before now producer, (before, .resume task none now) ∈ history ∧
    before.tasks[task]? = some (.sending (.publishEventBytes topic value) ⟨producer, topic, value⟩)

/-- The breaker is OPEN, and its recovery timeout has not passed. -/
def Shut (breaker : DecoratorBreaker) (now : Int) : Prop :=
  breaker.state = .opened ∧ now - breaker.lastFailureTime.getD 0 < breaker.recoveryTimeout

/-- The task has raised, and has not come to `send_and_wait`. -/
def Raises (state : State) (task : Nat) (call : Call) : Prop :=
  ∃ raised, state.tasks[task]? = some (.ended call (some raised))

structure Truthful (history : List (State × Label)) (state : State) : Prop where
  acknowledged : ∀ task topic value,
    state.tasks[task]? = some (.ended (.publishEventBytes topic value) none) →
      Acknowledged history task topic value
  refused : ∀ later before topic value now earlier,
    history = later ++ (before, .start (.publishEventBytes topic value) now) :: earlier →
      Shut before.module.breaker now →
      Raises state before.tasks.length (.publishEventBytes topic value) ∧
        ∀ entry ∈ later, Raises entry.1 before.tasks.length (.publishEventBytes topic value)

/-! ### One task between two suspensions -/

def Phase.waits : Phase → Bool
  | .atGate .. | .atEnd .. => true
  | _ => false

def Phase.call : Phase → Call
  | .atGate call _ _ | .sending call _ | .atEnd call _ | .inPubsub call | .starting call
  | .stopping call | .ended call _ => call

/-- `publish_event_bytes` awaits `send_and_wait` only, for its own topic and value. -/
def Phase.fits : Phase → Prop
  | .sending (.publishEventBytes topic value) send => send.topic = topic ∧ send.value = value
  | .inPubsub (.publishEventBytes ..) | .starting (.publishEventBytes ..)
  | .stopping (.publishEventBytes ..) => False
  | _ => True

/-- A task leaves the lock free and does not wait for it. -/
structure Settled (call : Call) (result : Module × Phase) : Prop where
  free : result.1.lock.Free
  idle : result.2.waits = false
  same : result.2.call = call
  fits : result.2.fits

theorem afterSend_idle (call : Call) (outcome : Outcome) :
    (afterSend call outcome).waits = false ∧ (afterSend call outcome).call = call ∧
      (afterSend call outcome).fits := by
  cases call with
  | publishObservationCreated =>
    simp only [afterSend]
    split <;> exact ⟨rfl, rfl, trivial⟩
  | publishEventBytes | publishDocScraped | connectProducer | disconnectProducer =>
    exact ⟨rfl, rfl, trivial⟩

section Sections

variable {module : Module} {task : Nat} {call : Call} {now : Int} {outcome : Outcome}
  {topic : String} {value : Bytes}

theorem settled_afterSend (free : module.lock.Free) (call : Call) (outcome : Outcome) :
    Settled call (module, afterSend call outcome) :=
  ⟨free, (afterSend_idle call outcome).1, (afterSend_idle call outcome).2.1,
    (afterSend_idle call outcome).2.2⟩

variable (task call now outcome) in
/-- Nobody waits at the end of a call. -/
theorem leave_settled (free : module.lock.Free) :
    Settled call (module.leave task call now outcome) ∧
      (module.leave task call now outcome).2 = afterSend call outcome := by
  unfold Module.leave
  by_cases cancelled : outcome = some .exit
  · rw [if_pos cancelled]
    exact ⟨settled_afterSend free call outcome, rfl⟩
  · rw [if_neg cancelled, if_pos free]
    exact ⟨settled_afterSend free.release_take call outcome, rfl⟩

/-- The producer that was there before the gate is there behind it. -/
theorem gate_settled (free : module.lock.release.Free)
    (own : ∀ topic' value', call = .publishEventBytes topic' value' → topic = topic' ∧ value = value') :
    Settled call (module.gate task call now topic value) := by
  unfold Module.gate
  split
  · exact settled_afterSend free _ _
  · unfold Module.sendToKafka
    dsimp only
    split
    · exact (leave_settled _ _ _ _ free).1
    · refine ⟨free, rfl, rfl, ?_⟩
      cases call with
      | publishEventBytes topic' value' => exact own topic' value' rfl
      | publishObservationCreated | publishDocScraped | connectProducer | disconnectProducer => trivial

theorem callBreaker_settled (free : module.lock.Free)
    (own : ∀ topic' value', call = .publishEventBytes topic' value' → topic = topic' ∧ value = value') :
    Settled call (module.callBreaker task call now topic value) := by
  unfold Module.callBreaker
  rw [if_pos free]
  exact gate_settled free.release_take own

variable (task call now) in
theorem start_settled (free : module.lock.Free) : Settled call (module.start task call now) := by
  have done : ∀ outcome, Settled call (module, .ended call outcome) := fun _ =>
    ⟨free, rfl, rfl, trivial⟩
  unfold Module.start
  cases call with
  | publishEventBytes topic value =>
    simp only
    split
    · exact done _
    · exact callBreaker_settled free fun _ _ same => by cases same; exact ⟨rfl, rfl⟩
  | publishObservationCreated event =>
    simp only
    split
    · exact done _
    · exact settled_afterSend free _ _
    · exact callBreaker_settled free nofun
  | publishDocScraped event =>
    simp only
    split
    · exact done _
    · exact callBreaker_settled free nofun
  | connectProducer refused =>
    simp only
    split
    · exact done _
    · exact ⟨free, rfl, rfl, trivial⟩
  | disconnectProducer =>
    simp only
    split
    · exact done _
    · exact ⟨free, rfl, rfl, trivial⟩

theorem resume_settled {phase : Phase} {result : Module × Phase} (free : module.lock.Free)
    (resumed : module.resume task now outcome phase = some result) : Settled phase.call result := by
  unfold Module.resume at resumed
  split at resumed
  · cases resumed
    exact (leave_settled _ _ _ _ free).1
  · cases resumed
    exact ⟨free, rfl, rfl, trivial⟩
  · cases resumed
    exact ⟨free, rfl, rfl, trivial⟩
  · split at resumed
    · cases resumed
      exact ⟨free, rfl, rfl, trivial⟩
    · cases resumed
      exact ⟨free, rfl, rfl, trivial⟩
  · cases resumed
  · cases resumed
  · cases resumed

theorem enter_of_shut {breaker : DecoratorBreaker} (shut : Shut breaker now) :
    breaker.enter now = none := by
  have early : ¬ now - breaker.lastFailureTime.getD 0 ≥ breaker.recoveryTimeout := by
    have := shut.2
    omega
  simp [DecoratorBreaker.enter, DecoratorBreaker.maybeTransitionToHalfOpen, shut.1, early]

variable (task now topic value) in
/-- **The first suspension of `publish_event_bytes`** is `send_and_wait`; otherwise it raises, as it does
while the breaker is shut. -/
theorem start_publishEventBytes (free : module.lock.Free) :
    (∃ raised, (module.start task (.publishEventBytes topic value) now).2 =
        .ended (.publishEventBytes topic value) (some raised)) ∨
      ¬ Shut module.breaker now ∧ ∃ producer,
        (module.start task (.publishEventBytes topic value) now).2 =
          .sending (.publishEventBytes topic value) ⟨producer, topic, value⟩ := by
  simp only [Module.start]
  cases connected : module.producer with
  | none => exact .inl ⟨_, rfl⟩
  | some producer =>
    simp only [Module.callBreaker, if_pos free, Module.gate]
    cases enters : module.breaker.enter now with
    | none => exact .inl ⟨_, rfl⟩
    | some breaker =>
      -- Nothing has suspended since the first look at the producer.
      refine .inr ⟨fun shut => ?_, producer, ?_⟩
      · rw [enter_of_shut shut] at enters
        cases enters
      · simp [Module.sendToKafka, connected]

/-- `publish_event_bytes` returns when `send_and_wait` has returned. -/
theorem resume_publishEventBytes {phase : Phase} {after : Module} (free : module.lock.Free)
    (fits : phase.fits) (resumed : module.resume task now outcome phase =
      some (after, .ended (.publishEventBytes topic value) none)) :
    outcome = none ∧ ∃ producer,
      phase = .sending (.publishEventBytes topic value) ⟨producer, topic, value⟩ := by
  have same := (resume_settled free resumed).same
  cases phase with
  | sending call send =>
    obtain rfl : Call.publishEventBytes topic value = call := same
    simp only [Module.resume, Option.some.injEq] at resumed
    have ends := (leave_settled task (.publishEventBytes topic value) now outcome free).2
    rw [resumed] at ends
    obtain ⟨producer, topic', value'⟩ := send
    obtain ⟨rfl, rfl⟩ : topic' = topic ∧ value' = value := fits
    simp only [afterSend, Phase.ended.injEq, true_and] at ends
    exact ⟨ends.symm, producer, rfl⟩
  | inPubsub call | starting call | stopping call =>
    obtain rfl : Call.publishEventBytes topic value = call := same
    exact fits.elim
  | atGate | atEnd | ended => cases resumed

end Sections

/-! ### Every run -/

/-- Between two steps the lock is free, and no call waits for it. -/
structure Calm (state : State) : Prop where
  free : state.module.lock.Free
  phases : ∀ phase ∈ state.tasks, phase.waits = false ∧ phase.fits

/-- What a step does when nobody waits for the lock. -/
inductive Step (state : State) : Label → State → Prop where
  | start (call : Call) (now : Int) :
      Step state (.start call now)
        { module := (state.module.start state.tasks.length call now).1
          tasks := state.tasks ++ [(state.module.start state.tasks.length call now).2] }
  | resume {task : Nat} {outcome : Outcome} {now : Int} {phase : Phase} {result : Module × Phase} :
      state.tasks[task]? = some phase → state.module.resume task now outcome phase = some result →
      Step state (.resume task outcome now) (state.put task result)

theorem next_step {state after : State} {label : Label} (calm : Calm state)
    (step : next state label = some after) : Step state label after := by
  have idle : ∀ {task} {phase : Phase}, state.tasks[task]? = some phase → phase.waits = false :=
    fun found => (calm.phases _ (List.mem_of_getElem? found)).1
  cases label with
  | start call now =>
    obtain rfl := Option.some.inj step
    exact .start call now
  | resume task outcome now =>
    obtain ⟨result, resumed, rfl⟩ := Option.map_eq_some_iff.mp step
    obtain ⟨phase, found, resumed⟩ := Option.bind_eq_some_iff.mp resumed
    exact .resume found resumed
  | acquire task now =>
    obtain ⟨result, acquired, -⟩ := Option.map_eq_some_iff.mp step
    obtain ⟨phase, found, acquired⟩ := Option.bind_eq_some_iff.mp acquired
    have waits := idle found
    cases phase with
    | atGate | atEnd => cases waits
    | sending | inPubsub | starting | stopping | ended => cases acquired
  | cancel task =>
    obtain ⟨result, cancelled, -⟩ := Option.map_eq_some_iff.mp step
    obtain ⟨phase, found, cancelled⟩ := Option.bind_eq_some_iff.mp cancelled
    have waits := idle found
    cases phase with
    | atGate | atEnd => cases waits
    | sending | inPubsub | starting | stopping | ended => cases cancelled

theorem Step.calm {state after : State} {label : Label} (calm : Calm state)
    (step : Step state label after) : Calm after := by
  cases step with
  | start call now =>
    have settled := start_settled state.tasks.length call now calm.free
    refine ⟨settled.free, fun phase isIn => ?_⟩
    rcases List.mem_append.mp isIn with old | new
    · exact calm.phases phase old
    · obtain rfl := List.mem_singleton.mp new
      exact ⟨settled.idle, settled.fits⟩
  | resume found resumed =>
    have settled := resume_settled calm.free resumed
    exact ⟨settled.free, forall_mem_set calm.phases ⟨settled.idle, settled.fits⟩⟩

theorem Step.raises {state after : State} {label : Label} {task : Nat} {call : Call}
    (step : Step state label after) (raises : Raises state task call) : Raises after task call := by
  obtain ⟨raised, found⟩ := raises
  refine ⟨raised, ?_⟩
  cases step with
  | start => exact getElem?_append_of_some found
  | @resume other outcome now phase result found' resumed =>
    have differs : other ≠ task := by
      rintro rfl
      obtain rfl := Option.some.inj (found.symm.trans found')
      cases resumed
    exact (List.getElem?_set_ne differs).trans found

theorem Step.acknowledged {state after : State} {label : Label} {history : List (State × Label)}
    (calm : Calm state) (step : Step state label after)
    (before : ∀ task topic value,
      state.tasks[task]? = some (.ended (.publishEventBytes topic value) none) →
        Acknowledged history task topic value) {task : Nat} {topic : String} {value : Bytes}
    (ended : after.tasks[task]? = some (.ended (.publishEventBytes topic value) none)) :
    Acknowledged ((state, label) :: history) task topic value := by
  have old : ∀ {topic value}, state.tasks[task]? = some (.ended (.publishEventBytes topic value) none) →
      Acknowledged ((state, label) :: history) task topic value := by
    intro topic value found
    obtain ⟨earlier, now, producer, isIn, sending⟩ := before task topic value found
    exact ⟨earlier, now, producer, List.mem_cons_of_mem _ isIn, sending⟩
  cases step with
  | start call now =>
    rcases getElem?_append_cases ended with ⟨-, new⟩ | found
    · have same := (start_settled state.tasks.length call now calm.free).same
      rw [← new] at same
      obtain rfl : Call.publishEventBytes topic value = call := same
      rcases start_publishEventBytes state.tasks.length now topic value calm.free with
        ⟨raised, is⟩ | ⟨-, producer, is⟩ <;> cases new.trans is
    · exact old found
  | @resume other outcome now phase result found resumed =>
    rcases getElem?_set_cases ended with ⟨rfl, new⟩ | ⟨-, found⟩
    · obtain ⟨module, _⟩ := result
      obtain rfl := new
      obtain ⟨rfl, producer, rfl⟩ := resume_publishEventBytes calm.free
        (calm.phases _ (List.mem_of_getElem? found)).2 resumed
      exact ⟨state, now, producer, List.mem_cons_self, found⟩
    · exact old found

/-- A call that comes to a breaker that is shut has raised in its first step. -/
theorem Step.refused {state after : State} {topic : String} {value : Bytes} {now : Int}
    (calm : Calm state) (step : Step state (.start (.publishEventBytes topic value) now) after)
    (shut : Shut state.module.breaker now) :
    Raises after state.tasks.length (.publishEventBytes topic value) := by
  cases step with
  | start =>
    rcases start_publishEventBytes state.tasks.length now topic value calm.free with
      ⟨raised, is⟩ | ⟨notShut, -⟩
    · exact ⟨raised, by simp [is]⟩
    · exact absurd shut notShut

theorem Step.truthful {state after : State} {label : Label} {history : List (State × Label)}
    (calm : Calm state) (step : Step state label after) (truthful : Truthful history state) :
    Truthful ((state, label) :: history) after := by
  refine ⟨fun task topic value => step.acknowledged calm truthful.acknowledged, ?_⟩
  intro later before topic value now earlier same shut
  cases later with
  | nil =>
    cases same
    exact ⟨step.refused calm shut, by simp⟩
  | cons entry later =>
    obtain ⟨rfl, rest⟩ := List.cons.inj same
    obtain ⟨raises, always⟩ := truthful.refused later before topic value now earlier rest shut
    exact ⟨step.raises raises, List.forall_mem_cons.mpr ⟨raises, always⟩⟩

/-- **The publisher acknowledges truthfully**, whatever other calls do in between. -/
theorem producer_truthful {history : List (State × Label)} {state : State}
    (run : Run next {} history state) : Truthful history state := by
  have both : Calm state ∧ Truthful history state := by
    refine Run.invariant (I := fun history state => Calm state ∧ Truthful history state) ?_ ?_ run
    · exact ⟨⟨AsyncLock.free_new, by simp⟩, by simp, by simp⟩
    · rintro history state label after - ⟨calm, truthful⟩ step
      have step := next_step calm step
      exact ⟨step.calm calm, step.truthful calm truthful⟩
  exact both.2

/-- A value is sent while the producer is disconnected, and the broker takes it. -/
theorem producer_truthful_sent : ∃ history state,
    Run next {} history state ∧ Truthful history state ∧
      state.tasks[1]? = some (.ended (.publishEventBytes "t" [1]) none) ∧
      state.module.producer = none := by
  have run : Run next {} _ _ := execute_run .init (rfl : execute next [] {}
    [.start (.connectProducer none) 0, .resume 0 none 1, .start (.publishEventBytes "t" [1]) 2,
      .start .disconnectProducer 3, .resume 2 none 4, .resume 1 none 5] = some (_, _))
  exact ⟨_, _, run, producer_truthful run, rfl, rfl⟩

end ApiObservatory.Producer
