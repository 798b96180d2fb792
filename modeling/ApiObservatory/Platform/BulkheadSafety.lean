import ApiObservatory.Platform.Bulkhead

/-
Safety and conservation of the bulkhead.

The invariant of `Platform/Bulkhead.lean` is about the counters and the wakeups on their
way. The history of a run tells which call took a slot, which gave one back and which was
rejected; `bulkhead_sound` puts the two together.
-/

namespace ApiObservatory.AsyncBulkhead

open Foundation

/-! ### Who takes and gives back a slot -/

/-- The call of `run` that a step belongs to. -/
def actor (state : State) : Label → Nat
  | .arrive => state.callers.length
  | .wake caller => caller
  | .cancel caller => caller
  | .unwind caller _ => caller
  | .finish caller _ => caller

/-- The phase that a step takes its call to, and what it adds to the counter. -/
inductive Moves (bulkhead : AsyncBulkhead) (state : State) : Label → Phase → Int → Prop where
  | reject (full : (bulkhead.maxConcurrency : Int) ≤ state.inflight)
      (queueFull : (bulkhead.maxQueue : Int) ≤ state.waiting) : Moves bulkhead state .arrive .rejected 0
  | park (queueFree : state.waiting < bulkhead.maxQueue) :
      Moves bulkhead state .arrive (.waiting .parked) 0
  | enter (free : state.inflight < bulkhead.maxConcurrency) :
      Moves bulkhead state .arrive .running 1
  | stay {label : Label} {wakeup : Wakeup} (wakeup' : Wakeup) (old : label ≠ .arrive)
      (found : state.callers[actor state label]? = some (.waiting wakeup)) :
      Moves bulkhead state label (.waiting wakeup') 0
  | resume {caller : Nat} {wakeup : Wakeup}
      (found : state.callers[caller]? = some (.waiting wakeup)) :
      Moves bulkhead state (.wake caller) .running 1
  | giveUp {caller : Nat} {wakeup : Wakeup} (spurious : Bool)
      (found : state.callers[caller]? = some (.waiting wakeup)) :
      Moves bulkhead state (.unwind caller spurious) .cancelled 0
  | finish {caller : Nat} (outcome : Outcome)
      (found : state.callers[caller]? = some .running) :
      Moves bulkhead state (.finish caller outcome) .done (-1)

/-- The calls outside the wait loop are in the phases they were in, but for one. -/
structure Settles (state state' : State) (caller : Nat) (phase : Phase) : Prop where
  length : state.callers.length ≤ state'.callers.length
  bound : caller < state'.callers.length
  settled : ∀ (other : Nat) (settled : Phase), settled.isWaiting = false →
    (state'.callers[other]? = some settled ↔
      if other = caller then settled = phase else state.callers[other]? = some settled)

section Moves

variable {bulkhead : AsyncBulkhead} {state state' : State} {label : Label} {caller : Nat}
  {before phase : Phase}

theorem settles_append (same : state'.callers = state.callers ++ [phase]) :
    Settles state state' state.callers.length phase := by
  refine ⟨by simp [same], by simp [same], fun other settled _ => ?_⟩
  rw [same]
  by_cases here : other = state.callers.length
  · subst here
    simp [eq_comm]
  · rw [if_neg here]
    refine ⟨fun found => ?_, getElem?_append_of_some⟩
    rcases getElem?_append_cases found with ⟨new, -⟩ | old
    · exact absurd new here
    · exact old

theorem settles_set (same : state'.callers = state.callers.set caller phase)
    (found : state.callers[caller]? = some before) : Settles state state' caller phase := by
  obtain ⟨bound, -⟩ := List.getElem?_eq_some_iff.mp found
  refine ⟨by simp [same], by simpa [same] using bound, fun other settled _ => ?_⟩
  rw [same]
  by_cases here : other = caller
  · subst here
    simp [getElem?_set_of_some found, eq_comm]
  · rw [if_neg here, List.getElem?_set_ne (Ne.symm here)]

/-- A notification moves a waiter within the wait loop. -/
theorem Settles.notify (settles : Settles state state' caller phase) :
    Settles state (notify state') caller phase := by
  unfold AsyncBulkhead.notify
  split
  · exact settles
  · rename_i first found
    have parked := beq_iff_eq.mp (List.find?_some
      (p := fun caller : Nat => state'.callers[caller]? == some (Phase.waiting .parked)) found)
    refine ⟨by simpa using settles.length, by simpa using settles.bound,
      fun other settled loose => ?_⟩
    rw [← settles.settled other settled loose]
    constructor
    · intro here
      rcases getElem?_set_cases here with ⟨-, rfl⟩ | ⟨-, old⟩
      · cases loose
      · exact old
    · intro here
      have differs : first ≠ other := by
        rintro rfl
        rw [here] at parked
        cases Option.some.inj parked
        cases loose
      simpa [List.getElem?_set_ne differs] using here

@[simp] theorem notify_inflight : (notify state).inflight = state.inflight := by
  unfold notify
  split <;> rfl

theorem next_moves (step : bulkhead.next state label = some state') :
    ∃ phase change, Moves bulkhead state label phase change ∧
      state'.inflight = state.inflight + change ∧
      Settles state state' (actor state label) phase := by
  cases label with
  | arrive =>
    obtain rfl := Option.some.inj step
    unfold arrive
    split
    · rename_i full
      split
      · rename_i queueFull
        exact ⟨_, _, .reject full queueFull, (Int.add_zero _).symm, settles_append rfl⟩
      · rename_i queueFree
        exact ⟨_, _, .park (by omega), (Int.add_zero _).symm, settles_append rfl⟩
    · rename_i free
      exact ⟨_, _, .enter (by omega), rfl, settles_append rfl⟩
  | wake caller =>
    simp only [next] at step
    split at step
    · rename_i found
      obtain rfl := Option.some.inj step
      unfold wake
      simp only
      split
      · exact ⟨_, _, .stay .parked (by simp) found, (Int.add_zero _).symm, settles_set rfl found⟩
      · exact ⟨_, _, .resume found, rfl, settles_set rfl found⟩
    · cases step
  | cancel caller =>
    simp only [next] at step
    split at step
    · rename_i found
      obtain rfl := Option.some.inj step
      exact ⟨_, _, .stay .cancelling (by simp) found, (Int.add_zero _).symm, settles_set rfl found⟩
    · rename_i found
      obtain rfl := Option.some.inj step
      exact ⟨_, _, .stay .notifiedCancelling (by simp) found, (Int.add_zero _).symm,
        settles_set rfl found⟩
    · cases step
  | unwind caller spurious =>
    simp only [next] at step
    have gone : ∀ {wakeup pass}, state.callers[caller]? = some (.waiting wakeup) →
        (unwind state caller pass).inflight = state.inflight + 0 ∧
          Settles state (unwind state caller pass) caller .cancelled := by
      intro wakeup pass found
      rw [unwind_eq]
      split
      · exact ⟨by simp, (settles_set rfl found).notify⟩
      · exact ⟨by simp, settles_set rfl found⟩
    split at step
    · rename_i found
      obtain rfl := Option.some.inj step
      exact ⟨_, _, .giveUp spurious found, gone found⟩
    · rename_i found
      obtain rfl := Option.some.inj step
      exact ⟨_, _, .giveUp spurious found, gone found⟩
    · cases step
  | finish caller outcome =>
    simp only [next] at step
    split at step
    · rename_i found
      obtain rfl := Option.some.inj step
      refine ⟨_, _, .finish outcome found, ?_, (settles_set rfl found).notify⟩
      simp [finish, Int.sub_eq_add_neg]
    · cases step

end Moves

/-- A step of the call that adds one to the counter. -/
def takesSlot (bulkhead : AsyncBulkhead) (caller : Nat) (entry : State × Label) : Bool :=
  actor entry.1 entry.2 == caller &&
    (bulkhead.next entry.1 entry.2).any fun after => after.inflight == entry.1.inflight + 1

/-- A step of the call that takes one from the counter. -/
def givesSlot (bulkhead : AsyncBulkhead) (caller : Nat) (entry : State × Label) : Bool :=
  actor entry.1 entry.2 == caller &&
    (bulkhead.next entry.1 entry.2).any fun after => after.inflight == entry.1.inflight - 1

/-- Both bounds are reached. -/
def Full (bulkhead : AsyncBulkhead) (state : State) : Prop :=
  (bulkhead.maxConcurrency : Int) ≤ state.inflight ∧ (bulkhead.maxQueue : Int) ≤ state.waiting

/-- The history of a run explains the phases of its calls. -/
structure Accounted (bulkhead : AsyncBulkhead) (history : List (State × Label)) (state : State) :
    Prop where
  taken : ∀ caller : Nat, history.countP (takesSlot bulkhead caller) =
    if state.callers[caller]? = some .running ∨ state.callers[caller]? = some .done then 1 else 0
  given : ∀ caller : Nat, history.countP (givesSlot bulkhead caller) =
    if state.callers[caller]? = some .done then 1 else 0
  rejected : ∀ before, (before, Label.arrive) ∈ history →
    before.callers.length < state.callers.length ∧
      (state.callers[before.callers.length]? = some .rejected ↔ Full bulkhead before)

section Account

variable {bulkhead : AsyncBulkhead} {state state' : State} {label : Label}
  {history : List (State × Label)}

/-- The slot that a call takes or gives back is the one its phases say. -/
theorem Moves.taken {phase : Phase} {change : Int} (moves : Moves bulkhead state label phase change) :
    (if state.callers[actor state label]? = some .running ∨
        state.callers[actor state label]? = some .done then 1 else 0) +
        (if change = 1 then 1 else 0) =
      if .running = phase ∨ .done = phase then 1 else 0 := by
  cases moves with
  | reject => simp [actor]
  | park => simp [actor]
  | enter => simp [actor]
  | stay wakeup' old found => simp [found]
  | resume found => simp [actor, found]
  | giveUp spurious found => simp [actor, found]
  | finish outcome found => simp [actor, found]

theorem Moves.given {phase : Phase} {change : Int} (moves : Moves bulkhead state label phase change) :
    (if state.callers[actor state label]? = some .done then 1 else 0) +
        (if change = -1 then 1 else 0) =
      if .done = phase then 1 else 0 := by
  cases moves with
  | reject => simp [actor]
  | park => simp [actor]
  | enter => simp [actor]
  | stay wakeup' old found => simp [found]
  | resume found => simp [actor, found]
  | giveUp spurious found => simp [actor, found]
  | finish outcome found => simp [actor, found]

theorem Accounted.start : Accounted bulkhead [] {} where
  taken caller := by simp
  given caller := by simp
  rejected := nofun

theorem Accounted.step (accounted : Accounted bulkhead history state)
    (step : bulkhead.next state label = some state') :
    Accounted bulkhead ((state, label) :: history) state' := by
  obtain ⟨phase, change, moves, inflight, length, bound, settled⟩ := next_moves step
  have takes : ∀ caller, takesSlot bulkhead caller (state, label) = true ↔
      caller = actor state label ∧ change = 1 := by
    intro caller
    simp only [takesSlot, step, inflight, Option.any_some, Bool.and_eq_true, beq_iff_eq]
    omega
  have gives : ∀ caller, givesSlot bulkhead caller (state, label) = true ↔
      caller = actor state label ∧ change = -1 := by
    intro caller
    simp only [givesSlot, step, inflight, Option.any_some, Bool.and_eq_true, beq_iff_eq]
    omega
  refine ⟨fun caller => ?_, fun caller => ?_, ?_⟩
  · simp only [List.countP_cons, accounted.taken caller, takes caller, settled caller .running rfl,
      settled caller .done rfl]
    by_cases here : caller = actor state label
    · subst here
      simpa using moves.taken
    · simp only [here, if_false, false_and, Nat.add_zero]
  · simp only [List.countP_cons, accounted.given caller, gives caller, settled caller .done rfl]
    by_cases here : caller = actor state label
    · subst here
      simpa using moves.given
    · simp only [here, if_false, false_and, Nat.add_zero]
  · intro before mem
    rw [settled _ .rejected rfl]
    rcases List.mem_cons.mp mem with same | earlier
    · cases same
      refine ⟨bound, ?_⟩
      cases moves with
      | reject full queueFull =>
        simp only [actor, if_true, true_iff]
        exact ⟨full, queueFull⟩
      | park queueFree =>
        simp only [actor, if_true, reduceCtorEq, false_iff]
        exact fun full => absurd full.2 (by omega)
      | enter free =>
        simp only [actor, if_true, reduceCtorEq, false_iff]
        exact fun full => absurd full.1 (by omega)
      | stay wakeup' old => exact absurd rfl old
    · obtain ⟨old, iff⟩ := accounted.rejected before earlier
      refine ⟨Nat.lt_of_lt_of_le old length, ?_⟩
      rw [← iff]
      by_cases here : before.callers.length = actor state label
      · rw [if_pos here, here]
        cases moves with
        | reject => exact absurd here (Nat.ne_of_lt old)
        | park => exact absurd here (Nat.ne_of_lt old)
        | enter => exact absurd here (Nat.ne_of_lt old)
        | stay wakeup' old found => simp [found]
        | resume found => simp [actor, found]
        | giveUp spurious found => simp [actor, found]
        | finish outcome found => simp [actor, found]
      · rw [if_neg here]

theorem Accounted.of_run (run : Run bulkhead.next {} history state) :
    Accounted bulkhead history state :=
  Run.invariant (I := Accounted bulkhead) .start (fun _ accounted step => accounted.step step) run

end Account

/-! ### Safety and conservation -/

/-- No waiter of the condition is scheduled to run. -/
def Quiet (state : State) : Prop :=
  ∀ (caller : Nat) wakeup, state.callers[caller]? = some (.waiting wakeup) → wakeup = .parked

/-- What holds after every history. -/
structure Sound (bulkhead : AsyncBulkhead) (history : List (State × Label)) (state : State) :
    Prop where
  running : state.inflight = state.callers.countP Phase.isRunning
  inflight_le : state.inflight ≤ bulkhead.maxConcurrency
  waiting : state.waiting = state.callers.countP Phase.isWaiting
  waiting_le : state.waiting ≤ bulkhead.maxQueue
  rejected : ∀ before, (before, Label.arrive) ∈ history →
    (state.callers[before.callers.length]? = some .rejected ↔ Full bulkhead before)
  taken : ∀ caller : Nat, history.countP (takesSlot bulkhead caller) =
    if state.callers[caller]? = some .running ∨ state.callers[caller]? = some .done then 1 else 0
  given : ∀ caller : Nat, history.countP (givesSlot bulkhead caller) =
    if state.callers[caller]? = some .done then 1 else 0
  woken : Quiet state → state.inflight < bulkhead.maxConcurrency → state.waiting = 0

/-- **A free slot is not slept on**: a quiet condition with a free slot has no waiter. -/
theorem Invariant.woken_of_quiet {bulkhead : AsyncBulkhead} {state : State}
    (inv : Invariant bulkhead 0 state) (quiet : Quiet state)
    (free : state.inflight < bulkhead.maxConcurrency) : state.waiting = 0 := by
  have none_notified : state.callers.countP Phase.isNotified = 0 := by
    rw [List.countP_eq_zero]
    intro phase mem notified
    obtain ⟨caller, found⟩ := List.mem_iff_getElem?.mp mem
    cases phase with
    | waiting wakeup =>
      obtain rfl := quiet caller wakeup found
      cases notified
    | running | rejected | cancelled | done => cases notified
  have none_waiting : state.callers.countP Phase.isWaiting = 0 := by
    rw [List.countP_eq_zero]
    intro phase mem waits
    obtain ⟨caller, found⟩ := List.mem_iff_getElem?.mp mem
    cases phase with
    | waiting wakeup =>
      obtain rfl := quiet caller wakeup found
      have := inv.woken caller found
      omega
    | running | rejected | cancelled | done => cases waits
  rw [← inv.waiting, none_waiting]
  rfl

/-- **Bulkhead safety and conservation** in every interleaving of calls. -/
theorem bulkhead_sound {bulkhead : AsyncBulkhead} {history : List (State × Label)} {state : State}
    (run : Run bulkhead.next {} history state) : Sound bulkhead history state where
  running := (Invariant.of_run run).running.symm
  inflight_le := (Invariant.of_run run).inflight_le
  waiting := (Invariant.of_run run).waiting.symm
  waiting_le := (Invariant.of_run run).waiting_le
  rejected before mem := ((Accounted.of_run run).rejected before mem).2
  taken := (Accounted.of_run run).taken
  given := (Accounted.of_run run).given
  woken := (Invariant.of_run run).woken_of_quiet

/-- One slot and room for two waiters. -/
def narrow : AsyncBulkhead := { maxConcurrency := 1, maxQueue := 2, positive := by decide }

/-- The first waiter is cancelled after it was notified; the second one gets the slot. -/
theorem bulkhead_sound_passed :
    ∃ history state, Run narrow.next {} history state ∧ Sound narrow history state :=
  have run : Run narrow.next {} _ _ := execute_run .init
    (rfl : execute narrow.next [] {} [.arrive, .arrive, .arrive, .arrive, .finish 0 .raised,
      .cancel 1, .unwind 1 false, .wake 2] = some (_, _))
  ⟨_, _, run, bulkhead_sound run⟩

end ApiObservatory.AsyncBulkhead
