import ApiObservatory.Foundation.Run
import ApiObservatory.Foundation.Tasks

/-
The bulkhead (`libs/platform/bulkhead.py`): `AsyncBulkhead.run` calls on one event loop.

Every locked section runs without a suspension, so the lock of the condition is free
whenever a task runs, and a step is what one task does between two suspensions. The
condition keeps the futures of its waiters in order; `notify(1)` completes the first one
that is pending. A waiter whose future is completed or cancelled is scheduled and runs
later; until then other tasks may arrive, finish or be cancelled.
-/

namespace ApiObservatory

open Foundation

structure AsyncBulkhead where
  maxConcurrency : Nat
  maxQueue : Nat := 0
  /-- `max_concurrency must be > 0`. -/
  positive : 0 < maxConcurrency

namespace AsyncBulkhead

/-- The future that a waiter awaits, and whether its task has been cancelled. -/
inductive Wakeup where
  | parked
  | notified
  | cancelling
  | notifiedCancelling
deriving DecidableEq

inductive Phase where
  | waiting (wakeup : Wakeup)
  | running
  | rejected
  | cancelled
  | done
deriving DecidableEq

/-- The counters, the waiters of the condition in order, and the calls of `run` by
arrival. -/
structure State where
  inflight : Int := 0
  waiting : Int := 0
  waiters : List Nat := []
  callers : List Phase := []

/-- How an operation ends; `run` gives the slot back in `finally`. -/
inductive Outcome where
  | returned | raised | cancelled
deriving DecidableEq

inductive Label where
  | arrive
  | wake (caller : Nat)
  | cancel (caller : Nat)
  | unwind (caller : Nat) (spurious : Bool)
  | finish (caller : Nat) (outcome : Outcome)
deriving DecidableEq

/-- `Condition.notify(1)`. -/
def notify (state : State) : State :=
  match state.waiters.find? fun caller => state.callers[caller]? == some (.waiting .parked) with
  | none => state
  | some caller => { state with callers := state.callers.set caller (.waiting .notified) }

section Steps

variable (bulkhead : AsyncBulkhead) (state : State)

/-- `run` up to the operation, the first `wait()` or the rejection. -/
def arrive : State :=
  if state.inflight ≥ bulkhead.maxConcurrency then
    if state.waiting ≥ bulkhead.maxQueue then
      { state with callers := state.callers ++ [.rejected] }
    else
      { state with
        waiting := state.waiting + 1
        waiters := state.waiters ++ [state.callers.length]
        callers := state.callers ++ [.waiting .parked] }
  else
    { state with
      inflight := state.inflight + 1
      callers := state.callers ++ [.running] }

/-- `wait()` returns: the caller goes on, or waits again at the end of the queue. -/
def wake (caller : Nat) : State :=
  let state : State := { state with waiters := state.waiters.erase caller }
  if state.inflight ≥ bulkhead.maxConcurrency then
    { state with
      waiters := state.waiters ++ [caller]
      callers := state.callers.set caller (.waiting .parked) }
  else
    { state with
      waiting := state.waiting - 1
      inflight := state.inflight + 1
      callers := state.callers.set caller .running }

/-- The `CancelledError` leaves `wait()`, which passes a wakeup on, and `run`. -/
def unwind (caller : Nat) (pass : Bool) : State :=
  let state : State :=
    { state with
      waiters := state.waiters.erase caller
      callers := state.callers.set caller .cancelled }
  let state := if pass then notify state else state
  { state with waiting := state.waiting - 1 }

/-- The `finally` behind the operation. -/
def finish (caller : Nat) : State :=
  notify
    { state with
      inflight := state.inflight - 1
      callers := state.callers.set caller .done }

/-- One step of one task. A condition may pass on a wakeup also for a waiter that had
none (`spurious`). -/
def next : Label → Option State
  | .arrive => some (bulkhead.arrive state)
  | .wake caller =>
      match state.callers[caller]? with
      | some (.waiting .notified) => some (bulkhead.wake state caller)
      | _ => none
  | .cancel caller =>
      match state.callers[caller]? with
      | some (.waiting .parked) =>
          some { state with callers := state.callers.set caller (.waiting .cancelling) }
      | some (.waiting .notified) =>
          some { state with callers := state.callers.set caller (.waiting .notifiedCancelling) }
      | _ => none
  | .unwind caller spurious =>
      match state.callers[caller]? with
      | some (.waiting .cancelling) => some (unwind state caller spurious)
      | some (.waiting .notifiedCancelling) => some (unwind state caller true)
      | _ => none
  | .finish caller _ =>
      match state.callers[caller]? with
      | some .running => some (finish state caller)
      | _ => none

end Steps

/-! ### The invariant -/

def Phase.isWaiting : Phase → Bool
  | .waiting _ => true
  | _ => false

def Phase.isRunning : Phase → Bool
  | .running => true
  | _ => false

/-- The waiter has been notified and has not run since. -/
def Phase.isNotified : Phase → Bool
  | .waiting .notified => true
  | .waiting .notifiedCancelling => true
  | _ => false

/-- The counters count; the condition keeps the callers in the wait loop; and while one of
them is parked, every free slot but `owed` of them has a notified waiter on its way. -/
structure Invariant (bulkhead : AsyncBulkhead) (owed : Nat) (state : State) : Prop where
  running : (state.callers.countP Phase.isRunning : Int) = state.inflight
  inflight_le : state.inflight ≤ bulkhead.maxConcurrency
  waiting : (state.callers.countP Phase.isWaiting : Int) = state.waiting
  waiting_le : state.waiting ≤ bulkhead.maxQueue
  queued : ∀ caller : Nat, caller ∈ state.waiters ↔
    ∃ wakeup, state.callers[caller]? = some (.waiting wakeup)
  distinct : state.waiters.Nodup
  woken : ∀ caller : Nat, state.callers[caller]? = some (.waiting .parked) →
    (bulkhead.maxConcurrency : Int) ≤
      state.inflight + (state.callers.countP Phase.isNotified : Nat) + owed

section Invariants

attribute [local simp] Phase.isRunning Phase.isWaiting Phase.isNotified

variable {bulkhead : AsyncBulkhead} {owed : Nat} {state state' : State} {caller other : Nat}
  {before after : Phase} {wakeup wakeup' : Wakeup} {pass : Bool}

/-- What a call that moves takes from and gives to each of the three counts. -/
theorem counts_set (found : state.callers[caller]? = some before) (after : Phase) :
    (state.callers.set caller after).countP Phase.isRunning + (if before.isRunning then 1 else 0) =
        state.callers.countP Phase.isRunning + (if after.isRunning then 1 else 0) ∧
      (state.callers.set caller after).countP Phase.isWaiting + (if before.isWaiting then 1 else 0) =
        state.callers.countP Phase.isWaiting + (if after.isWaiting then 1 else 0) ∧
      (state.callers.set caller after).countP Phase.isNotified +
          (if before.isNotified then 1 else 0) =
        state.callers.countP Phase.isNotified + (if after.isNotified then 1 else 0) :=
  ⟨countP_set_add _ found after, countP_set_add _ found after, countP_set_add _ found after⟩

theorem waiting_set_waiting (found : state.callers[caller]? = some (.waiting wakeup)) :
    (∃ w, (state.callers.set caller (.waiting wakeup'))[other]? = some (.waiting w)) ↔
      ∃ w, state.callers[other]? = some (.waiting w) := by
  constructor
  · rintro ⟨w, here⟩
    rcases getElem?_set_cases here with ⟨rfl, -⟩ | ⟨-, there⟩
    · exact ⟨wakeup, found⟩
    · exact ⟨w, there⟩
  · rintro ⟨w, here⟩
    by_cases same : other = caller
    · subst same
      exact ⟨wakeup', getElem?_set_of_some found⟩
    · exact ⟨w, by rwa [List.getElem?_set_ne (Ne.symm same)]⟩

theorem waiting_set_other (after : Phase) (leaves : after.isWaiting = false) :
    (∃ w, (state.callers.set caller after)[other]? = some (.waiting w)) ↔
      other ≠ caller ∧ ∃ w, state.callers[other]? = some (.waiting w) := by
  constructor
  · rintro ⟨w, here⟩
    rcases getElem?_set_cases here with ⟨-, rfl⟩ | ⟨differs, there⟩
    · cases leaves
    · exact ⟨differs, w, there⟩
  · rintro ⟨differs, w, here⟩
    exact ⟨w, by rwa [List.getElem?_set_ne (Ne.symm differs)]⟩

/-- A newcomer that does not wait. -/
theorem waiting_append_other (new : Phase) (leaves : new.isWaiting = false) :
    (∃ w, (state.callers ++ [new])[other]? = some (.waiting w)) ↔
      ∃ w, state.callers[other]? = some (.waiting w) := by
  refine exists_congr fun wakeup => ⟨fun found => ?_, getElem?_append_of_some⟩
  refine getElem?_of_append_ne found ?_
  rintro rfl
  cases leaves

/-- A notification completes the future of a parked waiter, unless there is none. -/
theorem notify_cases (inv : Invariant bulkhead owed state) :
    (notify state = state ∧ ∀ caller : Nat, state.callers[caller]? ≠ some (.waiting .parked)) ∨
      ∃ caller : Nat, state.callers[caller]? = some (.waiting .parked) ∧
        notify state =
          { state with callers := state.callers.set caller (.waiting .notified) } := by
  unfold notify
  split
  · rename_i none
    refine Or.inl ⟨rfl, fun caller parked => ?_⟩
    have waits := (inv.queued caller).mpr ⟨_, parked⟩
    exact List.find?_eq_none.mp none caller waits (beq_iff_eq.mpr parked)
  · rename_i caller first
    have parked := List.find?_some
      (p := fun caller : Nat => state.callers[caller]? == some (Phase.waiting .parked)) first
    exact Or.inr ⟨caller, beq_iff_eq.mp parked, rfl⟩

/-- **A notification** pays one free slot. -/
theorem Invariant.notify (inv : Invariant bulkhead (owed + 1) state) :
    Invariant bulkhead owed (notify state) := by
  rcases notify_cases inv with ⟨same, none⟩ | ⟨caller, parked, same⟩
  · rw [same]
    exact { inv with woken := fun caller parked => absurd parked (none caller) }
  · rw [same]
    obtain ⟨running, waiting, notified⟩ := counts_set parked (.waiting .notified)
    simp only [Phase.isRunning, Phase.isWaiting, Phase.isNotified, if_true, if_false,
      Bool.false_eq_true] at running waiting notified
    have due := inv.woken caller parked
    refine { inv with running := ?_, waiting := ?_, queued := ?_, woken := ?_ }
    · have := inv.running
      simp only
      omega
    · have := inv.waiting
      simp only
      omega
    · exact fun other => (inv.queued other).trans (waiting_set_waiting parked).symm
    · intro _ _
      simp only
      omega

theorem Invariant.owe (inv : Invariant bulkhead owed state) :
    Invariant bulkhead (owed + 1) state :=
  { inv with
    woken := fun caller parked => by
      have := inv.woken caller parked
      omega }

theorem Invariant.start : Invariant bulkhead 0 {} where
  running := rfl
  inflight_le := Int.natCast_nonneg _
  waiting := rfl
  waiting_le := Int.natCast_nonneg _
  queued caller := by simp
  distinct := List.nodup_nil
  woken caller parked := by simp at parked

/-- The invariant is about parked callers: another caller that arrives changes it only by
the slot it takes. -/
theorem Invariant.arrive (inv : Invariant bulkhead 0 state) :
    Invariant bulkhead 0 (bulkhead.arrive state) := by
  have running := inv.running
  have waiting := inv.waiting
  have free := inv.inflight_le
  have room := inv.waiting_le
  unfold AsyncBulkhead.arrive
  split
  · rename_i full
    split
    · refine { inv with running := ?_, waiting := ?_, queued := ?_, woken := ?_ }
      · simpa using running
      · simpa using waiting
      · exact fun caller => (inv.queued caller).trans (waiting_append_other _ rfl).symm
      · intro caller parked
        have old := getElem?_of_append_ne parked nofun
        simpa using inv.woken caller old
    · rename_i queueRoom
      have fresh : state.callers.length ∉ state.waiters := by
        intro mem
        obtain ⟨wakeup, found⟩ := (inv.queued _).mp mem
        simp at found
      refine { running := ?_, inflight_le := free, waiting := ?_, waiting_le := ?_, queued := ?_,
               distinct := ?_, woken := ?_ }
      · simpa using running
      · simp only [List.countP_append, List.countP_singleton, Phase.isWaiting, if_true]
        omega
      · simp only
        omega
      · intro caller
        simp only [List.mem_append, List.mem_singleton, inv.queued caller]
        constructor
        · rintro (⟨wakeup, old⟩ | rfl)
          · exact ⟨wakeup, getElem?_append_of_some old⟩
          · exact ⟨.parked, by simp⟩
        · rintro ⟨wakeup, found⟩
          rcases getElem?_append_cases found with ⟨rfl, -⟩ | old
          · exact Or.inr rfl
          · exact Or.inl ⟨wakeup, old⟩
      · rw [List.nodup_append]
        refine ⟨inv.distinct, by simp, fun caller mem other same => ?_⟩
        rw [List.mem_singleton.mp same]
        exact fun is => fresh (is ▸ mem)
      · intro _ _
        simp only
        omega
  · rename_i slot
    refine { running := ?_, inflight_le := ?_, waiting := ?_, waiting_le := room, queued := ?_,
             distinct := inv.distinct, woken := ?_ }
    · simp only [List.countP_append, List.countP_singleton, Phase.isRunning, if_true]
      omega
    · simp only
      omega
    · simpa using waiting
    · exact fun caller => (inv.queued caller).trans (waiting_append_other _ rfl).symm
    · intro caller parked
      have := inv.woken caller (getElem?_of_append_ne parked nofun)
      simp only [List.countP_append, List.countP_singleton, Phase.isNotified,
        Bool.false_eq_true, if_false]
      omega

/-- A waiter that runs after a notification takes the slot, or finds none and parks. -/
theorem Invariant.wake (inv : Invariant bulkhead 0 state)
    (found : state.callers[caller]? = some (.waiting .notified)) :
    Invariant bulkhead 0 (bulkhead.wake state caller) := by
  have running := inv.running
  have waiting := inv.waiting
  have free := inv.inflight_le
  have room := inv.waiting_le
  unfold AsyncBulkhead.wake
  simp only
  split
  · rename_i full
    obtain ⟨runningSet, waitingSet, -⟩ := counts_set found (.waiting .parked)
    simp only [Phase.isRunning, Phase.isWaiting, Bool.false_eq_true, if_true, if_false]
      at runningSet waitingSet
    refine { running := ?_, inflight_le := free, waiting := ?_, waiting_le := room, queued := ?_,
             distinct := ?_, woken := ?_ }
    · simp only
      omega
    · simp only
      omega
    · intro other
      simp only [waiting_set_waiting found, List.mem_append, List.mem_singleton,
        inv.distinct.mem_erase_iff, ← inv.queued other]
      constructor
      · rintro (⟨-, mem⟩ | rfl)
        · exact mem
        · exact (inv.queued _).mpr ⟨_, found⟩
      · intro mem
        by_cases here : other = caller
        · exact Or.inr here
        · exact Or.inl ⟨here, mem⟩
    · rw [List.nodup_append]
      refine ⟨inv.distinct.erase _, by simp, fun other mem last same => ?_⟩
      rw [List.mem_singleton.mp same]
      exact fun is => (inv.distinct.mem_erase_iff.mp mem).1 is
    · intro _ _
      simp only
      omega
  · rename_i slot
    obtain ⟨runningSet, waitingSet, notifiedSet⟩ := counts_set found .running
    simp only [Phase.isRunning, Phase.isWaiting, Phase.isNotified, Bool.false_eq_true, if_true,
      if_false] at runningSet waitingSet notifiedSet
    refine { running := ?_, inflight_le := ?_, waiting := ?_, waiting_le := ?_, queued := ?_,
             distinct := inv.distinct.erase _, woken := ?_ }
    · simp only
      omega
    · simp only
      omega
    · simp only
      omega
    · simp only
      omega
    · intro other
      simp only [waiting_set_other .running rfl, inv.distinct.mem_erase_iff,
        inv.queued other]
    · intro other parked
      have := inv.woken other (getElem?_of_set_ne parked nofun)
      simp only
      omega

/-- A cancellation leaves a waiter in the loop until its task runs. -/
theorem Invariant.cancel (inv : Invariant bulkhead 0 state)
    (found : state.callers[caller]? = some (.waiting wakeup))
    (notified : Phase.isNotified (.waiting wakeup') = Phase.isNotified (.waiting wakeup))
    (unparked : wakeup' ≠ .parked) :
    Invariant bulkhead 0
      { state with callers := state.callers.set caller (.waiting wakeup') } := by
  obtain ⟨runningSet, waitingSet, notifiedSet⟩ := counts_set found (.waiting wakeup')
  rw [notified] at notifiedSet
  simp only [Phase.isRunning, Phase.isWaiting, Bool.false_eq_true, if_true, if_false]
    at runningSet waitingSet
  refine { inv with running := ?_, waiting := ?_, queued := ?_, woken := ?_ }
  · have := inv.running
    simp only
    omega
  · have := inv.waiting
    simp only
    omega
  · exact fun other => (inv.queued other).trans (waiting_set_waiting found).symm
  · intro other parked
    have := inv.woken other (getElem?_of_set_ne parked fun same => unparked (by cases same; rfl))
    simp only
    omega

/-- A waiter that leaves the loop owes the wakeup it had. -/
theorem Invariant.leave (inv : Invariant bulkhead 0 state)
    (found : state.callers[caller]? = some (.waiting wakeup)) :
    Invariant bulkhead (if Phase.isNotified (.waiting wakeup) then 1 else 0)
      { state with
        waiting := state.waiting - 1
        waiters := state.waiters.erase caller
        callers := state.callers.set caller .cancelled } := by
  obtain ⟨runningSet, waitingSet, notifiedSet⟩ := counts_set found .cancelled
  have notNotified : Phase.isNotified .cancelled = false := rfl
  rw [notNotified] at notifiedSet
  simp only [Phase.isRunning, Phase.isWaiting, Bool.false_eq_true, if_true, if_false]
    at runningSet waitingSet notifiedSet
  have running := inv.running
  have waiting := inv.waiting
  have room := inv.waiting_le
  refine { running := ?_, inflight_le := inv.inflight_le, waiting := ?_, waiting_le := ?_,
           queued := ?_, distinct := inv.distinct.erase _, woken := ?_ }
  · simp only
    omega
  · simp only
    omega
  · simp only
    omega
  · intro other
    simp only [waiting_set_other .cancelled rfl, inv.distinct.mem_erase_iff,
      inv.queued other]
  · intro other parked
    have := inv.woken other (getElem?_of_set_ne parked nofun)
    simp only
    omega

theorem unwind_eq (pass : Bool) :
    unwind state caller pass =
      if pass then
        AsyncBulkhead.notify
          { state with
            waiting := state.waiting - 1
            waiters := state.waiters.erase caller
            callers := state.callers.set caller .cancelled }
      else
        { state with
          waiting := state.waiting - 1
          waiters := state.waiters.erase caller
          callers := state.callers.set caller .cancelled } := by
  unfold unwind AsyncBulkhead.notify
  cases pass with
  | false => rfl
  | true =>
    simp only [if_true]
    split <;> rfl

theorem Invariant.finish (inv : Invariant bulkhead 0 state)
    (found : state.callers[caller]? = some .running) :
    Invariant bulkhead 0 (finish state caller) := by
  obtain ⟨runningSet, waitingSet, notifiedSet⟩ := counts_set found .done
  simp only [Phase.isRunning, Phase.isWaiting, Phase.isNotified, Bool.false_eq_true, if_true,
    if_false] at runningSet waitingSet notifiedSet
  have running := inv.running
  have waiting := inv.waiting
  have free := inv.inflight_le
  refine Invariant.notify ?_
  refine { running := ?_, inflight_le := ?_, waiting := ?_, waiting_le := inv.waiting_le,
           queued := ?_, distinct := inv.distinct, woken := ?_ }
  · simp only
    omega
  · simp only
    omega
  · simp only
    omega
  · intro other
    simp only [waiting_set_other .done rfl, inv.queued other]
    refine ⟨fun ⟨w, old⟩ => ⟨?_, w, old⟩, And.right⟩
    rintro rfl
    rw [found] at old
    cases old
  · intro other parked
    have := inv.woken other (getElem?_of_set_ne parked nofun)
    simp only
    omega

/-- **One step** of one task keeps the invariant. -/
theorem Invariant.step {label : Label} (inv : Invariant bulkhead 0 state)
    (step : bulkhead.next state label = some state') : Invariant bulkhead 0 state' := by
  cases label with
  | arrive =>
    obtain rfl := Option.some.inj step
    exact inv.arrive
  | wake caller =>
    simp only [next] at step
    split at step
    · rename_i found
      obtain rfl := Option.some.inj step
      exact inv.wake found
    · cases step
  | cancel caller =>
    simp only [next] at step
    split at step
    · rename_i found
      obtain rfl := Option.some.inj step
      exact inv.cancel found rfl nofun
    · rename_i found
      obtain rfl := Option.some.inj step
      exact inv.cancel found rfl nofun
    · cases step
  | unwind caller spurious =>
    simp only [next] at step
    split at step
    · rename_i found
      obtain rfl := Option.some.inj step
      rw [unwind_eq]
      have left : Invariant bulkhead 0 _ := inv.leave found
      cases spurious with
      | false => exact left
      | true => exact left.owe.notify
    · rename_i found
      obtain rfl := Option.some.inj step
      rw [unwind_eq]
      have left : Invariant bulkhead 1 _ := inv.leave found
      exact left.notify
    · cases step
  | finish caller outcome =>
    simp only [next] at step
    split at step
    · rename_i found
      obtain rfl := Option.some.inj step
      exact inv.finish found
    · cases step

theorem Invariant.of_run {history : List (State × Label)}
    (run : Run bulkhead.next {} history state) : Invariant bulkhead 0 state :=
  Run.stateInvariant (I := Invariant bulkhead 0) .start .step run

end Invariants

end AsyncBulkhead

end ApiObservatory
