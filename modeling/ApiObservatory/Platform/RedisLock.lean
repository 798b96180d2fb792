import ApiObservatory.Foundation.Run
import ApiObservatory.Foundation.Tasks
import ApiObservatory.Time

/-
The lock in Redis (`redis_lock` of `services/ingestor/cache.py`), for one name and any
number of processes.

The key holds no owner, so the DEL of a process that is late removes the key of whoever has
the lock by then. The lock excludes exactly as long as this does not happen
(`excludes_iff_unheld`).
-/

namespace ApiObservatory.RedisLock

open Foundation

/-- Where a caller of `redis_lock` stands. -/
inductive Caller where
  /-- The SET is under way. -/
  | setting (ttlSeconds : Int)
  /-- In the block, with the lock; `expires` is the end of the key that it has set. -/
  | inside (expires : Int)
  /-- In the block, without the lock. -/
  | outside
  /-- Behind the block; the DEL is under way. -/
  | releasing
  | done
  /-- The SET was refused by Redis. -/
  | failed
deriving DecidableEq

structure State where
  now : Int
  /-- When the key expires, if it has been set. -/
  key : Option Int := none
  callers : List Caller := []

inductive Label where
  | arrive (ttlSeconds : Int)
  /-- The SET takes effect. -/
  | set (caller : Nat)
  /-- The block is left, by a return or an exception. -/
  | leave (caller : Nat)
  /-- The DEL takes effect. -/
  | delete (caller : Nat)
  | tick (now : Int)
deriving DecidableEq

section Steps

variable (state : State)

/-- The key exists; Redis drops it when its time has run out. -/
def locked : Bool := state.key.any fun expires => decide (state.now < expires)

/-- `SET key 1 NX EX ttl`; an expiry that is not positive is an error. -/
def set (caller : Nat) (ttlSeconds : Int) : State :=
  if ttlSeconds ≤ 0 then { state with callers := state.callers.set caller .failed }
  else if locked state then { state with callers := state.callers.set caller .outside }
  else
    let expires := state.now + seconds ttlSeconds
    { state with key := some expires, callers := state.callers.set caller (.inside expires) }

def next : Label → Option State
  | .arrive ttlSeconds => some { state with callers := state.callers ++ [.setting ttlSeconds] }
  | .set caller =>
      match state.callers[caller]? with
      | some (.setting ttlSeconds) => some (set state caller ttlSeconds)
      | _ => none
  | .leave caller =>
      match state.callers[caller]? with
      | some (.inside _) => some { state with callers := state.callers.set caller .releasing }
      | some .outside => some { state with callers := state.callers.set caller .done }
      | _ => none
  | .delete caller =>
      match state.callers[caller]? with
      | some .releasing =>
          some { state with key := none, callers := state.callers.set caller .done }
      | _ => none
  | .tick now => if state.now ≤ now then some { state with now } else none

/-- A process holds the lock from its SET until it leaves the block or its time has run out. -/
def Holds (caller : Nat) : Prop :=
  ∃ expires : Int, state.callers[caller]? = some (.inside expires) ∧ state.now < expires

/-- Two processes do not hold the lock, and one that asks now does not get it beside another. -/
structure Excludes : Prop where
  exclusive : ∀ first second, Holds state first → Holds state second → first = second
  closed : ∀ caller, Holds state caller → locked state = true

/-- No process holds the lock when a DEL takes effect. -/
def Unheld : Label → Prop
  | .delete _ => ∀ caller, ¬ Holds state caller
  | _ => True

end Steps

variable {state after : State} {label : Label} {history : List (State × Label)} {clock : Int}
  {caller other : Nat} {expires : Int}

/-- What a step does to the callers, the key and the clock. -/
inductive Moves (state : State) : Label → State → Prop where
  | arrive (ttlSeconds : Int) :
      Moves state (.arrive ttlSeconds)
        { state with callers := state.callers ++ [.setting ttlSeconds] }
  | acquire {caller : Nat} {ttlSeconds : Int} (positive : 0 < ttlSeconds)
      (found : state.callers[caller]? = some (.setting ttlSeconds)) (free : locked state = false) :
      Moves state (.set caller)
        { state with
          key := some (state.now + seconds ttlSeconds)
          callers := state.callers.set caller (.inside (state.now + seconds ttlSeconds)) }
  | move {caller : Nat} {before phase : Caller} (label : Label) (keeps : ∀ caller, label ≠ .delete caller)
      (found : state.callers[caller]? = some before) (out : ∀ expires, phase ≠ .inside expires) :
      Moves state label { state with callers := state.callers.set caller phase }
  | delete {caller : Nat} (found : state.callers[caller]? = some .releasing) :
      Moves state (.delete caller) { state with key := none, callers := state.callers.set caller .done }
  | tick {now : Int} (later : state.now ≤ now) : Moves state (.tick now) { state with now }

theorem next_moves (step : next state label = some after) : Moves state label after := by
  cases label with
  | arrive ttlSeconds =>
    cases step
    exact .arrive ttlSeconds
  | set caller =>
    simp only [next] at step
    split at step
    · rename_i ttlSeconds found
      cases step
      unfold set
      split
      · exact .move _ nofun found nofun
      · rename_i positive
        split
        · exact .move _ nofun found nofun
        · rename_i free
          exact .acquire (Int.not_le.mp positive) found (Bool.not_eq_true _ ▸ free)
    · cases step
  | leave caller =>
    simp only [next] at step
    split at step
    · rename_i expires found
      cases step
      exact .move _ nofun found nofun
    · rename_i found
      cases step
      exact .move _ nofun found nofun
    · cases step
  | delete caller =>
    simp only [next] at step
    split at step
    · rename_i found
      cases step
      exact .delete found
    · cases step
  | tick now =>
    simp only [next] at step
    split at step
    · rename_i later
      cases step
      exact .tick later
    · cases step

/-- The key is the holder's. -/
def Keyed (state : State) : Prop :=
  ∀ (caller : Nat) (expires : Int), state.callers[caller]? = some (.inside expires) →
    state.now < expires → state.key = some expires

/-- Who holds the lock after a step that lets nobody in held it before. -/
theorem holds_of_set {phase : Caller} (out : ∀ expires, phase ≠ .inside expires)
    (holds : Holds { state with callers := state.callers.set caller phase } other) :
    Holds state other := by
  obtain ⟨expires, there, live⟩ := holds
  exact ⟨expires, getElem?_of_set_ne there (out expires).symm, live⟩

theorem holds_of_append (ttlSeconds : Int)
    (holds : Holds { state with callers := state.callers ++ [.setting ttlSeconds] } other) :
    Holds state other := by
  obtain ⟨expires, there, live⟩ := holds
  exact ⟨expires, getElem?_of_append_ne there nofun, live⟩

/-- Fewer holders and the same key. -/
theorem Excludes.of_holds (excludes : Excludes state) (key : locked after = locked state)
    (holds : ∀ caller, Holds after caller → Holds state caller) : Excludes after where
  exclusive first second h h' := excludes.exclusive first second (holds first h) (holds second h')
  closed caller h := key.trans (excludes.closed caller (holds caller h))

theorem not_locked_of_deleted (state : State) (callers : List Caller) :
    locked { state with key := none, callers } = false := rfl

/-- As long as the lock excludes, the key is the holder's. -/
theorem Keyed.step (keyed : Keyed state) (excludes : Excludes state) (unheld : Unheld state label)
    (moves : Moves state label after) : Keyed after := by
  intro caller expires found live
  cases moves with
  | arrive ttlSeconds => exact keyed caller expires (getElem?_of_append_ne found nofun) live
  | acquire positive setting free =>
    rcases getElem?_set_cases found with ⟨-, same⟩ | ⟨-, old⟩
    · cases same
      rfl
    · have taken := excludes.closed caller ⟨expires, old, live⟩
      rw [free] at taken
      cases taken
  | move label keeps moved out =>
    exact keyed caller expires (getElem?_of_set_ne found (out expires).symm) live
  | delete releasing =>
    exact absurd ⟨expires, getElem?_of_set_ne found nofun, live⟩ (unheld caller)
  | tick later => exact keyed caller expires found (Int.lt_of_le_of_lt later live)

/-- A step keeps the lock exclusive exactly when no DEL meets a holder. -/
theorem excludes_step (excludes : Excludes state) (keyed : Keyed state)
    (moves : Moves state label after) : Excludes after ↔ Unheld state label := by
  cases moves with
  | arrive ttlSeconds =>
    exact iff_of_true (excludes.of_holds rfl fun _ => holds_of_append ttlSeconds) trivial
  | @acquire caller ttlSeconds positive setting free =>
    have nobody : ∀ other, ¬ Holds state other := by
      intro other holds
      have taken := excludes.closed other holds
      rw [free] at taken
      cases taken
    have only : ∀ other, Holds { state with
        key := some (state.now + seconds ttlSeconds)
        callers := state.callers.set caller (.inside (state.now + seconds ttlSeconds)) } other →
        other = caller := by
      rintro other ⟨expires, found, live⟩
      rcases getElem?_set_cases found with ⟨here, -⟩ | ⟨-, old⟩
      · exact here
      · exact absurd ⟨expires, old, live⟩ (nobody other)
    refine iff_of_true ⟨fun first second h h' => (only first h).trans (only second h').symm,
      fun _ _ => ?_⟩ trivial
    simp only [locked, Option.any_some, decide_eq_true_eq, seconds]
    omega
  | move label keeps found out =>
    refine iff_of_true (excludes.of_holds rfl fun _ => holds_of_set out) ?_
    cases label with
    | delete caller => exact absurd rfl (keeps caller)
    | arrive | set | leave | tick => trivial
  | @delete caller releasing =>
    constructor
    · intro excludes other holds
      obtain ⟨expires, found, live⟩ := holds
      have differs : caller ≠ other := by
        rintro rfl
        rw [releasing] at found
        cases found
      have still := (List.getElem?_set_ne (a := .done) differs).trans found
      have taken : locked _ = true := excludes.closed other ⟨expires, still, live⟩
      rw [not_locked_of_deleted] at taken
      cases taken
    · intro unheld
      have nobody : ∀ other, ¬ Holds { state with
          key := none, callers := state.callers.set caller .done } other := by
        rintro other ⟨expires, found, live⟩
        exact unheld other ⟨expires, getElem?_of_set_ne found nofun, live⟩
      exact ⟨fun first _ h => absurd h (nobody first), fun other h => absurd h (nobody other)⟩
  | @tick now later =>
    have before : ∀ other, Holds { state with now } other → Holds state other := by
      rintro other ⟨expires, found, live⟩
      exact ⟨expires, found, Int.lt_of_le_of_lt later live⟩
    refine iff_of_true ⟨fun first second h h' =>
      excludes.exclusive first second (before first h) (before second h'), ?_⟩ trivial
    rintro other ⟨expires, found, live⟩
    have key := keyed other expires found (Int.lt_of_le_of_lt later live)
    simpa [locked, key] using live

/-- **The lock excludes** throughout a run, exactly when no process holds it at any DEL. -/
theorem excludes_iff_unheld (run : Run next { now := clock } history state) :
    Throughout (fun _ => Excludes) history state ↔ Meets (fun _ => Unheld) history := by
  have nobody : ∀ caller, ¬ Holds { now := clock } caller := by
    rintro caller ⟨expires, found, -⟩
    simp at found
  have keyed : Keyed { now := clock } := by
    intro caller expires found
    simp at found
  have excludes : Excludes { now := clock } :=
    ⟨fun first _ h => absurd h (nobody first), fun caller h => absurd h (nobody caller)⟩
  exact run.throughout_iff_meets_with (I := fun _ => Keyed) keyed excludes
    (fun keyed excludes unheld step => keyed.step excludes unheld (next_moves step))
    fun _ keyed excludes step => excludes_step excludes keyed (next_moves step)

/-! ### A process that is late -/

/-- The first process leaves the block after its time has run out. Its DEL removes the key of the
second one, and the third one gets the lock beside the second. -/
theorem two_holders : ∃ history state, Run next { now := 0 } history state ∧
    Holds state 1 ∧ Holds state 2 ∧ ¬ Excludes state := by
  obtain ⟨history, run⟩ := run_of_isSome (show (finalState next { now := 0 }
    [.arrive 10, .set 0, .tick (seconds 11), .arrive 10, .set 1, .leave 0, .delete 0, .arrive 10,
      .set 2]).isSome = true by decide)
  refine ⟨history, _, run, ⟨seconds 21, by decide, by decide⟩, ⟨seconds 21, by decide, by decide⟩,
    fun excludes => ?_⟩
  have same := excludes.exclusive 1 2 ⟨seconds 21, by decide, by decide⟩
    ⟨seconds 21, by decide, by decide⟩
  exact absurd same (by decide)

/-- The first process leaves in time, and the second one gets the lock after it. -/
theorem excludes_in_turn : ∃ history state, Run next { now := 0 } history state ∧
    (Throughout (fun _ => Excludes) history state ↔ Meets (fun _ => Unheld) history) := by
  obtain ⟨history, run⟩ := run_of_isSome (show (finalState next { now := 0 }
    [.arrive 10, .set 0, .tick (seconds 5), .leave 0, .delete 0, .arrive 10, .set 1]).isSome = true
    by decide)
  exact ⟨history, _, run, excludes_iff_unheld run⟩

end ApiObservatory.RedisLock
