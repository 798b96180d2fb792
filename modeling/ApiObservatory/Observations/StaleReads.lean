import ApiObservatory.Observations.Interleaving

/-
No stale answer after an invalidation.

A GET that misses both layers reads the table and stores what it read, whatever has been
changed and invalidated in the meantime. As long as no GET stores an old copy in a layer that
the writer of the change has cleared already, a GET that comes after the invalidation has
returned is answered with the change or a later one (`never_stale_of_inTime`).
-/

namespace ApiObservatory.ObservationCalls

open Foundation

section Condition

variable {Response : Type}

/-- The change of a writer that has dropped the copy of the LRU cache. -/
def Task.droppedLru : Task Response → Nat
  | .del change | .returning change | .returned change => change
  | _ => 0

/-- The change of a writer whose DEL is done. -/
def Task.droppedRedis : Task Response → Nat
  | .returning change | .returned change => change
  | _ => 0

/-- Nothing old is stored in a layer, or left in Redis by a DEL that fails, after a writer has
cleared it. -/
def InTime (state : State Response) : Label → Prop
  | .step task _ answers =>
      match state.tasks[task]? with
      | some (.hit _ copy) => ∀ other ∈ state.tasks, other.droppedLru ≤ copy.version
      | some (.setex _ copy) =>
          answers = true → ∀ other ∈ state.tasks, other.droppedRedis ≤ copy.version
      | some (.del change) =>
          answers = false → ∀ copy, state.redis = some copy → change ≤ copy.version
      | _ => True
  | _ => True

instance (state : State Response) : (label : Label) → Decidable (InTime state label)
  | .step task _ answers =>
      show Decidable (match state.tasks[task]? with
        | some (.hit _ copy) => ∀ other ∈ state.tasks, other.droppedLru ≤ copy.version
        | some (.setex _ copy) =>
            answers = true → ∀ other ∈ state.tasks, other.droppedRedis ≤ copy.version
        | some (.del change) =>
            answers = false → ∀ copy, state.redis = some copy → change ≤ copy.version
        | _ => True) from
      match state.tasks[task]? with
      | some (.hit ..) | some (.setex ..) => inferInstance
      | some (.del change) =>
          inferInstanceAs (Decidable (answers = false → ∀ copy ∈ state.redis, change ≤ copy.version))
      | some (.lookup _) | some (.select _) | some (.answered ..) | some (.load _)
      | some (.commit ..) | some (.refresh _) | some (.invalidate _) | some (.returning _)
      | some (.returned _) | some .refused | none => isTrue trivial
  | .get | .write _ | .expire | .evict => isTrue trivial

/-- An answer is what the table gave after some change, and this change is no older than those
whose invalidation had returned when the GET came. -/
def NeverStale (state : State Response) : Prop :=
  ∀ since answer version, .answered since answer version ∈ state.tasks →
    since ≤ version ∧ state.readings[version]? = some answer

end Condition

/-! ### The invariant -/

section Invariant

variable {Response : Type} (validate : Observation → Response) (state : State Response)

/-- The response of a copy is what the table gave at its version. -/
def State.Holds (copy : Copy Response) : Prop :=
  state.readings[copy.version]? = some (some copy.response)

def State.Sound : Task Response → Prop
  | .lookup since | .select since => since ≤ state.settled
  | .hit since copy | .setex since copy => since ≤ copy.version ∧ state.Holds copy
  | .answered since answer version =>
      since ≤ version ∧ state.readings[version]? = some answer
  | .refresh change | .invalidate change | .del change | .returning change | .returned change =>
      change ≤ state.version
  | .load _ | .commit .. | .refused => True

structure Invariant : Prop where
  current : state.readings[state.version]? = some (read validate state.row)
  lru : ∀ copy, state.lru = some copy →
    state.Holds copy ∧ ∀ task ∈ state.tasks, task.droppedLru ≤ copy.version
  redis : ∀ copy, state.redis = some copy →
    state.Holds copy ∧ ∀ task ∈ state.tasks, task.droppedRedis ≤ copy.version
  settled : state.settled = 0 ∨ .returned state.settled ∈ state.tasks
  tasks : ∀ task ∈ state.tasks, state.Sound task

/-- What a step of a task leaves: more readings perhaps, and layers that are as they were,
empty, or filled in time. -/
structure Moves (before : Task Response) (state' : State Response) (after : Task Response) :
    Prop where
  tasks : state'.tasks = state.tasks
  readings : state.readings <+: state'.readings
  current : state'.readings[state'.version]? = some (read validate state'.row)
  lru : ∀ copy, state'.lru = some copy → state.Holds copy ∧
    (∀ task ∈ state.tasks, task.droppedLru ≤ copy.version) ∧ after.droppedLru ≤ copy.version
  redis : ∀ copy, state'.redis = some copy → state.Holds copy ∧
    (∀ task ∈ state.tasks, task.droppedRedis ≤ copy.version) ∧ after.droppedRedis ≤ copy.version
  settled : state.settled ≤ state'.settled
  returned : state'.settled = state.settled ∨ after = .returned state'.settled
  active : ∀ change, before ≠ .returned change
  sound : state'.Sound after

variable {validate state} {state' : State Response} {before after : Task Response}
  {task : Nat} {now : Int} {answers : Bool} {label : Label} {row : Option Observation}
  {copy : Copy Response} {history : List (State Response × Label)}

theorem reading_of_longer {readings more : List (Option Response)} {version : Nat}
    {reading : Option Response} (longer : readings <+: more)
    (found : readings[version]? = some reading) : more[version]? = some reading := by
  obtain ⟨new, rfl⟩ := longer
  obtain ⟨bound, -⟩ := List.getElem?_eq_some_iff.mp found
  rwa [List.getElem?_append_left bound]

/-- A task stays sound while the readings and the settled changes grow. -/
theorem State.Sound.mono {other : Task Response} (sound : state.Sound other)
    (readings : state.readings <+: state'.readings) (settled : state.settled ≤ state'.settled) :
    state'.Sound other := by
  have version : state.version ≤ state'.version := Nat.sub_le_sub_right readings.length_le 1
  cases other with
  | lookup since => exact Nat.le_trans sound settled
  | select since => exact Nat.le_trans sound settled
  | hit since copy => exact ⟨sound.1, reading_of_longer readings sound.2⟩
  | setex since copy => exact ⟨sound.1, reading_of_longer readings sound.2⟩
  | answered since answer version => exact ⟨sound.1, reading_of_longer readings sound.2⟩
  | refresh change => exact Nat.le_trans sound version
  | invalidate change => exact Nat.le_trans sound version
  | del change => exact Nat.le_trans sound version
  | returning change => exact Nat.le_trans sound version
  | returned change => exact Nat.le_trans sound version
  | load | commit | refused => trivial

theorem Invariant.move (invariant : Invariant validate state)
    (found : state.tasks[task]? = some before) (moves : Moves validate state before state' after) :
    Invariant validate { state' with tasks := state.tasks.set task after } where
  current := moves.current
  lru copy held := by
    obtain ⟨holds, others, own⟩ := moves.lru copy held
    exact ⟨reading_of_longer moves.readings holds, forall_mem_set others own⟩
  redis copy held := by
    obtain ⟨holds, others, own⟩ := moves.redis copy held
    exact ⟨reading_of_longer moves.readings holds, forall_mem_set others own⟩
  settled := by
    obtain ⟨bound, -⟩ := List.getElem?_eq_some_iff.mp found
    rcases moves.returned with same | rfl
    · rcases invariant.settled with zero | mem
      · exact .inl (same.trans zero)
      · exact .inr (same ▸ mem_set_of_ne found mem (moves.active state.settled).symm)
    · exact .inr (List.mem_set bound _)
  tasks := forall_mem_set
    (fun other mem => (invariant.tasks other mem).mono moves.readings moves.settled) moves.sound

/-! ### The steps -/

/-- A layer that a step leaves alone. -/
theorem kept_of_le {layer : Option (Copy Response)} {dropped : Task Response → Nat}
    (sound : ∀ copy, layer = some copy →
      state.Holds copy ∧ ∀ task ∈ state.tasks, dropped task ≤ copy.version)
    (mem : before ∈ state.tasks) (less : dropped after ≤ dropped before) (copy : Copy Response)
    (held : layer = some copy) :
    state.Holds copy ∧ (∀ task ∈ state.tasks, dropped task ≤ copy.version) ∧
      dropped after ≤ copy.version :=
  have ⟨holds, others⟩ := sound copy held
  ⟨holds, others, Nat.le_trans less (others before mem)⟩

/-- A step that changes the task only. -/
theorem Invariant.moves_task (invariant : Invariant validate state) (mem : before ∈ state.tasks)
    (lru : after.droppedLru ≤ before.droppedLru) (redis : after.droppedRedis ≤ before.droppedRedis)
    (active : ∀ change, before ≠ .returned change) (sound : state.Sound after) :
    Moves validate state before state after where
  tasks := rfl
  readings := List.prefix_refl _
  current := invariant.current
  lru := kept_of_le invariant.lru mem lru
  redis := kept_of_le invariant.redis mem redis
  settled := Nat.le_refl _
  returned := .inl rfl
  active := active
  sound := sound

/-- The last reading is the newest one. -/
theorem current_change (state : State Response) (row : Option Observation) :
    (state.change validate row).readings[(state.change validate row).version]? =
      some (read validate row) := by
  simp [State.change, State.version]

/-- A committed change. -/
theorem Invariant.moves_change (invariant : Invariant validate state) (mem : before ∈ state.tasks)
    (lru : after.droppedLru = 0) (redis : after.droppedRedis = 0)
    (active : ∀ change, before ≠ .returned change)
    (sound : (state.change validate row).Sound after) :
    Moves validate state before (state.change validate row) after where
  tasks := rfl
  readings := List.prefix_append _ _
  current := current_change state row
  lru := kept_of_le invariant.lru mem (lru ▸ Nat.zero_le _)
  redis := kept_of_le invariant.redis mem (redis ▸ Nat.zero_le _)
  settled := Nat.le_refl _
  returned := .inl rfl
  active := active
  sound := sound

/-- A copy that no writer has dropped is no older than the settled changes. -/
theorem Invariant.settled_le_copy (invariant : Invariant validate state)
    {dropped : Task Response → Nat} (returned : ∀ change, dropped (.returned change) = change)
    (others : ∀ task ∈ state.tasks, dropped task ≤ copy.version) :
    state.settled ≤ copy.version := by
  rcases invariant.settled with zero | mem
  · rw [zero]
    exact Nat.zero_le _
  · exact returned state.settled ▸ others _ mem

theorem Invariant.settled_le_version (invariant : Invariant validate state) :
    state.settled ≤ state.version := by
  rcases invariant.settled with zero | mem
  · rw [zero]
    exact Nat.zero_le _
  · exact invariant.tasks _ mem

section Reads

-- The equations of `advance` are made here, once for the section.
attribute [local simp] advance

variable {since : Nat}

/-- A copy of Redis is no older than the settled changes. -/
theorem Invariant.moves_lookup (invariant : Invariant validate state)
    (mem : .lookup since ∈ state.tasks)
    (step : advance validate state now answers (.lookup since) = some (state', after)) :
    Moves validate state (.lookup since) state' after := by
  have sound := invariant.tasks _ mem
  simp only [advance] at step
  split at step
  · rename_i copy reply
    cases step
    have held : state.redis = some copy := by
      split at reply
      · exact reply
      · cases reply
    obtain ⟨holds, others⟩ := invariant.redis copy held
    exact invariant.moves_task mem (Nat.le_refl _) (Nat.le_refl _) nofun
      ⟨Nat.le_trans sound (invariant.settled_le_copy (fun _ => rfl) others), holds⟩
  · cases step
    exact invariant.moves_task mem (Nat.le_refl _) (Nat.le_refl _) nofun sound

/-- What a hit puts into the LRU cache has to be in time. -/
theorem Invariant.moves_hit (invariant : Invariant validate state)
    (mem : .hit since copy ∈ state.tasks)
    (inTime : ∀ other ∈ state.tasks, other.droppedLru ≤ copy.version)
    (step : advance validate state now answers (.hit since copy) = some (state', after)) :
    Moves validate state (.hit since copy) state' after := by
  have sound := invariant.tasks _ mem
  cases step
  have same : Moves validate state (.hit since copy) state
      (.answered since (some copy.response) copy.version) :=
    invariant.moves_task mem (Nat.le_refl _) (Nat.le_refl _) nofun sound
  refine { same with lru := fun stored held => ?_ }
  cases held
  exact ⟨sound.2, inTime, Nat.zero_le _⟩

/-- The table gives the newest reading. -/
theorem Invariant.moves_select (invariant : Invariant validate state)
    (mem : .select since ∈ state.tasks)
    (step : advance validate state now answers (.select since) = some (state', after)) :
    Moves validate state (.select since) state' after := by
  have sound := invariant.tasks _ mem
  simp only [advance] at step
  have newest : since ≤ state.version := Nat.le_trans sound invariant.settled_le_version
  split at step
  · rename_i missing
    cases step
    exact invariant.moves_task mem (Nat.le_refl _) (Nat.le_refl _) nofun
      ⟨newest, invariant.current.trans (congrArg some missing)⟩
  · rename_i response present
    cases step
    exact invariant.moves_task mem (Nat.le_refl _) (Nat.le_refl _) nofun
      ⟨newest, invariant.current.trans (congrArg some present)⟩

theorem Invariant.moves_setex (invariant : Invariant validate state)
    (mem : .setex since copy ∈ state.tasks)
    (inTime : answers = true → ∀ other ∈ state.tasks, other.droppedRedis ≤ copy.version)
    (step : advance validate state now answers (.setex since copy) = some (state', after)) :
    Moves validate state (.setex since copy) state' after := by
  have sound := invariant.tasks _ mem
  cases step
  have same : Moves validate state (.setex since copy) state
      (.answered since (some copy.response) copy.version) :=
    invariant.moves_task mem (Nat.le_refl _) (Nat.le_refl _) nofun sound
  refine { same with redis := fun stored held => ?_ }
  split at held
  · rename_i stores
    cases held
    exact ⟨sound.2, inTime stores, Nat.zero_le _⟩
  · exact same.redis stored held

end Reads

section Writes

-- The equations of `advance` are made here, once for the section.
attribute [local simp] advance

variable {write : Write} {loaded : Observation} {change : Nat}

theorem Invariant.moves_load (invariant : Invariant validate state)
    (mem : .load write ∈ state.tasks)
    (step : advance validate state now answers (.load write) = some (state', after)) :
    Moves validate state (.load write) state' after := by
  simp only [advance] at step
  split at step
  all_goals
    cases step
    exact invariant.moves_task mem (Nat.le_refl _) (Nat.le_refl _) nofun trivial

theorem Invariant.moves_commit (invariant : Invariant validate state)
    (mem : .commit write loaded ∈ state.tasks)
    (step : advance validate state now answers (.commit write loaded) = some (state', after)) :
    Moves validate state (.commit write loaded) state' after := by
  have newest : ∀ row, state.readings.length ≤ (state.change validate row).version := by
    simp [State.change, State.version]
  cases write with
  | process =>
    simp only [advance] at step
    split at step
    · split at step
      · cases step
        exact invariant.moves_task mem (Nat.le_refl _) (Nat.le_refl _) nofun trivial
      · cases step
        exact invariant.moves_change mem rfl rfl nofun (newest _)
    · cases step
      exact invariant.moves_task mem (Nat.le_refl _) (Nat.le_refl _) nofun (Nat.zero_le _)
  | delete =>
    simp only [advance] at step
    split at step
    · cases step
      exact invariant.moves_task mem (Nat.le_refl _) (Nat.le_refl _) nofun (Nat.zero_le _)
    · cases step
      exact invariant.moves_change mem rfl rfl nofun (newest _)

theorem Invariant.moves_refresh (invariant : Invariant validate state)
    (mem : .refresh change ∈ state.tasks)
    (step : advance validate state now answers (.refresh change) = some (state', after)) :
    Moves validate state (.refresh change) state' after := by
  have sound := invariant.tasks _ mem
  simp only [advance] at step
  split at step
  · cases step
    exact invariant.moves_task mem (Nat.le_refl _) (Nat.le_refl _) nofun trivial
  · cases step
    exact invariant.moves_task mem (Nat.le_refl _) (Nat.le_refl _) nofun sound

/-- The LRU cache is left without a copy. -/
theorem Invariant.moves_invalidate (invariant : Invariant validate state)
    (mem : .invalidate change ∈ state.tasks)
    (step : advance validate state now answers (.invalidate change) = some (state', after)) :
    Moves validate state (.invalidate change) state' after := by
  have sound := invariant.tasks _ mem
  cases step
  exact
    { tasks := rfl
      readings := List.prefix_refl _
      current := invariant.current
      lru := nofun
      redis := kept_of_le invariant.redis mem (Nat.le_refl _)
      settled := Nat.le_refl _
      returned := .inl rfl
      active := nofun
      sound }

/-- What a DEL that fails leaves in Redis has to be in time. -/
theorem Invariant.moves_del (invariant : Invariant validate state)
    (mem : .del change ∈ state.tasks)
    (inTime : answers = false → ∀ copy, state.redis = some copy → change ≤ copy.version)
    (step : advance validate state now answers (.del change) = some (state', after)) :
    Moves validate state (.del change) state' after := by
  have sound := invariant.tasks _ mem
  cases step
  refine
    { tasks := rfl
      readings := List.prefix_refl _
      current := invariant.current
      lru := kept_of_le invariant.lru mem (Nat.le_refl _)
      redis := fun copy held => ?_
      settled := Nat.le_refl _
      returned := .inl rfl
      active := nofun
      sound }
  split at held
  · cases held
  · rename_i fails
    obtain ⟨holds, others⟩ := invariant.redis copy held
    exact ⟨holds, others, inTime (Bool.not_eq_true _ ▸ fails) copy held⟩

/-- The change is settled when its writer returns. -/
theorem Invariant.moves_returning (invariant : Invariant validate state)
    (mem : .returning change ∈ state.tasks)
    (step : advance validate state now answers (.returning change) = some (state', after)) :
    Moves validate state (.returning change) state' after := by
  have sound := invariant.tasks _ mem
  cases step
  refine
    { tasks := rfl
      readings := List.prefix_refl _
      current := invariant.current
      lru := kept_of_le invariant.lru mem (Nat.le_refl _)
      redis := kept_of_le invariant.redis mem (Nat.le_refl _)
      settled := Nat.le_max_left _ _
      returned := ?_
      active := nofun
      sound }
  rcases Nat.le_total state.settled change with newer | older
  · exact .inr (congrArg Task.returned (Nat.max_eq_right newer).symm)
  · exact .inl (Nat.max_eq_left older)

end Writes

/-- A step that stores nothing old. -/
theorem Invariant.moves_advance (invariant : Invariant validate state)
    (found : state.tasks[task]? = some before) (inTime : InTime state (.step task now answers))
    (step : advance validate state now answers before = some (state', after)) :
    Moves validate state before state' after := by
  have mem : before ∈ state.tasks := List.mem_of_getElem? found
  simp only [InTime, found] at inTime
  cases before with
  | lookup => exact invariant.moves_lookup mem step
  | hit => exact invariant.moves_hit mem inTime step
  | select => exact invariant.moves_select mem step
  | setex => exact invariant.moves_setex mem inTime step
  | load => exact invariant.moves_load mem step
  | commit => exact invariant.moves_commit mem step
  | refresh => exact invariant.moves_refresh mem step
  | invalidate => exact invariant.moves_invalidate mem step
  | del => exact invariant.moves_del mem inTime step
  | returning => exact invariant.moves_returning mem step
  | answered | returned | refused => cases step

/-- A request that comes. -/
theorem Invariant.add (invariant : Invariant validate state) (lru : after.droppedLru = 0)
    (redis : after.droppedRedis = 0) (sound : state.Sound after) :
    Invariant validate { state with tasks := state.tasks ++ [after] } where
  current := invariant.current
  lru copy held := by
    obtain ⟨holds, others⟩ := invariant.lru copy held
    exact ⟨holds, List.forall_mem_append.mpr
      ⟨others, List.forall_mem_singleton.mpr (lru ▸ Nat.zero_le _)⟩⟩
  redis copy held := by
    obtain ⟨holds, others⟩ := invariant.redis copy held
    exact ⟨holds, List.forall_mem_append.mpr
      ⟨others, List.forall_mem_singleton.mpr (redis ▸ Nat.zero_le _)⟩⟩
  settled := invariant.settled.imp_right fun mem => List.mem_append_left _ mem
  tasks := List.forall_mem_append.mpr
    ⟨fun task mem => (invariant.tasks task mem).mono (List.prefix_refl _) (Nat.le_refl _),
      List.forall_mem_singleton.mpr sound⟩

theorem Invariant.next (invariant : Invariant validate state) (inTime : InTime state label)
    (step : next validate state label = some state') : Invariant validate state' := by
  cases label with
  | get =>
    cases step
    unfold arrive
    split
    · rename_i copy held
      obtain ⟨holds, others⟩ := invariant.lru copy held
      exact invariant.add rfl rfl ⟨invariant.settled_le_copy (fun _ => rfl) others, holds⟩
    · exact invariant.add rfl rfl (Nat.le_refl _)
  | write write =>
    cases step
    exact invariant.add rfl rfl trivial
  | step task now answers =>
    simp only [ObservationCalls.next] at step
    cases found : state.tasks[task]? with
    | none => simp [found] at step
    | some before =>
      simp only [found] at step
      cases advanced : advance validate state now answers before with
      | none => simp [advanced] at step
      | some result =>
        simp only [advanced, Option.some.injEq] at step
        subst step
        have moves := invariant.moves_advance found inTime advanced
        exact moves.tasks ▸ invariant.move found moves
  | expire =>
    cases step
    exact { invariant with redis := nofun, tasks := invariant.tasks }
  | evict =>
    cases step
    exact { invariant with lru := nofun, tasks := invariant.tasks }

theorem Invariant.start (row : Option Observation) : Invariant validate (start validate row) where
  current := rfl
  lru := nofun
  redis := nofun
  settled := .inl rfl
  tasks _ mem := nomatch mem

/-- **No stale answer.** In a run in which nothing old is stored after an invalidation, a GET
that comes after the invalidation of a change has returned is answered with what the table gave
after that change or a later one. -/
theorem never_stale_of_inTime (run : Run (next validate) (start validate row) history state)
    (steps : Along InTime history) : NeverStale state := by
  have invariant : Invariant validate state :=
    run.invariant_of_along (Invariant.start row)
      (fun invariant inTime step => invariant.next inTime step) steps
  intro since answer version mem
  exact invariant.tasks _ mem

end Invariant

/-! ### One GET, one process and another GET -/

def unprocessed : Observation := { sourceId := 1, timestamp := 0, rawData := .null, tenantId := none }

/-- The first GET has read the row before the change and stores it after the invalidation; the
second one comes later and is answered with it. -/
theorem stale_after_invalidation :
    ∃ history state, Run (next id) (start id (some unprocessed)) history state ∧
      .answered 1 (some unprocessed) 0 ∈ state.tasks ∧ state.settled = 1 ∧
      read id state.row ≠ some unprocessed ∧ ¬ NeverStale state := by
  obtain ⟨history, run⟩ := run_of_isSome (show (finalState (next id) (start id (some unprocessed))
    [.get, .step 0, .step 0, .write .process, .step 1, .step 1, .step 1, .step 1, .step 1, .step 1,
      .step 0, .get, .step 2, .step 2]).isSome = true by decide)
  refine ⟨history, _, run, by decide, by decide, by decide, fun never => ?_⟩
  have late := (never 1 (some unprocessed) 0 (by decide)).1
  exact absurd late (by decide)

/-- The same requests, where the first GET has stored its copy in time. -/
theorem never_stale_in_order :
    ∃ history state, Run (next id) (start id (some unprocessed)) history state ∧
      NeverStale state := by
  obtain ⟨history, run⟩ := run_of_isSome (show (finalState
    (restrict (fun state label => decide (InTime state label)) (next id))
    (start id (some unprocessed))
    [.get, .step 0, .step 0, .step 0, .write .process, .step 1, .step 1, .step 1, .step 1, .step 1,
      .step 1, .get, .step 2, .step 2]).isSome = true by decide)
  obtain ⟨run, steps⟩ := run.of_restrict
  exact ⟨history, _, run, never_stale_of_inTime run
    fun entry mem => of_decide_eq_true (steps entry mem)⟩

end ApiObservatory.ObservationCalls
