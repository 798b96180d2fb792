import ApiObservatory.Platform.BackgroundWorkers

/-
When the pool of background workers loses no accepted task.

The queue holds the newest submissions and the history the newest statuses, so a status is
dropped while its task waits only if the queue can be longer than the history. Then a worker
dies on the missing status; otherwise only an exception that is no `Exception` ends a worker
(`losesNone_iff`).
-/

namespace ApiObservatory.BackgroundWorkerPool

open Foundation

variable {pool : BackgroundWorkerPool} {state after : State} {label : Label}
  {history : List (State × Label)} {taken worker task : Nat} {place before : Worker}
  {other : Nat} {change : TaskStatus → TaskStatus} {now : Int} {batchSize : Nat}

/-! ### The queue and the history -/

/-- The trimming keeps the newest tasks. -/
theorem trimStatusHistory_eq (maxTrackedTasks : Nat) (order : List Nat) :
    trimStatusHistory maxTrackedTasks order order =
      (order.drop (order.length - maxTrackedTasks), order.drop (order.length - maxTrackedTasks)) := by
  induction order with
  | nil => simp [trimStatusHistory]
  | cons oldest order ih =>
    unfold trimStatusHistory
    by_cases long : order.length + 1 > maxTrackedTasks
    · have more : (oldest :: order).length - maxTrackedTasks =
          (order.length - maxTrackedTasks) + 1 := by
        rw [List.length_cons]
        omega
      rw [if_pos long, List.erase_cons_head, ih, more, List.drop_succ_cons]
    · have none : (oldest :: order).length - maxTrackedTasks = 0 := by
        rw [List.length_cons]
        omega
      rw [if_neg long, none, List.drop_zero]

/-- The first `taken` tasks have left the queue, and the newest ones are tracked. -/
structure Layout (pool : BackgroundWorkerPool) (state : State) (taken : Nat) : Prop where
  workers : state.workers.length = pool.workerCount
  taken_le : taken ≤ state.objects.length
  room : state.objects.length ≤ taken + pool.queueSize
  queue : state.queue = List.range' taken (state.objects.length - taken)
  statuses : state.statuses = state.order
  order : state.order = List.range' (state.objects.length - pool.maxTrackedTasks)
    (state.objects.length - (state.objects.length - pool.maxTrackedTasks))

theorem Layout.start (pool : BackgroundWorkerPool) : Layout pool pool.start 0 where
  workers := List.length_replicate
  taken_le := Nat.le_refl _
  room := Nat.zero_le _
  queue := rfl
  statuses := rfl
  order := by simp [BackgroundWorkerPool.start]

/-- A task is tracked while few others are newer. -/
theorem Layout.mem_statuses (layout : Layout pool state taken) :
    task ∈ state.statuses ↔
      task < state.objects.length ∧ state.objects.length ≤ task + pool.maxTrackedTasks := by
  rw [layout.statuses, layout.order, List.mem_range'_1]
  omega

theorem Layout.queue_length (layout : Layout pool state taken) :
    state.queue.length = state.objects.length - taken := by
  rw [layout.queue, List.length_range']

/-- A submission that the queue has room for. -/
theorem Layout.submit (layout : Layout pool state taken)
    (free : ¬ state.queue.length ≥ pool.queueSize) (batchSize : Nat) (now : Int) :
    Layout pool (pool.submit state batchSize now) taken ∧
      (pool.submit state batchSize now).workers = state.workers ∧
      (pool.submit state batchSize now).objects =
        state.objects ++ [{ status := .queued, batchSize, queuedAt := now }] := by
  have appended : state.order ++ [state.objects.length] =
      List.range' (state.objects.length - pool.maxTrackedTasks)
        (state.objects.length - (state.objects.length - pool.maxTrackedTasks) + 1) := by
    have last : state.objects.length - pool.maxTrackedTasks +
        (state.objects.length - (state.objects.length - pool.maxTrackedTasks)) =
        state.objects.length := by omega
    rw [List.range'_1_concat, last, ← layout.order]
  have trimmed : trimStatusHistory pool.maxTrackedTasks (state.statuses ++ [state.objects.length])
      (state.order ++ [state.objects.length]) =
        (List.range' (state.objects.length + 1 - pool.maxTrackedTasks)
            (state.objects.length + 1 - (state.objects.length + 1 - pool.maxTrackedTasks)),
          List.range' (state.objects.length + 1 - pool.maxTrackedTasks)
            (state.objects.length + 1 - (state.objects.length + 1 - pool.maxTrackedTasks))) := by
    rw [layout.statuses, trimStatusHistory_eq, appended, List.drop_range', List.length_range']
    have first : state.objects.length - pool.maxTrackedTasks +
        (state.objects.length - (state.objects.length - pool.maxTrackedTasks) + 1 -
          pool.maxTrackedTasks) * 1 = state.objects.length + 1 - pool.maxTrackedTasks := by omega
    have count : state.objects.length - (state.objects.length - pool.maxTrackedTasks) + 1 -
        (state.objects.length - (state.objects.length - pool.maxTrackedTasks) + 1 -
          pool.maxTrackedTasks) =
        state.objects.length + 1 - (state.objects.length + 1 - pool.maxTrackedTasks) := by omega
    rw [first, count]
  have taken_le := layout.taken_le
  have queue_length := layout.queue_length
  unfold BackgroundWorkerPool.submit
  simp only [if_neg free, trimmed]
  refine ⟨⟨layout.workers, ?_, ?_, ?_, rfl, ?_⟩, trivial, trivial⟩
  · simp only [List.length_append, List.length_singleton]
    omega
  · simp only [List.length_append, List.length_singleton]
    omega
  · have length : (state.objects ++ [({ status := .queued, batchSize, queuedAt := now } :
        TaskStatus)]).length - taken = state.objects.length - taken + 1 := by
      rw [List.length_append, List.length_singleton]
      omega
    have last : taken + (state.objects.length - taken) = state.objects.length := by omega
    rw [length, List.range'_1_concat, last, ← layout.queue]
  · simp only [List.length_append, List.length_singleton]

/-- A step of a worker that leaves the queue. -/
theorem Layout.move (layout : Layout pool state taken) (worker task : Nat)
    (change : TaskStatus → TaskStatus) (place : Worker) :
    Layout pool (goTo (update state task change) worker place) taken where
  workers := by simpa [goTo, update] using layout.workers
  taken_le := by simpa [goTo, update] using layout.taken_le
  room := by simpa [goTo, update] using layout.room
  queue := by simpa [goTo, update] using layout.queue
  statuses := layout.statuses
  order := by simpa [goTo, update] using layout.order

/-- The next task is taken from the queue. -/
theorem Layout.take (layout : Layout pool state taken) {queue : List Nat}
    (waits : state.queue = task :: queue) :
    task = taken ∧ taken < state.objects.length ∧ Layout pool { state with queue } (taken + 1) := by
  rw [layout.queue] at waits
  obtain ⟨same, some, rest⟩ := List.range'_eq_cons_iff.mp waits
  have room := layout.room
  refine ⟨same.symm, by omega, layout.workers, by simp only; omega, by simp only; omega, ?_,
    layout.statuses, layout.order⟩
  rw [rest, same, Nat.sub_sub]

/-! ### What the pool keeps -/

/-- The processor has ended, one way or the other. -/
def Settled (status : TaskStatus) : Prop := status.status = .succeeded ∨ status.status = .failed

def Final (status : TaskStatus) : Prop := Settled status ∧ status.finishedAt.isSome

/-- A worker is at a task. -/
def Holds (state : State) (worker task : Nat) : Prop :=
  state.workers[worker]? = some (.processing task) ∨ state.workers[worker]? = some (.notifying task)

/-- The workers live, the processor has been called for the tasks that were taken, and a task
that was taken is at a worker or final. -/
structure Safe (pool : BackgroundWorkerPool) (history : List (State × Label)) (state : State)
    (taken : Nat) : Prop extends Layout pool state taken where
  alive : .terminated ∉ state.workers
  called : ∀ task, calls history task = if task < taken then 1 else 0
  held : ∀ worker task, Holds state worker task → task < taken
  notifying : ∀ (worker task : Nat) (status : TaskStatus),
    state.workers[worker]? = some (.notifying task) → state.objects[task]? = some status →
      Settled status
  settled : ∀ (task : Nat) (status : TaskStatus), task < taken →
    state.objects[task]? = some status → (∃ worker, Holds state worker task) ∨ Final status

theorem calls_cons (task : Nat) :
    calls ((state, label) :: history) task =
      calls history task + if processorCall state label = some task then 1 else 0 := by
  simp [calls, List.countP_cons]

theorem holds_goTo (holds : Holds (goTo state worker place) other task) :
    (other = worker ∧ (place = .processing task ∨ place = .notifying task)) ∨
      (other ≠ worker ∧ Holds state other task) := by
  rcases holds with there | there
  · rcases getElem?_set_cases there with ⟨here, same⟩ | ⟨differs, old⟩
    · exact .inl ⟨here, .inl same.symm⟩
    · exact .inr ⟨differs, .inl old⟩
  · rcases getElem?_set_cases there with ⟨here, same⟩ | ⟨differs, old⟩
    · exact .inl ⟨here, .inr same.symm⟩
    · exact .inr ⟨differs, .inr old⟩

theorem Holds.lt (holds : Holds state worker task) : worker < state.workers.length := by
  rcases holds with there | there
  · exact (List.getElem?_eq_some_iff.mp there).1
  · exact (List.getElem?_eq_some_iff.mp there).1

/-- A worker is at one task. -/
theorem Holds.unique (holds : Holds state worker task) (holds' : Holds state worker other) :
    task = other := by
  rcases holds with there | there <;> rcases holds' with there' | there' <;>
    cases there.symm.trans there' <;> rfl

/-- Another worker stays where it is. -/
theorem Holds.goTo (holds : Holds state other task) (differs : worker ≠ other) :
    Holds (goTo state worker place) other task := by
  unfold Holds BackgroundWorkerPool.goTo
  rwa [List.getElem?_set_ne differs]

theorem object_update {changed : TaskStatus} {other : Nat}
    (stored : (update state task change).objects[other]? = some changed) :
    ∃ status, state.objects[other]? = some status ∧
      ((other = task ∧ changed = change status) ∨ (other ≠ task ∧ changed = status)) := by
  simp only [update, List.getElem?_modify] at stored
  obtain ⟨status, found, same⟩ := Option.map_eq_some_iff.mp stored
  refine ⟨status, found, ?_⟩
  by_cases here : task = other
  · exact .inl ⟨here.symm, by rw [← same, if_pos here]⟩
  · exact .inr ⟨Ne.symm here, by rw [← same, if_neg here]⟩

/-- A worker goes on from a task: the status is final, or the callback comes next. -/
theorem Safe.move (safe : Safe pool history state taken) (holds : Holds state worker task)
    (idle : processorCall state label = none) (change : TaskStatus → TaskStatus) (place : Worker)
    (goes : (place = .waiting ∧
        ∀ status, state.objects[task]? = some status → Final (change status)) ∨
      (place = .notifying task ∧ ∀ status, Settled (change status))) :
    Safe pool ((state, label) :: history) (goTo (update state task change) worker place) taken where
  toLayout := safe.toLayout.move worker task change place
  alive := by
    intro dead
    rcases List.mem_or_eq_of_mem_set dead with old | new
    · exact safe.alive old
    · rcases goes with ⟨rfl, -⟩ | ⟨rfl, -⟩ <;> cases new
  called other := by
    rw [calls_cons, idle, safe.called]
    simp
  held other current there := by
    rcases holds_goTo there with ⟨-, new⟩ | ⟨-, old⟩
    · rcases goes with ⟨rfl, -⟩ | ⟨rfl, -⟩
      · rcases new with new | new <;> cases new
      · rcases new with new | new
        · cases new
        · cases new
          exact safe.held worker task holds
    · exact safe.held other current old
  notifying other current changed there stored := by
    obtain ⟨status, found, which⟩ := object_update stored
    have settles : current = task → Settled (change status) := by
      rintro rfl
      rcases goes with ⟨-, final⟩ | ⟨-, settles⟩
      · exact (final status found).1
      · exact settles status
    rcases which with ⟨here, rfl⟩ | ⟨elsewhere, rfl⟩
    · exact settles here
    · rcases getElem?_set_cases there with ⟨-, same⟩ | ⟨-, old⟩
      · rcases goes with ⟨rfl, -⟩ | ⟨rfl, -⟩
        · cases same
        · cases same
          exact absurd rfl elsewhere
      · exact safe.notifying other current _ old found
  settled current changed earlier stored := by
    obtain ⟨status, found, which⟩ := object_update stored
    rcases which with ⟨rfl, rfl⟩ | ⟨elsewhere, rfl⟩
    · rcases goes with ⟨-, final⟩ | ⟨rfl, -⟩
      · exact .inr (final status found)
      · exact .inl ⟨worker, .inr (List.getElem?_set_self holds.lt)⟩
    · rcases safe.settled current _ earlier found with ⟨other, there⟩ | final
      · by_cases here : worker = other
        · subst here
          exact absurd (there.unique holds) elsewhere
        · exact .inl ⟨other, there.goTo here⟩
      · exact .inr final

theorem update_update (state : State) (task : Nat) (first second : TaskStatus → TaskStatus) :
    update (update state task first) task second =
      update state task fun status => second (first status) := by
  have same : (state.objects.modify task first).modify task second =
      state.objects.modify task fun status => second (first status) := by
    refine List.ext_getElem? fun other => ?_
    simp only [List.getElem?_modify]
    cases state.objects[other]? with
    | none => rfl
    | some status => by_cases here : task = other <;> simp [here]
  simp only [update, same]

/-- A worker takes the next task, whose status is tracked. -/
theorem Safe.take (safe : Safe pool history state taken)
    (waiting : state.workers[worker]? = some .waiting) {queue : List Nat}
    (waits : state.queue = task :: queue) (tracked : task ∈ state.statuses) (now : Int) :
    Safe pool ((state, .take worker now) :: history)
      (goTo (update { state with queue } task fun status =>
        { status with status := .running, startedAt := some now }) worker (.processing task))
      (taken + 1) := by
  obtain ⟨rfl, -, layout⟩ := safe.toLayout.take waits
  have loose : ∀ current, ¬ Holds state worker current := by
    rintro current (there | there) <;> cases waiting.symm.trans there
  refine { layout.move worker task _ (.processing task) with
           alive := ?_, called := ?_, held := ?_, notifying := ?_, settled := ?_ }
  · intro dead
    rcases List.mem_or_eq_of_mem_set dead with old | new
    · exact safe.alive old
    · cases new
  · intro other
    have call : processorCall state (.take worker now) = some task := by
      simp [processorCall, waits, tracked]
    rw [calls_cons, call, safe.called]
    simp only [Option.some.injEq]
    split <;> split <;> split <;> omega
  · intro other current there
    rcases holds_goTo there with ⟨-, new⟩ | ⟨-, old⟩
    · rcases new with new | new
      · cases new
        exact Nat.lt_succ_self _
      · cases new
    · exact Nat.lt_succ_of_lt (safe.held other current old)
  · intro other current changed there stored
    rcases getElem?_set_cases there with ⟨-, same⟩ | ⟨-, old⟩
    · cases same
    · obtain ⟨status, found, which⟩ := object_update stored
      have earlier : current < task := safe.held other current (.inr old)
      rcases which with ⟨rfl, -⟩ | ⟨-, rfl⟩
      · exact absurd earlier (Nat.lt_irrefl _)
      · exact safe.notifying other current _ old found
  · intro current changed earlier stored
    obtain ⟨status, found, which⟩ := object_update stored
    rcases which with ⟨rfl, -⟩ | ⟨elsewhere, rfl⟩
    · exact .inl ⟨worker, .inl (getElem?_set_of_some waiting)⟩
    · rcases safe.settled current _ (by omega) found with ⟨other, there⟩ | final
      · have differs : worker ≠ other := by
          rintro rfl
          exact loose current there
        exact .inl ⟨other, Holds.goTo there differs⟩
      · exact .inr final

theorem Safe.submit (safe : Safe pool history state taken) (batchSize : Nat) (now : Int) :
    Safe pool ((state, .submit batchSize now) :: history) (pool.submit state batchSize now)
      taken := by
  have called : ∀ task, calls ((state, .submit batchSize now) :: history) task =
      if task < taken then 1 else 0 := by
    intro task
    rw [calls_cons, safe.called]
    simp [processorCall]
  by_cases full : state.queue.length ≥ pool.queueSize
  · have same : pool.submit state batchSize now = state := if_pos full
    rw [same]
    exact { safe with called }
  · obtain ⟨layout, workers, objects⟩ := safe.toLayout.submit full batchSize now
    have old : ∀ (task : Nat) (status : TaskStatus), task < taken →
        (pool.submit state batchSize now).objects[task]? = some status →
          state.objects[task]? = some status := by
      intro task status earlier stored
      rw [objects] at stored
      rcases getElem?_append_cases stored with ⟨new, -⟩ | old
      · have := safe.taken_le
        omega
      · exact old
    have same : ∀ worker task, Holds (pool.submit state batchSize now) worker task ↔
        Holds state worker task := by
      intro worker task
      unfold Holds
      rw [workers]
    refine { layout with
             alive := workers ▸ safe.alive, called, held := ?_, notifying := ?_, settled := ?_ }
    · exact fun worker task there => safe.held worker task ((same worker task).mp there)
    · intro worker task status there stored
      rw [workers] at there
      exact safe.notifying worker task status there
        (old task status (safe.held worker task (.inr there)) stored)
    · intro task status earlier stored
      refine (safe.settled task status earlier (old task status earlier stored)).imp_left ?_
      rintro ⟨worker, there⟩
      exact ⟨worker, (same worker task).mpr there⟩

/-- The settings under which nothing is lost. -/
structure Fits (pool : BackgroundWorkerPool) : Prop where
  history : pool.queueSize ≤ pool.maxTrackedTasks
  processor : pool.processorAborts = false
  callback : pool.onTaskFailed ≠ some true

theorem Safe.next (fits : Fits pool) (safe : Safe pool history state taken)
    (step : pool.next state label = some after) :
    ∃ taken, Safe pool ((state, label) :: history) after taken := by
  cases label with
  | submit batchSize now =>
    cases step
    exact ⟨taken, safe.submit batchSize now⟩
  | take worker now =>
    simp only [BackgroundWorkerPool.next, BackgroundWorkerPool.take] at step
    split at step
    · rename_i task queue waiting waits
      have tracked : task ∈ state.statuses := by
        obtain ⟨rfl, earlier, -⟩ := safe.toLayout.take waits
        have room := safe.room
        have history := fits.history
        exact safe.toLayout.mem_statuses.mpr ⟨earlier, by omega⟩
      simp only [if_pos tracked, Option.some.injEq] at step
      subst step
      exact ⟨taken + 1, safe.take waiting waits tracked now⟩
    · cases step
  | finish worker outcome now =>
    simp only [BackgroundWorkerPool.next, BackgroundWorkerPool.finish] at step
    split at step
    · rename_i task there
      cases outcome with
      | returned result =>
        cases step
        refine ⟨taken, ?_⟩
        unfold finished
        rw [update_update]
        exact safe.move (.inl there) rfl _ .waiting (.inl ⟨rfl, fun _ _ => ⟨.inl rfl, rfl⟩⟩)
      | raised error =>
        cases callback : pool.onTaskFailed with
        | none =>
          simp only [callback, Option.some.injEq] at step
          subst step
          refine ⟨taken, ?_⟩
          unfold finished
          rw [update_update]
          exact safe.move (.inl there) rfl _ .waiting (.inl ⟨rfl, fun _ _ => ⟨.inr rfl, rfl⟩⟩)
        | some aborts =>
          simp only [callback, Option.some.injEq] at step
          subst step
          exact ⟨taken, safe.move (.inl there) rfl _ (.notifying task)
            (.inr ⟨rfl, fun _ => .inr rfl⟩)⟩
      | aborted cancelled =>
        simp [fits.processor] at step
    · cases step
  | notified worker outcome now =>
    simp only [BackgroundWorkerPool.next, BackgroundWorkerPool.notified] at step
    split at step
    · rename_i task there
      have final : ∀ status, state.objects[task]? = some status →
          Final { status with finishedAt := some now } := fun status stored =>
        ⟨safe.notifying worker task status there stored, rfl⟩
      cases outcome with
      | returned =>
        cases step
        exact ⟨taken, safe.move (.inr there) rfl _ .waiting (.inl ⟨rfl, final⟩)⟩
      | raised =>
        cases step
        exact ⟨taken, safe.move (.inr there) rfl _ .waiting (.inl ⟨rfl, final⟩)⟩
      | aborted =>
        simp [fits.callback] at step
    · cases step

theorem start_waiting (there : pool.start.workers[worker]? = some place) : place = .waiting :=
  List.eq_of_mem_replicate (List.mem_of_getElem? there)

theorem Safe.start (pool : BackgroundWorkerPool) : Safe pool [] pool.start 0 where
  toLayout := Layout.start pool
  alive dead := by cases List.eq_of_mem_replicate dead
  called task := by simp [calls]
  held worker task there := by rcases there with there | there <;> cases start_waiting there
  notifying worker task status there := by cases start_waiting there
  settled task status earlier := absurd earlier (Nat.not_lt_zero _)

theorem Safe.of_run (fits : Fits pool) (run : Run pool.next pool.start history state) :
    ∃ taken, Safe pool history state taken := by
  refine run.invariant (I := fun history state => ∃ taken, Safe pool history state taken)
    ⟨0, Safe.start pool⟩ ?_
  rintro history state label after - ⟨taken, safe⟩ step
  exact safe.next fits step

theorem Safe.sound (safe : Safe pool history state taken) : Sound history state where
  alive := safe.alive
  once task accepted := by
    have taken_le := safe.taken_le
    have waits : task ∈ state.queue ↔ taken ≤ task := by
      rw [safe.queue, List.mem_range'_1]
      omega
    have distinct : state.queue.Nodup := safe.queue ▸ List.nodup_range'
    rw [safe.called, distinct.count]
    simp only [waits]
    split <;> split <;> omega
  progress waits := by
    have some_worker : 0 < state.workers.length := by
      rw [safe.workers]
      exact pool.workers.1
    refine ⟨0, state.workers[0], List.getElem?_eq_getElem some_worker, fun waiting now => ?_⟩
    obtain ⟨task, queue, split⟩ := List.exists_cons_of_ne_nil waits
    have there : state.workers[0]? = some .waiting := by
      rw [List.getElem?_eq_getElem some_worker, waiting]
    unfold BackgroundWorkerPool.take
    rw [there, split]
    simp only
    split <;> rfl
  drained empty idle status mem := by
    obtain ⟨task, bound, stored⟩ := List.mem_iff_getElem.mp mem
    have none_waits := safe.queue_length
    rw [empty, List.length_nil] at none_waits
    have found : state.objects[task]? = some status := List.getElem?_eq_some_iff.mpr ⟨bound, stored⟩
    rcases safe.settled task status (by omega) found with ⟨worker, there | there⟩ | final
    · cases idle _ (List.mem_of_getElem? there)
    · cases idle _ (List.mem_of_getElem? there)
    · exact final

/-! ### Where a task is lost -/

theorem Layout.of_submits (k : Nat) (fits : k ≤ pool.queueSize) :
    ∃ history state, Run pool.next pool.start history state ∧ Layout pool state 0 ∧
      state.workers = pool.start.workers ∧ state.objects.length = k := by
  induction k with
  | zero => exact ⟨[], _, .init, Layout.start pool, rfl, rfl⟩
  | succ k ih =>
    obtain ⟨history, state, run, layout, workers, length⟩ := ih (Nat.le_of_succ_le fits)
    have free : ¬ state.queue.length ≥ pool.queueSize := by
      rw [layout.queue_length]
      omega
    obtain ⟨layout', workers', objects⟩ := layout.submit free 1 0
    refine ⟨_, _, run.snoc (show pool.next state (.submit 1 0) = some _ from rfl), layout', workers'.trans workers, ?_⟩
    rw [objects, List.length_append, length]
    rfl

/-- The first worker waits for its first task. -/
theorem first_waiting (workers : state.workers = pool.start.workers) :
    state.workers[0]? = some .waiting := by
  have one : 0 < pool.workerCount := pool.workers.1
  rw [workers, BackgroundWorkerPool.start, List.getElem?_replicate, if_pos one]

/-- No step of a pool that loses nothing ends a worker. -/
theorem not_losesNone (run : Run pool.next pool.start history state)
    (step : pool.next state label = some after)
    (dead : after.workers[worker]? = some .terminated) : ¬ LosesNone pool :=
  fun none => (none _ _ (run.snoc step)).alive (List.mem_of_getElem? dead)

/-- The first worker takes the only task. -/
theorem processing_of_submit (pool : BackgroundWorkerPool) :
    ∃ history state, Run pool.next pool.start history state ∧
      state.workers[0]? = some (.processing 0) := by
  obtain ⟨history, state, run, layout, workers, length⟩ := Layout.of_submits 1 pool.queue.1
  have waiting := first_waiting workers
  have waits : state.queue = [0] := by
    rw [layout.queue, length]
    rfl
  have tracked : 0 ∈ state.statuses := by
    have limit := pool.tracked
    exact layout.mem_statuses.mpr ⟨by omega, by omega⟩
  have step : pool.next state (.take 0 0) =
      some (goTo (update { state with queue := [] } 0 fun status =>
        { status with status := .running, startedAt := some 0 }) 0 (.processing 0)) := by
    simp only [BackgroundWorkerPool.next, BackgroundWorkerPool.take, waiting, waits,
      if_pos tracked]
  exact ⟨_, _, run.snoc step, getElem?_set_of_some waiting⟩

/-- With a queue that is longer than the history, a status is dropped while its task waits. -/
theorem history_of_losesNone (none : LosesNone pool) : pool.queueSize ≤ pool.maxTrackedTasks := by
  refine Nat.le_of_not_lt fun long => ?_
  obtain ⟨history, state, run, layout, workers, length⟩ :=
    Layout.of_submits (pool.maxTrackedTasks + 1) (Nat.succ_le_of_lt long)
  have waiting := first_waiting workers
  have waits : state.queue = 0 :: List.range' 1 pool.maxTrackedTasks := by
    rw [layout.queue, length]
    rfl
  have dropped : 0 ∉ state.statuses := by
    rw [layout.mem_statuses]
    omega
  have step : pool.next state (.take 0 0) =
      some (goTo { state with queue := List.range' 1 pool.maxTrackedTasks } 0 .terminated) := by
    simp only [BackgroundWorkerPool.next, BackgroundWorkerPool.take, waiting, waits,
      if_neg dropped]
  exact not_losesNone run step (getElem?_set_of_some waiting) none

theorem processor_of_losesNone (none : LosesNone pool) : pool.processorAborts = false := by
  obtain ⟨history, state, run, there⟩ := processing_of_submit pool
  cases aborts : pool.processorAborts with
  | false => rfl
  | true =>
    have step : pool.next state (.finish 0 (.aborted false) 0) =
        some (goTo (finished state 0 0) 0 .terminated) := by
      simp [BackgroundWorkerPool.next, BackgroundWorkerPool.finish, there, aborts]
    exact absurd none (not_losesNone run step (getElem?_set_of_some there))

theorem callback_of_losesNone (none : LosesNone pool) : pool.onTaskFailed ≠ some true := by
  intro aborts
  obtain ⟨history, state, run, there⟩ := processing_of_submit pool
  have fails : pool.next state (.finish 0 (.raised "") 0) =
      some (goTo (update state 0 fun status =>
        { status with status := .failed, error := some "" }) 0 (.notifying 0)) := by
    simp only [BackgroundWorkerPool.next, BackgroundWorkerPool.finish, there, aborts]
  generalize failed : (goTo (update state 0 fun status =>
    { status with status := .failed, error := some "" }) 0 (.notifying 0)) = notifying at fails
  have calling : notifying.workers[0]? = some (.notifying 0) := by
    rw [← failed]
    exact getElem?_set_of_some there
  have step : pool.next notifying (.notified 0 .aborted 0) =
      some (goTo (finished notifying 0 0) 0 .terminated) := by
    simp [BackgroundWorkerPool.next, BackgroundWorkerPool.notified, calling, aborts]
  exact not_losesNone (run.snoc fails) step (getElem?_set_of_some calling) none

/-- The pool loses no task exactly when the history is as long as the queue and only an
`Exception` is raised. -/
theorem losesNone_iff (pool : BackgroundWorkerPool) :
    LosesNone pool ↔ pool.queueSize ≤ pool.maxTrackedTasks ∧ pool.processorAborts = false ∧
      pool.onTaskFailed ≠ some true := by
  constructor
  · intro none
    exact ⟨history_of_losesNone none, processor_of_losesNone none, callback_of_losesNone none⟩
  · rintro ⟨history, processor, callback⟩ trace state run
    obtain ⟨taken, safe⟩ := Safe.of_run ⟨history, processor, callback⟩ run
    exact safe.sound

/-- One worker, whose queue is longer by one than the history. -/
def crowded : BackgroundWorkerPool where
  workerCount := 1
  queueSize := 11
  maxTrackedTasks := 10

/-- Ten statuses are kept, and eleven tasks are submitted before the worker runs: the first task
ends it, and no other one is taken. -/
theorem task_lost : crowded.processorAborts = false ∧ crowded.onTaskFailed = none ∧
    ∃ history state, Run crowded.next crowded.start history state ∧ ¬ Sound history state ∧
      state.workers = [.terminated] ∧ state.queue = List.range' 1 10 ∧
      state.objects[0]? = some { status := .queued, batchSize := 1, queuedAt := 0 } := by
  obtain ⟨history, run⟩ := run_of_isSome (show (finalState crowded.next crowded.start
    (List.replicate 11 (.submit 1 0) ++ [.take 0 0])).isSome = true by decide)
  exact ⟨rfl, rfl, history, _, run, fun sound => sound.alive (by decide), by decide, by decide,
    by decide⟩

end ApiObservatory.BackgroundWorkerPool
