import ApiObservatory.Foundation.Run
import ApiObservatory.Foundation.Tasks
import ApiObservatory.Storage.Events

/-
The lifecycle of processed events, over all runs and any number of workers.

No operation looks at the status that it changes, and each acts on the copy that its session
holds. `Mark.Allowed` is what has to be true of the copy and of the row when a mark is
committed; the lifecycle holds in every state of a run exactly when it is met at every commit
(`lifecycle_throughout_iff`). Claims and creations need nothing.
-/

namespace ApiObservatory.EventStorage

open Foundation

/-- The statuses that an event keeps. -/
def EventStatus.Final (status : EventStatus) : Prop := status = .completed ∨ status = .deadLetter

instance (status : EventStatus) : Decidable status.Final :=
  inferInstanceAs (Decidable (status = .completed ∨ status = .deadLetter))

section Property

def statusAt (s : State) (event : Nat) : Option EventStatus := (s.events[event]?).map (·.status)

/-- `event` goes from another status into processing. -/
def enters (event : Nat) (s s' : State) : Bool :=
  statusAt s' event == some .processing && statusAt s event != some .processing

/-- How often `event` has gone into processing. -/
def transitions (event : Nat) : List (State × Label) → State → Nat
  | [], _ => 0
  | (s, _) :: earlier, s' => transitions event earlier s + if enters event s s' then 1 else 0

/-- The columns of a row agree with its status. -/
structure Consistent (row : ProcessedEvent) : Prop where
  flag : row.deadLetterQueue = true ↔ row.status = .deadLetter
  processed : row.processedAt.isSome = true ↔ row.status = .completed

structure Lifecycle (history : List (State × Label)) (s : State) : Prop where
  consistent : ∀ (event : Nat) row, s.events[event]? = some row → Consistent row
  /-- An event that was completed or dead-lettered has that status still. -/
  final : ∀ entry ∈ history, ∀ (event : Nat) before, entry.1.events[event]? = some before →
    before.status.Final → ∃ row, s.events[event]? = some row ∧ row.status = before.status
  attempts : ∀ (event : Nat) row, s.events[event]? = some row →
    row.processingAttempts = transitions event history s

/-- When a mark of the copy `loaded` may be committed to the row `stored`. -/
def Mark.Allowed (loaded stored : ProcessedEvent) : Mark → Prop
  | .processing =>
    if loaded.status = .processing then
      loaded.processingAttempts + 1 = stored.processingAttempts
    else if stored.status = .processing then
      loaded.processingAttempts + 1 = stored.processingAttempts
    else ¬ stored.status.Final ∧ loaded.processingAttempts = stored.processingAttempts
  | .completed => stored.status ≠ .deadLetter
  | .failed _ _ => loaded.status = .failed ∨ ¬ stored.status.Final
  | .dlq _ => stored.status ≠ .completed

/-- Every mark that reaches the database is allowed. -/
def Allowed (s : State) : Label → Prop
  | .mark worker event m _ => m.fits = true → ∀ loaded stored, s.held worker event = some loaded →
      s.events[event]? = some stored → m.Allowed loaded stored
  | _ => True

end Property

variable {history : List (State × Label)} {s s' : State} {label : Label} {worker event : Nat} {now : Int}

/-! ### One row -/

/-- What a step may do to a row. -/
structure Keeps (row row' : ProcessedEvent) : Prop where
  consistent : Consistent row'
  final : row.status.Final → row'.status = row.status
  attempts : row'.processingAttempts = row.processingAttempts +
    if row'.status = .processing ∧ row.status ≠ .processing then 1 else 0

theorem Keeps.refl {row : ProcessedEvent} (consistent : Consistent row) : Keeps row row :=
  ⟨consistent, fun _ => rfl, by simp⟩

/-- How a copy in a session relates to the row. -/
structure Copies (copy row : ProcessedEvent) : Prop where
  consistent : Consistent copy
  final : copy.status.Final → row.status = copy.status
  pending : row.status = .pending →
    copy.status = .pending ∧ copy.processingAttempts = row.processingAttempts

theorem Copies.refl {row : ProcessedEvent} (consistent : Consistent row) : Copies row row :=
  ⟨consistent, fun _ => rfl, fun pending => ⟨pending, rfl⟩⟩

theorem not_final_processing : ¬ EventStatus.processing.Final := by decide

theorem not_final_failed : ¬ EventStatus.failed.Final := by decide

/-- A row that is not final carries neither mark of a final one. -/
theorem Consistent.clear {row : ProcessedEvent} (consistent : Consistent row)
    (notFinal : ¬ row.status.Final) : row.deadLetterQueue = false ∧ row.processedAt = none := by
  constructor
  · rw [← Bool.not_eq_true, consistent.flag]
    exact fun dead => notFinal (.inr dead)
  · rw [← Option.not_isSome_iff_eq_none, consistent.processed]
    exact fun completed => notFinal (.inl completed)

/-- The columns of a row agree with a status that is not final when they are clear. -/
theorem consistent_of_clear {row : ProcessedEvent} (notFinal : ¬ row.status.Final)
    (flag : row.deadLetterQueue = false) (processed : row.processedAt = none) : Consistent row := by
  constructor
  · simp only [flag, Bool.false_eq_true, false_iff]
    exact fun dead => notFinal (.inr dead)
  · simp only [processed, Option.isSome_none, Bool.false_eq_true, false_iff]
    exact fun completed => notFinal (.inl completed)

section Flush

variable {loaded stored : ProcessedEvent}

theorem flush_markProcessing : flush loaded (markProcessing loaded) stored =
    { stored with
      status := columnUpdate loaded.status .processing stored.status
      processingAttempts := loaded.processingAttempts + 1 } := by
  have differs : loaded.processingAttempts + 1 ≠ loaded.processingAttempts := Nat.succ_ne_self _
  simp [flush, markProcessing, columnUpdate_of_ne differs]

theorem flush_markCompleted : flush loaded (markCompleted loaded now) stored =
    { stored with
      status := columnUpdate loaded.status .completed stored.status
      processedAt := columnUpdate loaded.processedAt (some now) stored.processedAt } := by
  simp [flush, markCompleted]

variable (loaded stored) in
theorem flush_markFailed (message : String) (details : Option Json) :
    (flush loaded (markFailed loaded message details) stored).status =
        columnUpdate loaded.status .failed stored.status ∧
      (flush loaded (markFailed loaded message details) stored).deadLetterQueue =
        stored.deadLetterQueue ∧
      (flush loaded (markFailed loaded message details) stored).processedAt = stored.processedAt ∧
      (flush loaded (markFailed loaded message details) stored).processingAttempts =
        stored.processingAttempts := by
  simp [flush, markFailed]

variable (loaded stored) in
theorem flush_markDlq (reason : String) :
    (flush loaded (markDlq loaded reason) stored).status =
        columnUpdate loaded.status .deadLetter stored.status ∧
      (flush loaded (markDlq loaded reason) stored).deadLetterQueue =
        columnUpdate loaded.deadLetterQueue true stored.deadLetterQueue ∧
      (flush loaded (markDlq loaded reason) stored).processedAt = stored.processedAt ∧
      (flush loaded (markDlq loaded reason) stored).processingAttempts =
        stored.processingAttempts := by
  simp [flush, markDlq]

variable (consistent : Consistent stored) (copies : Copies loaded stored)

include consistent

theorem keeps_processing_iff : Keeps stored (flush loaded (markProcessing loaded) stored) ↔
    Mark.processing.Allowed loaded stored := by
  rw [flush_markProcessing]
  by_cases was : loaded.status = .processing
  · -- the status is no column of the UPDATE
    rw [was, columnUpdate_self, Mark.Allowed, if_pos was]
    constructor
    · intro keeps
      simpa using keeps.attempts
    · intro attempts
      exact ⟨⟨consistent.flag, consistent.processed⟩, fun _ => rfl, by simpa using attempts⟩
  · rw [columnUpdate_of_ne (Ne.symm was), Mark.Allowed, if_neg was]
    by_cases busy : stored.status = .processing
    · rw [if_pos busy]
      have notFinal : ¬ stored.status.Final := busy ▸ not_final_processing
      obtain ⟨flag, processed⟩ := consistent.clear notFinal
      constructor
      · intro keeps
        simpa [busy] using keeps.attempts
      · intro attempts
        exact ⟨consistent_of_clear not_final_processing flag processed,
          fun final => absurd final notFinal, by simpa [busy] using attempts⟩
    · rw [if_neg busy]
      constructor
      · intro keeps
        have notFinal : ¬ stored.status.Final := fun final => busy (keeps.final final).symm
        have attempts : loaded.processingAttempts + 1 = stored.processingAttempts + 1 := by
          simpa [busy] using keeps.attempts
        exact ⟨notFinal, Nat.succ.inj attempts⟩
      · rintro ⟨notFinal, attempts⟩
        obtain ⟨flag, processed⟩ := consistent.clear notFinal
        exact ⟨consistent_of_clear not_final_processing flag processed,
          fun final => absurd final notFinal, by simp [busy, attempts]⟩

omit consistent in
include copies in
/-- A mark with a final status leaves the row with it: a copy that has the status already was
read from a row that has kept it. -/
theorem columnUpdate_final {status : EventStatus} (final : status.Final) :
    columnUpdate loaded.status status stored.status = status := by
  by_cases was : status = loaded.status
  · rw [was, columnUpdate_self]
    exact copies.final (was ▸ final)
  · exact columnUpdate_of_ne was _

include copies in
/-- After `mark_event_completed` the row has a time of processing. -/
theorem isSome_columnUpdate_processedAt :
    (columnUpdate loaded.processedAt (some now) stored.processedAt).isSome = true := by
  by_cases was : loaded.status = .completed
  · have done := consistent.processed.mpr ((copies.final (.inl was)).trans was)
    rcases columnUpdate_eq_or loaded.processedAt (some now) stored.processedAt with same | new
    · rwa [same]
    · rw [new, Option.isSome_some]
  · have none : loaded.processedAt = none := by
      rw [← Option.not_isSome_iff_eq_none, copies.consistent.processed]
      exact was
    rw [none, columnUpdate_of_ne (Option.some_ne_none now), Option.isSome_some]

include copies in
/-- After `mark_event_dlq` the row has the flag. -/
theorem columnUpdate_deadLetterQueue :
    columnUpdate loaded.deadLetterQueue true stored.deadLetterQueue = true := by
  by_cases was : loaded.status = .deadLetter
  · have flag := consistent.flag.mpr ((copies.final (.inr was)).trans was)
    rcases columnUpdate_eq_or loaded.deadLetterQueue true stored.deadLetterQueue with same | new
    · rwa [same]
    · exact new
  · have clear : loaded.deadLetterQueue = false := by
      rw [← Bool.not_eq_true, copies.consistent.flag]
      exact was
    rw [clear]
    exact columnUpdate_of_ne (by decide) _

include copies in
theorem keeps_completed_iff : Keeps stored (flush loaded (markCompleted loaded now) stored) ↔
    Mark.completed.Allowed loaded stored := by
  rw [flush_markCompleted, columnUpdate_final copies (.inl rfl), Mark.Allowed]
  constructor
  · intro keeps dead
    have same : EventStatus.completed = stored.status := keeps.final (.inr dead)
    exact EventStatus.noConfusion (same.trans dead)
  · intro notDead
    refine ⟨⟨?_, ?_⟩, ?_, by simp⟩
    · simp only [reduceCtorEq, iff_false, consistent.flag]
      exact notDead
    · simp only [iff_true]
      exact isSome_columnUpdate_processedAt consistent copies
    · rintro (completed | dead)
      · exact completed.symm
      · exact absurd dead notDead

include copies in
theorem keeps_dlq_iff (reason : String) :
    Keeps stored (flush loaded (markDlq loaded reason) stored) ↔
      (Mark.dlq reason).Allowed loaded stored := by
  obtain ⟨status, flag, processed, attempts⟩ :=
    flush_markDlq loaded stored reason
  rw [columnUpdate_final copies (.inr rfl)] at status
  rw [columnUpdate_deadLetterQueue consistent copies] at flag
  rw [Mark.Allowed]
  constructor
  · intro keeps completed
    have same := keeps.final (.inl completed)
    exact EventStatus.noConfusion (status.symm.trans (same.trans completed))
  · intro notCompleted
    refine ⟨⟨?_, ?_⟩, ?_, by simp [status, attempts]⟩
    · simp [status, flag]
    · simp only [processed, status, reduceCtorEq, iff_false, consistent.processed]
      exact notCompleted
    · rintro (completed | dead)
      · exact absurd completed notCompleted
      · exact status.trans dead.symm

theorem keeps_failed_iff (message : String) (details : Option Json) :
    Keeps stored (flush loaded (markFailed loaded message details) stored) ↔
      (Mark.failed message details).Allowed loaded stored := by
  obtain ⟨status, flag, processed, attempts⟩ :=
    flush_markFailed loaded stored message details
  rw [Mark.Allowed]
  by_cases was : loaded.status = .failed
  · rw [was, columnUpdate_self] at status
    refine iff_of_true ⟨⟨?_, ?_⟩, fun _ => status, by simp [status, attempts]⟩ (.inl was)
    · rw [flag, status]
      exact consistent.flag
    · rw [processed, status]
      exact consistent.processed
  · rw [columnUpdate_of_ne (Ne.symm was)] at status
    constructor
    · intro keeps
      refine .inr fun final => not_final_failed ?_
      rw [← status, keeps.final final]
      exact final
    · rintro (again | notFinal)
      · exact absurd again was
      · obtain ⟨noFlag, notProcessed⟩ := consistent.clear notFinal
        refine ⟨consistent_of_clear ?_ (flag.trans noFlag) (processed.trans notProcessed),
          fun final => absurd final notFinal, by simp [status, attempts]⟩
        rw [status]
        exact not_final_failed

/-- **One commit.** A mark keeps the row's lifecycle exactly when it is allowed. -/
theorem keeps_flush_iff (copies : Copies loaded stored) (m : Mark) (now : Int) :
    Keeps stored (flush loaded (m.apply now loaded) stored) ↔ m.Allowed loaded stored := by
  cases m with
  | processing => exact keeps_processing_iff consistent
  | completed => exact keeps_completed_iff consistent copies
  | failed message details => exact keeps_failed_iff consistent message details
  | dlq reason => exact keeps_dlq_iff consistent copies reason

omit consistent in
theorem status_flush (m : Mark) (now : Int) :
    (flush loaded (m.apply now loaded) stored).status =
      columnUpdate loaded.status (m.apply now loaded).status stored.status := rfl

omit consistent in
theorem status_apply_ne_pending (m : Mark) (now : Int) :
    (m.apply now loaded).status ≠ .pending := by
  cases m <;> simp [Mark.apply, markProcessing, markCompleted, markFailed, markDlq]

omit consistent in
include copies in
/-- No row becomes pending. -/
theorem status_flush_ne_pending (m : Mark) (now : Int) :
    (flush loaded (m.apply now loaded) stored).status ≠ .pending := by
  rw [status_flush]
  intro pending
  by_cases was : (m.apply now loaded).status = loaded.status
  · rw [was, columnUpdate_self] at pending
    exact status_apply_ne_pending m now (was.trans (copies.pending pending).1)
  · rw [columnUpdate_of_ne was] at pending
    exact status_apply_ne_pending m now pending

omit consistent in
include copies in
/-- A copy that may be marked processing or failed is not final. -/
theorem Copies.not_final (notFinal : ¬ stored.status.Final) : ¬ loaded.status.Final := by
  intro final
  rw [← copies.final final] at final
  exact notFinal final

omit consistent in
include copies in
/-- The object that has been committed is again a copy of the row. -/
theorem Copies.apply {m : Mark} (allowed : m.Allowed loaded stored) (now : Int) :
    Copies (m.apply now loaded) (flush loaded (m.apply now loaded) stored) := by
  refine ⟨?_, fun final => ?_, fun pending => absurd pending (status_flush_ne_pending copies m now)⟩
  · cases m with
    | processing =>
      have notFinal : ¬ loaded.status.Final := by
        rw [Mark.Allowed] at allowed
        split at allowed
        · rename_i was
          exact was ▸ not_final_processing
        · split at allowed
          · rename_i busy
            exact copies.not_final (busy ▸ not_final_processing)
          · exact copies.not_final allowed.1
      obtain ⟨flag, processed⟩ := copies.consistent.clear notFinal
      exact consistent_of_clear not_final_processing flag processed
    | completed =>
      have notDead : loaded.status ≠ .deadLetter := fun dead =>
        allowed ((copies.final (.inr dead)).trans dead)
      refine ⟨?_, by simp [Mark.apply, markCompleted]⟩
      simp only [Mark.apply, markCompleted, reduceCtorEq, iff_false, copies.consistent.flag]
      exact notDead
    | failed message details =>
      have notFinal : ¬ loaded.status.Final := by
        rcases allowed with was | notFinal
        · exact was ▸ not_final_failed
        · exact copies.not_final notFinal
      obtain ⟨flag, processed⟩ := copies.consistent.clear notFinal
      exact consistent_of_clear not_final_failed flag processed
    | dlq reason =>
      have notCompleted : loaded.status ≠ .completed := fun completed =>
        allowed ((copies.final (.inl completed)).trans completed)
      refine ⟨by simp [Mark.apply, markDlq], ?_⟩
      simp only [Mark.apply, markDlq, reduceCtorEq, iff_false, copies.consistent.processed]
      exact notCompleted
  · rw [status_flush]
    exact columnUpdate_final copies final

omit consistent in
/-- A copy stays one when the row moves on. -/
theorem Copies.keeps {copy row row' : ProcessedEvent} (copies : Copies copy row)
    (keeps : Keeps row row') (notPending : row'.status ≠ .pending) : Copies copy row' := by
  refine ⟨copies.consistent, fun final => ?_, fun pending => absurd pending notPending⟩
  have same := copies.final final
  exact (keeps.final (same ▸ final)).trans same

omit consistent in
include copies in
/-- A pending row may be claimed, whichever copy the session holds. -/
theorem Copies.claimable (pending : stored.status = .pending) :
    Mark.processing.Allowed loaded stored := by
  obtain ⟨was, attempts⟩ := copies.pending pending
  simp only [Mark.Allowed, was, pending, reduceCtorEq, if_false]
  exact ⟨by decide, attempts⟩

end Flush

/-! ### One step -/

/-- The UPDATEs that reach the database with a step. -/
inductive Updates (s : State) : Label → Nat → ProcessedEvent → ProcessedEvent → Mark → Int → Prop where
  | mark {worker event : Nat} {m : Mark} {now : Int} {loaded stored : ProcessedEvent} :
      s.held worker event = some loaded → s.events[event]? = some stored → m.fits = true →
      Updates s (.mark worker event m now) event loaded stored m now
  | claim {worker batchSize event : Nat} {claimed : List Nat} {now : Int}
      {stored : ProcessedEvent} :
      s.events[event]? = some stored → stored.status = .pending → event ∈ claimed →
      Updates s (.claim worker batchSize claimed) event (s.object worker event stored) stored
        .processing now

variable {loaded stored row row' : ProcessedEvent} {m : Mark}

theorem claim_eq_some {batchSize : Nat} {claimed : List Nat}
    (step : claim s worker batchSize claimed = some s') :
    (∀ e ∈ claimed, ∃ stored, s.events[e]? = some stored ∧ stored.status = .pending) ∧
      (∀ (e : Nat) stored, s.events[e]? = some stored → s'.events[e]? = some (if e ∈ claimed then
        flush (s.object worker e stored) (markProcessing (s.object worker e stored)) stored
        else stored)) ∧
      (∀ e : Nat, s.events[e]? = none → s'.events[e]? = none) ∧
      ∀ w e, s'.held w e = if w = worker ∧ e ∈ claimed then
        (s.events[e]?).map fun stored => markProcessing (s.object worker e stored)
        else s.held w e := by
  unfold claim at step
  split at step
  · rename_i may
    cases step
    refine ⟨fun e mem => ?_, fun e stored found => ?_, fun e absent => ?_, fun w e => rfl⟩
    · have pending := List.all_eq_true.mp may.2 e mem
      cases found : s.events[e]? with
      | none => simp [found] at pending
      | some stored => exact ⟨stored, rfl, by simpa [found] using pending⟩
    · rw [List.getElem?_mapIdx, found, Option.map_some]
    · rw [List.getElem?_mapIdx, absent, Option.map_none]
  · cases step

theorem mark_eq_some {now : Int} (step : mark s worker event m now = some s') :
    ∃ loaded stored, s.held worker event = some loaded ∧ s.events[event]? = some stored ∧
      ((m.fits = true ∧ s' =
          { events := s.events.set event (flush loaded (m.apply now loaded) stored)
            held := s.hold worker event (some (m.apply now loaded)) }) ∨
        (m.fits = false ∧ s' = { s with held := s.expired worker })) := by
  unfold mark at step
  split at step
  · rename_i loaded stored held found
    refine ⟨loaded, stored, held, found, ?_⟩
    split at step
    · rename_i fits
      exact .inl ⟨fits, (Option.some.inj step).symm⟩
    · rename_i fits
      exact .inr ⟨Bool.not_eq_true _ ▸ fits, (Option.some.inj step).symm⟩
  · cases step

/-- What `create` does to the table. -/
theorem create_events (worker : Nat) (record : KafkaRecord) :
    (create s worker record).events = s.events ∨
      (create s worker record).events = s.events ++ [record.row] := by
  unfold create
  split
  · exact .inl rfl
  · split
    · exact .inl rfl
    · exact .inr rfl

/-- A row stays as it is or is updated. -/
theorem next_row (step : next s label = some s') (found : s.events[event]? = some row) :
    ∃ row', s'.events[event]? = some row' ∧ (row' = row ∨ ∃ loaded m now,
      Updates s label event loaded row m now ∧ row' = flush loaded (m.apply now loaded) row) := by
  cases label with
  | create worker record =>
    cases step
    refine ⟨row, ?_, .inl rfl⟩
    rcases create_events (s := s) worker record with same | appended
    · rwa [same]
    · rw [appended]
      exact getElem?_append_of_some found
  | get worker event' =>
    refine ⟨row, ?_, .inl rfl⟩
    simp only [next] at step
    split at step <;> cases step <;> exact found
  | mark worker event' m now =>
    obtain ⟨loaded, stored, held, found', ⟨fits, rfl⟩ | ⟨-, rfl⟩⟩ := mark_eq_some step
    · by_cases same : event = event'
      · subst same
        obtain rfl := Option.some.inj (found.symm.trans found')
        exact ⟨_, getElem?_set_of_some found, .inr ⟨loaded, m, now, .mark held found fits, rfl⟩⟩
      · exact ⟨row, (List.getElem?_set_ne (Ne.symm same)).trans found, .inl rfl⟩
    · exact ⟨row, found, .inl rfl⟩
  | refresh worker event' =>
    cases step
    exact ⟨row, found, .inl rfl⟩
  | claim worker batchSize claimed =>
    obtain ⟨pending, events, -⟩ := claim_eq_some step
    refine ⟨_, events event row found, ?_⟩
    by_cases mem : event ∈ claimed
    · rw [if_pos mem]
      obtain ⟨stored, found', status⟩ := pending event mem
      obtain rfl := Option.some.inj (found'.symm.trans found)
      exact .inr ⟨_, .processing, 0, .claim found status mem, rfl⟩
    · rw [if_neg mem]
      exact .inl rfl
  | expire worker event' =>
    cases step
    exact ⟨row, found, .inl rfl⟩

/-- A new row is as it was created. -/
theorem next_new (step : next s label = some s') (absent : s.events[event]? = none)
    (found : s'.events[event]? = some row) : ∃ record : KafkaRecord, row = record.row := by
  cases label with
  | create worker record =>
    cases step
    rcases create_events (s := s) worker record with same | appended
    · rw [same, absent] at found
      cases found
    · rw [appended] at found
      rcases getElem?_append_cases found with ⟨-, new⟩ | old
      · exact ⟨record, new⟩
      · rw [absent] at old
        cases old
  | get worker event' =>
    simp only [next] at step
    split at step <;> cases step <;> rw [absent] at found <;> cases found
  | mark worker event' m now =>
    obtain ⟨loaded, stored, held, found', ⟨-, rfl⟩ | ⟨-, rfl⟩⟩ := mark_eq_some step
    · rcases getElem?_set_cases found with ⟨rfl, -⟩ | ⟨-, old⟩
      · rw [absent] at found'
        cases found'
      · rw [absent] at old
        cases old
    · rw [absent] at found
      cases found
  | refresh worker event' =>
    cases step
    rw [absent] at found
    cases found
  | claim worker batchSize claimed =>
    obtain ⟨-, -, none, -⟩ := claim_eq_some step
    rw [none event absent] at found
    cases found
  | expire worker event' =>
    cases step
    rw [absent] at found
    cases found

/-! ### The sessions -/

/-- Every object that a session holds is a copy of its row. -/
def HeldCopies (s : State) : Prop :=
  ∀ (w e : Nat) copy, s.held w e = some copy → ∃ row, s.events[e]? = some row ∧ Copies copy row

/-- Every row agrees with its status. -/
def AllConsistent (s : State) : Prop :=
  ∀ (e : Nat) row, s.events[e]? = some row → Consistent row

theorem HeldCopies.expired (inv : HeldCopies s) (worker : Nat) :
    HeldCopies { s with held := s.expired worker } := by
  intro w e copy held
  simp only [State.expired] at held
  split at held
  · cases held
  · exact inv w e copy held

/-- Loading a row gives a copy of it. -/
theorem HeldCopies.load (inv : HeldCopies s) (consistent : AllConsistent s) (worker event : Nat) :
    HeldCopies { s with held := s.hold worker event s.events[event]? } := by
  intro w e copy held
  simp only [State.hold] at held
  split at held
  · rename_i here
    obtain ⟨-, rfl⟩ := here
    exact ⟨copy, held, .refl (consistent e copy held)⟩
  · exact inv w e copy held

theorem HeldCopies.object (inv : HeldCopies s) (worker : Nat) (consistent : AllConsistent s) {row : ProcessedEvent}
    (found : s.events[event]? = some row) : Copies (s.object worker event row) row := by
  unfold State.object
  cases held : s.held worker event with
  | none => exact .refl (consistent event row found)
  | some copy =>
    obtain ⟨row', found', copies⟩ := inv worker event copy held
    obtain rfl := Option.some.inj (found'.symm.trans found)
    exact copies

/-- The UPDATEs of a step that is allowed are allowed; those of a claim always are. -/
theorem Updates.allowed (updates : Updates s label event loaded stored m now)
    (inv : HeldCopies s) (consistent : AllConsistent s) (ok : Allowed s label) :
    Copies loaded stored ∧ m.Allowed loaded stored := by
  cases updates with
  | mark held found fits =>
    obtain ⟨row, found', copies⟩ := inv _ _ _ held
    obtain rfl := Option.some.inj (found'.symm.trans found)
    exact ⟨copies, ok fits _ _ held found⟩
  | claim found pending mem =>
    exact ⟨inv.object _ consistent found, (inv.object _ consistent found).claimable pending⟩

/-- A copy stays one over a step that is allowed. -/
theorem copies_after {copy : ProcessedEvent} (inv : HeldCopies s) (consistent : AllConsistent s)
    (ok : Allowed s label) (step : next s label = some s') (found : s.events[event]? = some row)
    (copies : Copies copy row) : ∃ row', s'.events[event]? = some row' ∧ Copies copy row' := by
  obtain ⟨row', found', rfl | ⟨loaded, m, now, updates, rfl⟩⟩ := next_row step found
  · exact ⟨row', found', copies⟩
  · obtain ⟨loadedCopies, allowed⟩ := updates.allowed inv consistent ok
    have keeps := (keeps_flush_iff (consistent event row found) loadedCopies m now).mpr allowed
    exact ⟨_, found', copies.keeps keeps (status_flush_ne_pending loadedCopies m now)⟩

theorem consistent_row (record : KafkaRecord) : Consistent record.row := by
  constructor <;> simp [KafkaRecord.row]

theorem held_create (inv : HeldCopies s) (consistent : AllConsistent s) (worker : Nat)
    (record : KafkaRecord) : HeldCopies (create s worker record) := by
  unfold create
  split
  · exact inv.expired worker
  · split
    · exact (inv.expired worker).load consistent worker _
    · intro w e copy held
      simp only [State.hold] at held
      split at held
      · rename_i here
        obtain ⟨-, rfl⟩ := here
        obtain rfl := Option.some.inj held
        exact ⟨record.row, by simp, .refl (consistent_row record)⟩
      · obtain ⟨row, found, copies⟩ := inv w e copy held
        exact ⟨row, getElem?_append_of_some found, copies⟩

/-- The older copies of a session stay copies over a step that is allowed. -/
theorem HeldCopies.after (inv : HeldCopies s) (consistent : AllConsistent s) (ok : Allowed s label)
    (step : next s label = some s') {w e : Nat} {copy : ProcessedEvent}
    (held : s.held w e = some copy) : ∃ row, s'.events[e]? = some row ∧ Copies copy row := by
  obtain ⟨row, found, copies⟩ := inv w e copy held
  exact copies_after inv consistent ok step found copies

theorem held_mark (inv : HeldCopies s) (consistent : AllConsistent s)
    (ok : Allowed s (.mark worker event m now))
    (step : next s (.mark worker event m now) = some s') : HeldCopies s' := by
  have older := @HeldCopies.after s s' (.mark worker event m now) inv consistent ok step
  obtain ⟨loaded, stored, held, found, ⟨fits, rfl⟩ | ⟨-, rfl⟩⟩ := mark_eq_some step
  · intro w e copy held'
    simp only [State.hold] at held'
    split at held'
    · rename_i here
      obtain ⟨-, rfl⟩ := here
      obtain rfl := Option.some.inj held'
      obtain ⟨copies, allowed⟩ :=
        (Updates.mark held found fits : Updates s (.mark worker e m now) e _ _ m now).allowed
          inv consistent ok
      exact ⟨_, getElem?_set_of_some found, copies.apply allowed now⟩
    · exact older held'
  · exact inv.expired worker

theorem held_claim (inv : HeldCopies s) (consistent : AllConsistent s) {batchSize : Nat}
    {claimed : List Nat} (step : next s (.claim worker batchSize claimed) = some s') :
    HeldCopies s' := by
  have older := @HeldCopies.after s s' (.claim worker batchSize claimed) inv consistent trivial step
  obtain ⟨pending, events, -, objects⟩ := claim_eq_some step
  intro w e copy held'
  rw [objects] at held'
  split at held'
  · rename_i here
    obtain ⟨stored, found, status⟩ := pending e here.2
    rw [found] at held'
    obtain rfl := Option.some.inj held'
    have copies := inv.object worker consistent found
    have found' := events e stored found
    rw [if_pos here.2] at found'
    exact ⟨_, found', copies.apply (copies.claimable status) 0⟩
  · exact older held'

/-- Sessions hold copies, as long as the steps are allowed. -/
theorem held_step (inv : HeldCopies s) (consistent : AllConsistent s) (ok : Allowed s label)
    (step : next s label = some s') : HeldCopies s' := by
  cases label with
  | create worker record =>
    cases step
    exact held_create inv consistent worker record
  | get worker event =>
    simp only [next] at step
    split at step
    · cases step
      exact inv
    · cases step
      exact inv.load consistent worker event
  | mark worker event m now => exact held_mark inv consistent ok step
  | refresh worker event =>
    cases step
    exact inv.load consistent worker event
  | claim worker batchSize claimed => exact held_claim inv consistent step
  | expire worker event =>
    cases step
    intro w e copy held'
    simp only [State.hold] at held'
    split at held'
    · cases held'
    · exact inv w e copy held'

/-! ### All steps -/

theorem statusAt_of_some (found : s.events[event]? = some row) :
    statusAt s event = some row.status := by
  rw [statusAt, found, Option.map_some]

theorem enters_iff (found : s.events[event]? = some row) (found' : s'.events[event]? = some row') :
    enters event s s' = true ↔ row'.status = .processing ∧ row.status ≠ .processing := by
  simp [enters, statusAt_of_some found, statusAt_of_some found']

/-- An event that is not there yet has made no transition. -/
theorem transitions_of_absent (run : Run next {} history s) (absent : s.events[event]? = none) :
    transitions event history s = 0 := by
  induction run with
  | init => rfl
  | snoc run step ih =>
    rename_i s s' label
    have before : s.events[event]? = none := by
      cases found : s.events[event]? with
      | none => rfl
      | some row =>
        obtain ⟨row', found', -⟩ := next_row step found
        exact absurd (absent.symm.trans found') (by simp)
    rw [transitions, ih before]
    simp [enters, statusAt, absent]

/-- The lifecycle goes on exactly when every row is kept. -/
theorem lifecycle_cons (run : Run next {} history s) (inv : Lifecycle history s)
    (step : next s label = some s') : Lifecycle ((s, label) :: history) s' ↔
      ∀ (event : Nat) row row', s.events[event]? = some row → s'.events[event]? = some row' →
        Keeps row row' := by
  have counts : ∀ {event : Nat} {row row'}, s.events[event]? = some row →
      s'.events[event]? = some row' → transitions event ((s, label) :: history) s' =
        row.processingAttempts +
          if row'.status = .processing ∧ row.status ≠ .processing then 1 else 0 := by
    intro event row row' found found'
    rw [transitions, ← inv.attempts event row found]
    simp only [enters_iff found found']
  constructor
  · intro after event row row' found found'
    refine ⟨after.consistent event row' found', fun final => ?_, ?_⟩
    · obtain ⟨row'', found'', same⟩ := after.final (s, label) (.head _) event row found final
      obtain rfl := Option.some.inj (found'.symm.trans found'')
      exact same
    · rw [after.attempts event row' found', counts found found']
  · intro keeps
    constructor
    · intro event row' found'
      cases found : s.events[event]? with
      | none =>
        obtain ⟨record, rfl⟩ := next_new step found found'
        exact consistent_row record
      | some row => exact (keeps event row row' found found').consistent
    · intro entry mem event before found final
      -- the row has kept the status up to this step, and keeps it now
      have reached : ∃ row, s.events[event]? = some row ∧ row.status = before.status := by
        rcases List.mem_cons.mp mem with rfl | earlier
        · exact ⟨before, found, rfl⟩
        · exact inv.final entry earlier event before found final
      obtain ⟨row, found, same⟩ := reached
      obtain ⟨row', found', -⟩ := next_row step found
      exact ⟨row', found', ((keeps event row row' found found').final (same ▸ final)).trans same⟩
    · intro event row' found'
      cases found : s.events[event]? with
      | none =>
        obtain ⟨record, rfl⟩ := next_new step found found'
        rw [transitions, transitions_of_absent run found]
        simp [enters, statusAt, found', KafkaRecord.row]
      | some row => rw [counts found found', (keeps event row row' found found').attempts]

/-- A step goes on with the lifecycle exactly when it is allowed. -/
theorem lifecycle_step (run : Run next {} history s) (inv : Lifecycle history s)
    (held : HeldCopies s) (step : next s label = some s') :
    Lifecycle ((s, label) :: history) s' ↔ Allowed s label := by
  rw [lifecycle_cons run inv step]
  constructor
  · intro keeps
    cases label with
    | mark worker event m now =>
      intro fits loaded stored loading found
      obtain ⟨row, found', copies⟩ := held worker event loaded loading
      obtain rfl := Option.some.inj (found'.symm.trans found)
      obtain ⟨loaded', stored', loading', found'', ⟨-, rfl⟩ | ⟨unfit, -⟩⟩ := mark_eq_some step
      · obtain rfl := Option.some.inj (loading'.symm.trans loading)
        obtain rfl := Option.some.inj (found''.symm.trans found)
        exact (keeps_flush_iff (inv.consistent event _ found) copies m now).mp
          (keeps event _ _ found (getElem?_set_of_some found))
      · rw [fits] at unfit
        cases unfit
    | _ => trivial
  · intro ok event row row' found found'
    obtain ⟨row'', found'', rfl | ⟨loaded, m, now, updates, rfl⟩⟩ := next_row step found
    · obtain rfl := Option.some.inj (found'.symm.trans found'')
      exact .refl (inv.consistent event _ found)
    · obtain rfl := Option.some.inj (found'.symm.trans found'')
      obtain ⟨copies, allowed⟩ := updates.allowed held inv.consistent ok
      exact (keeps_flush_iff (inv.consistent event row found) copies m now).mpr allowed

theorem lifecycle_start : Lifecycle [] {} := by
  constructor <;> simp

/-- **The lifecycle of processed events.** In every run it holds in all committed states exactly
when every mark that is committed is allowed. -/
theorem lifecycle_throughout_iff (run : Run next {} history s) :
    Throughout Lifecycle history s ↔ Meets (fun _ => Allowed) history :=
  run.throughout_iff_meets_with (I := fun _ => HeldCopies) (fun _ _ _ held => by cases held)
    lifecycle_start (fun held lifecycle ok step => held_step held lifecycle.consistent ok step)
    fun before held lifecycle step => lifecycle_step before lifecycle held step

/-! ### A late failure -/

def observationCreated : KafkaRecord where
  kafkaTopic := "observations.events"
  kafkaPartition := 0
  kafkaOffset := 7
  idempotencyKey := "evt-1"
  eventType := "observation.created"
  payload := .object []

/-- Worker 1 reports a failure after worker 0 has completed the event. -/
def lateFailure : List Label :=
  [.create 0 observationCreated, .get 1 0, .claim 0 1 [0], .mark 0 0 .completed 5, .refresh 0 0,
    .mark 1 0 (.failed "timeout" none) 6, .refresh 1 0]

/-- The event was completed, and is failed with a time of processing. -/
theorem completed_then_failed : ∃ history s, Run next {} history s ∧
    s.events.map (fun row => (row.status, row.processedAt)) = [(.failed, some 5)] ∧
    ¬ Throughout Lifecycle history s := by
  obtain ⟨history, run⟩ :=
    run_of_isSome (show (finalState next {} lateFailure).isSome = true by decide)
  refine ⟨history, _, run, by decide, fun all => ?_⟩
  obtain ⟨row, found, failed, processed⟩ : ∃ row,
      ((finalState next {} lateFailure).get (by decide)).events[0]? = some row ∧
        row.status ≠ .completed ∧ row.processedAt.isSome = true :=
    ⟨_, rfl, by decide, by decide⟩
  exact failed ((all.here.consistent 0 row found).processed.mp processed)

/-- A worker that claims an event, fails, takes it up again and completes it. -/
theorem lifecycle_retried : ∃ history s, Run next {} history s ∧
    s.events.map (fun row => (row.status, row.processingAttempts)) = [(.completed, 2)] ∧
    (Throughout Lifecycle history s ↔ Meets (fun _ => Allowed) history) := by
  obtain ⟨history, run⟩ := run_of_isSome (show (finalState next {}
    [.create 0 observationCreated, .claim 0 1 [0], .mark 0 0 (.failed "timeout" none) 5,
      .refresh 0 0, .mark 0 0 .processing 6, .refresh 0 0, .mark 0 0 .completed 7]).isSome = true
    by decide)
  exact ⟨history, _, run, by decide, lifecycle_throughout_iff run⟩

end ApiObservatory.EventStorage
