import ApiObservatory.Foundation.Run
import ApiObservatory.Platform.BackgroundWorkers
import ApiObservatory.Repositories.Observations
import ApiObservatory.Time

/-
Batch ingestion (`services/ingestor/jobs/ingestion.py`), called directly and by the default
processor of the background workers (`services/ingestor/core/background_workers.py`), with the
tracker of idempotency keys (`libs/platform/retry.py`).

A call runs without a suspension up to the insert of its batch: it asks the tracker for its key
and marks it. The insert ends in a later step, so calls overlap. Other requests may write to the
table and to the sources in between.
-/

namespace ApiObservatory.Ingestion

open Foundation
open BackgroundWorkerPool (TaskState)

/-! ### `IdempotencyKeyTracker` -/

structure IdempotencyKeyTracker where
  seen : String → Option Int := fun _ => none
  ttlSeconds : Int := 3600

namespace IdempotencyKeyTracker

variable (tracker : IdempotencyKeyTracker) (key : String) (now : Int)

/-- The key was marked and has not expired. -/
def live : Bool := (tracker.seen key).any fun marked => decide (now - marked ≤ seconds tracker.ttlSeconds)

/-- `is_duplicate`; an expired key is removed. -/
def isDuplicate : Bool × IdempotencyKeyTracker :=
  match tracker.seen key with
  | none => (false, tracker)
  | some marked =>
      if seconds tracker.ttlSeconds < now - marked then
        (false, { tracker with seen := Function.update tracker.seen key none })
      else (true, tracker)

/-- `mark_seen`. -/
def markSeen : IdempotencyKeyTracker :=
  { tracker with seen := Function.update tracker.seen key (some now) }

theorem isDuplicate_fst : (tracker.isDuplicate key now).1 = tracker.live key now := by
  unfold isDuplicate live
  cases tracker.seen key with
  | none => rfl
  | some marked =>
    simp only [Option.any_some]
    split
    · rename_i expired
      exact (decide_eq_false (not_le.mpr expired)).symm
    · rename_i kept
      exact (decide_eq_true (not_lt.mp kept)).symm

end IdempotencyKeyTracker

/-! ### One call -/

/-- The `first_error` of a result: a text, or the text of an exception of the repository. -/
inductive FirstError where
  | text (text : String)
  | raised (error : ObservationError)
deriving DecidableEq

/-- What `ingest_api_batch` returns. -/
structure BatchResult where
  inserted : Nat
  errors : Nat
  firstError : Option FirstError
deriving DecidableEq

/-- A call at its insert. -/
structure Call where
  session : Session
  requests : List ObservationRequest
  /-- A background worker made it. -/
  task : Bool
deriving DecidableEq

structure State where
  db : ObservationDb
  tracker : IdempotencyKeyTracker := {}
  calls : List Call := []

/-- How an insert ends against its will: with an exception that is caught, or with one that
cancels the call. Nothing is committed. -/
inductive Fault where
  | raised (text : String)
  | cancelled
deriving DecidableEq

/-- What the caller sees of a call that has ended. -/
inductive Report where
  | answer (result : BatchResult)
  | task (status : TaskState) (result : Option BatchResult)
deriving DecidableEq

/-- The report of a success. -/
def Report.success : Report → Bool
  | .answer result => result.errors == 0
  | .task status _ => status == .succeeded

/-- The report of a result: a worker takes each for a success. -/
def Call.report (call : Call) (result : BatchResult) : Report :=
  if call.task then .task .succeeded (some result) else .answer result

def Call.cancelled (call : Call) : Option Report :=
  if call.task then some (.task .cancelled none) else none

/-- The key of a batch: its prefix and its length. -/
def batchKey (idempotencyKeyPrefix : Option String) (requests : List ObservationRequest) :
    Option String :=
  match idempotencyKeyPrefix with
  | none => none
  | some idempotencyKeyPrefix =>
      if idempotencyKeyPrefix = "" then none
      else some s!"{idempotencyKeyPrefix}:{requests.length}"

/-- `datetime.now(UTC).date()`: year, month and day of a clock time. -/
def utcDate (now : Int) : Int × Int × Int :=
  -- days from 0000-03-01, so that the leap day ends a year
  let days := now / seconds 86400 + 719468
  let era := days / 146097
  let dayOfEra := days % 146097
  let yearOfEra := (dayOfEra - dayOfEra / 1460 + dayOfEra / 36524 - dayOfEra / 146096) / 365
  let dayOfYear := dayOfEra - (365 * yearOfEra + yearOfEra / 4 - yearOfEra / 100)
  let shifted := (5 * dayOfYear + 2) / 153
  let day := dayOfYear - (153 * shifted + 2) / 5 + 1
  let month := if shifted < 10 then shifted + 3 else shifted - 9
  (yearOfEra + era * 400 + (if month ≤ 2 then 1 else 0), month, day)

/-- A number with at least `width` digits. -/
def padded (width : Nat) (value : Int) : String :=
  let digits := (Nat.toDigits 10 value.toNat)
  String.ofList (List.replicate (width - digits.length) '0' ++ digits)

/-- The prefix of the default processor. -/
def dailyPrefix (now : Int) : String :=
  let (year, month, day) := utcDate now
  s!"bg-batch-{padded 4 year}-{padded 2 month}-{padded 2 day}"

example : dailyPrefix 1709164800000000 = "bg-batch-2024-02-29" := by decide

section Steps

variable (state : State)

/-- `ingest_api_batch` up to its insert; a duplicate is answered at once. -/
def enter (call : Call) (idempotencyKeyPrefix : Option String) (now : Int) :
    State × Option BatchResult :=
  match batchKey idempotencyKeyPrefix call.requests with
  | none => ({ state with calls := state.calls ++ [call] }, none)
  | some key =>
      match state.tracker.isDuplicate key now with
      | (true, tracker) =>
          ({ state with tracker },
            some ⟨0, 0, some (.text "Batch already processed (duplicate key)")⟩)
      | (false, tracker) =>
          ({ state with tracker := tracker.markSeen key now, calls := state.calls ++ [call] }, none)

/-- The end of the insert, and of the call; a cancelled call has no result. -/
def insertBatch (call : Call) (fault : Option Fault) (now : Int) :
    ObservationDb × Option BatchResult :=
  match fault with
  | some .cancelled => (state.db, none)
  | some (.raised text) =>
      (state.db, some ⟨0, call.requests.length, some (.text text)⟩)
  | none =>
      match createObservations call.session state.db call.requests now with
      | (db, .ok ()) => (db, some ⟨call.requests.length, 0, none⟩)
      | (db, .error error) => (db, some ⟨0, call.requests.length, some (.raised error)⟩)

end Steps

inductive Label where
  /-- A call of `ingest_api_batch`. -/
  | call (session : Session) (idempotencyKeyPrefix : Option String)
      (requests : List ObservationRequest) (now : Int)
  /-- `_default_processor` on a batch that a worker has taken. -/
  | process (session : Session) (requests : List ObservationRequest) (now : Int)
  /-- The insert of a call ends. -/
  | insert (index : Nat) (fault : Option Fault) (now : Int)
  /-- Another request has committed. -/
  | other (db : ObservationDb)

/-- One step, with the batch and the report of a call that ends in it. -/
def step (state : State) : Label → Option (State × Option (List ObservationRequest × Report))
  | .call session idempotencyKeyPrefix requests now =>
      let call : Call := { session, requests, task := false }
      let (state, result) := enter state call idempotencyKeyPrefix now
      some (state, result.map fun result => (requests, call.report result))
  | .process session requests now =>
      let call : Call := { session, requests, task := true }
      let (state, result) := enter state call (some (dailyPrefix now)) now
      some (state, result.map fun result => (requests, call.report result))
  | .insert index fault now =>
      state.calls[index]?.map fun call =>
        let (db, result) := insertBatch state call fault now
        ({ state with db, calls := state.calls.eraseIdx index },
          ((result.map call.report).or call.cancelled).map fun report => (call.requests, report))
  | .other db => some ({ state with db }, none)

def next (state : State) (label : Label) : Option State := (step state label).map Prod.fst

/-- The report of the call that ends in a step. -/
def reported (state : State) (label : Label) : Option (List ObservationRequest × Report) :=
  (step state label).bind Prod.snd

/-! ### What a success promises -/

/-- The row of a request. -/
structure RowOf (db : ObservationDb) (request : ObservationRequest) (row : Observation) : Prop where
  source : resolveSourceId db request.source = .ok row.sourceId
  timestamp : row.timestamp = request.timestamp
  rawData : row.rawData = request.data
  tags : row.tags = request.tags

/-- The step ends the insert of a call for the batch, and a request of the batch has a new row. -/
def Inserts (requests : List ObservationRequest) (request : ObservationRequest) (state : State)
    (label : Label) : Prop :=
  ∃ index fault now call state', label = .insert index fault now ∧
    state.calls[index]? = some call ∧ call.requests = requests ∧ next state label = some state' ∧
    ∃ id row, state.db.observations.get id = none ∧ state'.db.observations.get id = some row ∧
      RowOf state.db request row

/-- Calls for the batch have inserted all of it. -/
def Ingested (history : List (State × Label)) (requests : List ObservationRequest) : Prop :=
  ∀ request ∈ requests, ∃ entry ∈ history, Inserts requests request entry.1 entry.2

/-- A reported success is one of this call or of earlier ones for the same batch. -/
def Honest (history : List (State × Label)) (state : State) (label : Label) : Prop :=
  ∀ requests report, reported state label = some (requests, report) → report.success = true →
    Ingested ((state, label) :: history) requests

/-- The key of a batch is live. -/
def Skipped (state : State) (idempotencyKeyPrefix : Option String)
    (requests : List ObservationRequest) (now : Int) : Prop :=
  ∃ key, batchKey idempotencyKeyPrefix requests = some key ∧ state.tracker.live key now = true

/-- The insert of a batch is refused: an exception, an unknown source or a taken key. -/
def Refused (state : State) (call : Call) (fault : Option Fault) (now : Int) : Prop :=
  match fault with
  | some .cancelled => False
  | some (.raised _) => True
  | none => ∀ rows, newRows call.session state.db call.requests now = .ok rows →
      (insertAll rows state.db.observations).2 = false

/-- A batch that no earlier call has inserted is not skipped, and a worker's insert of it is not
refused. -/
def Kept (history : List (State × Label)) (state : State) : Label → Prop
  | .call _ idempotencyKeyPrefix requests now =>
      Skipped state idempotencyKeyPrefix requests now → Ingested history requests
  | .process _ requests now =>
      Skipped state (some (dailyPrefix now)) requests now → Ingested history requests
  | .insert index fault now => ∀ call, state.calls[index]? = some call → call.task = true →
      Refused state call fault now → Ingested history call.requests
  | .other _ => True

/-! ### One step -/

variable {history : List (State × Label)} {state state' : State}

/-- A step that inserts nothing leaves what has been ingested. -/
theorem ingested_cons_iff {label : Label} {requests : List ObservationRequest}
    (none : ∀ request, ¬ Inserts requests request state label) :
    Ingested ((state, label) :: history) requests ↔ Ingested history requests := by
  refine forall₂_congr fun request _ => ?_
  rw [List.exists_mem_cons_iff]
  exact or_iff_right (none request)

theorem not_inserts_of_frame {label : Label} {requests : List ObservationRequest}
    (step : next state label = some state')
    (frame : state'.db.observations.get = state.db.observations.get) (request : ObservationRequest) :
    ¬ Inserts requests request state label := by
  rintro ⟨-, -, -, -, _, -, -, -, same, id, row, free, stored, -⟩
  cases step.symm.trans same
  rw [frame, free] at stored
  cases stored

/-- A batch is answered at once exactly when its key is live. -/
theorem enter_cases (state : State) (call : Call) (idempotencyKeyPrefix : Option String) (now : Int) :
    (Skipped state idempotencyKeyPrefix call.requests now ∧
      (enter state call idempotencyKeyPrefix now).2 =
        some ⟨0, 0, some (.text "Batch already processed (duplicate key)")⟩) ∨
    (¬ Skipped state idempotencyKeyPrefix call.requests now ∧
      (enter state call idempotencyKeyPrefix now).2 = none) := by
  unfold enter Skipped
  cases batchKey idempotencyKeyPrefix call.requests with
  | none => exact .inr ⟨by simp, rfl⟩
  | some key =>
    have live := state.tracker.isDuplicate_fst key now
    cases checked : state.tracker.isDuplicate key now with
    | mk duplicate tracker =>
      rw [checked] at live
      cases duplicate with
      | true => exact .inl ⟨⟨key, rfl, live.symm⟩, by simp only [checked]⟩
      | false =>
        refine .inr ⟨?_, by simp only [checked]⟩
        rintro ⟨other, same, isLive⟩
        cases same
        exact absurd (live.trans isLive) Bool.false_ne_true

/-- A success that is reported when a call comes is one of a skipped batch. -/
theorem honest_enter (call : Call) {label : Label} {idempotencyKeyPrefix : Option String} {now : Int}
    (answered : reported state label = ((enter state call idempotencyKeyPrefix now).2.map fun result =>
      (call.requests, call.report result)))
    (quiet : ∀ request, ¬ Inserts call.requests request state label) :
    Honest history state label ↔
      (Skipped state idempotencyKeyPrefix call.requests now → Ingested history call.requests) := by
  unfold Honest
  rw [answered]
  rcases enter_cases state call idempotencyKeyPrefix now with ⟨skipped, result⟩ | ⟨fresh, result⟩
  · have success : (call.report ⟨0, 0, some (.text "Batch already processed (duplicate key)")⟩).success =
        true := by
      unfold Call.report
      split <;> rfl
    rw [result]
    constructor
    · intro honest _
      exact (ingested_cons_iff quiet).mp (honest _ _ rfl success)
    · intro kept requests report same _
      cases same
      exact (ingested_cons_iff quiet).mpr (kept skipped)
  · rw [result]
    exact iff_of_true (fun _ _ same => by cases same) fun skipped => absurd skipped fresh

/-! ### The end of an insert -/

section Insert

variable {index : Nat} {fault : Option Fault} {now : Int} {call : Call}

theorem next_insert (found : state.calls[index]? = some call) :
    next state (.insert index fault now) = some
      { state with db := (insertBatch state call fault now).1, calls := state.calls.eraseIdx index } := by
  simp [next, step, found]

theorem reported_insert (found : state.calls[index]? = some call) :
    reported state (.insert index fault now) =
      (((insertBatch state call fault now).2.map call.report).or call.cancelled).map fun report =>
        (call.requests, report) := by
  simp [reported, step, found]

/-- A result of an insert that failed: only a worker reports a success. -/
theorem honest_failed {firstError : Option FirstError} (found : state.calls[index]? = some call)
    (frame : (insertBatch state call fault now).1.observations.get = state.db.observations.get)
    (result : (insertBatch state call fault now).2 = some ⟨0, call.requests.length, firstError⟩) :
    Honest history state (.insert index fault now) ↔
      (call.task = true → Ingested history call.requests) := by
  have quiet : Ingested ((state, .insert index fault now) :: history) call.requests ↔
      Ingested history call.requests :=
    ingested_cons_iff (not_inserts_of_frame (next_insert found) frame)
  unfold Honest
  rw [reported_insert found, result]
  cases task : call.task with
  | true =>
    constructor
    · exact fun honest _ => quiet.mp (honest _ _ rfl (by simp [Call.report, task, Report.success]))
    · intro kept requests report same _
      cases same
      exact quiet.mpr (kept rfl)
  | false =>
    refine iff_of_true ?_ (fun isTask => by cases isTask)
    intro requests report same success
    cases same
    have empty : call.requests = [] := by simpa [Call.report, task, Report.success] using success
    intro request mem
    rw [empty] at mem
    cases mem

/-- The end of an insert, with what it promises. -/
theorem honest_insert (found : state.calls[index]? = some call) :
    Honest history state (.insert index fault now) ↔
      (call.task = true → Refused state call fault now → Ingested history call.requests) := by
  match fault with
  | some .cancelled =>
    refine iff_of_true ?_ (fun _ refused => refused.elim)
    intro requests report same success
    rw [reported_insert found] at same
    cases task : call.task <;> simp [insertBatch, Call.cancelled, task] at same
    rw [← same.2] at success
    cases success
  | some (.raised text) =>
    rw [honest_failed found rfl rfl]
    exact forall_congr' fun _ => ⟨fun kept _ => kept, fun kept => kept trivial⟩
  | none =>
    cases created : createObservations call.session state.db call.requests now with
    | mk db outcome =>
      cases outcome with
      | error error =>
        have refused : (createObservations call.session state.db call.requests now).2 = .error error := by
          rw [created]
        have frame := createObservations_error refused
        rw [created] at frame
        have result : insertBatch state call none now =
            (db, some ⟨0, call.requests.length, some (.raised error)⟩) := by
          simp only [insertBatch, created]
        rw [honest_failed found (by rw [result]; exact frame) (by rw [result])]
        have isRefused : Refused state call none now := createObservations_refused_iff.mp ⟨error, refused⟩
        exact forall_congr' fun _ => ⟨fun kept _ => kept, fun kept => kept isRefused⟩
      | ok outcome =>
        have done : (createObservations call.session state.db call.requests now).2 = .ok () := by
          rw [created]
        refine iff_of_true ?_ fun _ refused => ?_
        · intro requests report same _ request mem
          rw [reported_insert found] at same
          simp only [insertBatch, created, Option.map_some, Option.some_or, Option.some.injEq,
            Prod.mk.injEq] at same
          obtain ⟨rfl, -⟩ := same
          obtain ⟨sourceId, id, resolved, free, stored⟩ := createObservations_ok done request mem
          rw [created] at stored
          refine ⟨_, List.mem_cons_self, index, none, now, call, _, rfl, found, rfl, next_insert found, id,
            request.row call.session.tenantId now sourceId, free, ?_, resolved, rfl, rfl, rfl⟩
          simpa only [insertBatch, created] using stored
        · obtain ⟨error, failed⟩ := createObservations_refused_iff.mpr refused
          cases done.symm.trans failed

end Insert

/-! ### Runs -/

/-- **Nothing is dropped silently** in a run exactly when no batch that is not yet in the table
meets a live key, or is refused at a worker. -/
theorem honest_iff {start : State} (run : Run next start history state) :
    Meets Honest history ↔ Meets Kept history := by
  refine run.meets_congr fun {history state label state'} _ moved => ?_
  cases label with
  | call session idempotencyKeyPrefix requests now =>
    have frame : ∀ request, ¬ Inserts requests request state
        (.call session idempotencyKeyPrefix requests now) := by
      rintro request ⟨_, _, _, _, _, same, -⟩
      cases same
    exact honest_enter ⟨session, requests, false⟩ rfl frame
  | process session requests now =>
    have frame : ∀ request, ¬ Inserts requests request state (.process session requests now) := by
      rintro request ⟨_, _, _, _, _, same, -⟩
      cases same
    exact honest_enter ⟨session, requests, true⟩ rfl frame
  | insert index fault now =>
    cases found : state.calls[index]? with
    | none => simp [next, step, found] at moved
    | some call =>
      rw [honest_insert found, Kept, found]
      exact ⟨fun kept other same => Option.some.inj same ▸ kept, fun kept => kept call rfl⟩
  | other db => exact iff_of_true (fun _ _ same => by cases same) trivial

/-! ### Two batches of one size -/

def fresh : State where
  db :=
    { observations := .empty
      sources := .single 1 { id := 1, name := "feed", baseUrl := "https://feed", tenantId := none } }

def worker : Session := { tenantId := none }

/-- A batch of one reading. -/
def batch (timestamp : Int) : List ObservationRequest :=
  [{ source := "feed", timestamp, data := .object [] }]

def leapDay : Int := 1709164800000000

/-- The second batch of a day is skipped, and its task succeeds. -/
theorem second_batch_dropped : ∃ history state, Run next fresh history state ∧
    reported state (.process worker (batch 2000) leapDay) =
      some (batch 2000, .task .succeeded
        (some ⟨0, 0, some (.text "Batch already processed (duplicate key)")⟩)) ∧
    ¬ Honest history state (.process worker (batch 2000) leapDay) := by
  let taken := (next fresh (.process worker (batch 1000) leapDay)).get (by decide)
  let stored := (next taken (.insert 0 none leapDay)).get (by decide)
  have run : Run next fresh [(taken, .insert 0 none leapDay), (fresh, .process worker (batch 1000) leapDay)]
      stored :=
    (Run.init.snoc (Option.some_get _).symm).snoc (Option.some_get _).symm
  have report : reported stored (.process worker (batch 2000) leapDay) =
      some (batch 2000, .task .succeeded
        (some ⟨0, 0, some (.text "Batch already processed (duplicate key)")⟩)) := by decide
  refine ⟨_, stored, run, report, fun honest => ?_⟩
  obtain ⟨entry, mem, index, fault, now, call, _, label, found, requests, -⟩ :=
    honest _ _ report rfl _ List.mem_cons_self
  have calls : taken.calls.map Call.requests = [batch 1000] := by decide
  rcases List.mem_cons.mp mem with rfl | mem
  · cases label
  · rcases List.mem_cons.mp mem with rfl | mem
    · have known := List.mem_map_of_mem (f := Call.requests) (List.mem_of_getElem? found)
      rw [calls, requests] at known
      exact absurd known (by decide)
    · rw [List.mem_singleton.mp mem] at label
      cases label

/-- A batch that is submitted twice. -/
theorem honest_repeated : ∃ history state, Run next fresh history state ∧ history.length = 3 ∧
    (Meets Honest history ↔ Meets Kept history) := by
  obtain ⟨history, run, labels⟩ := run_of_isSome_labels (show (finalState next fresh
    [.process worker (batch 1000) leapDay, .insert 0 none leapDay,
      .process worker (batch 1000) leapDay]).isSome = true by decide)
  have length := congrArg List.length labels
  rw [List.length_map] at length
  exact ⟨history, _, run, length, honest_iff run⟩

end ApiObservatory.Ingestion
