import ApiObservatory.Jobs.Ingestion
import ApiObservatory.Observations.Responses

/-
Retries of an ingestion under its idempotency key (`services/ingestor/jobs/ingestion.py`,
`libs/platform/retry.py`).

`ingest_api_single` and `ingest_api_batch` share one tracker. Each asks it for its key and marks the
key before the insert, and neither takes the mark back when the insert fails. A call runs without a
suspension up to its insert, which ends in a later step, so calls overlap.
-/

namespace ApiObservatory.IngestionRetries

open Foundation
open Ingestion (IdempotencyKeyTracker BatchResult FirstError Fault RowOf batchKey)
open Responses (createObservation createObservation_eq)

/-! ### The two functions -/

/-- A call: the function with its arguments. -/
inductive Job where
  | single (request : ObservationRequest) (idempotencyKey : Option String)
  | batch (requests : List ObservationRequest) (idempotencyKeyPrefix : Option String)
deriving DecidableEq

namespace Job

/-- The key that the tracker is asked for; an empty text is no key. -/
def key : Job → Option String
  | .single _ idempotencyKey => idempotencyKey.filter (· ≠ "")
  | .batch requests idempotencyKeyPrefix => batchKey idempotencyKeyPrefix requests

def requests : Job → List ObservationRequest
  | .single request _ => [request]
  | .batch requests _ => requests

end Job

/-- How a call ends: an exception of `ingest_api_single`, or what the function returns. -/
inductive Reply where
  | raised (error : FirstError)
  | observation (created : Option (Nat × Observation))
  | result (answer : BatchResult)
deriving DecidableEq

/-- `ingest_api_single` raises, or `ingest_api_batch` returns errors. -/
def Reply.failed : Reply → Bool
  | .raised _ => true
  | .observation _ => false
  | .result answer => decide (0 < answer.errors)

/-- The reply to a duplicate. -/
def Job.duplicate : Job → Reply
  | .single .. => .observation none
  | .batch .. => .result ⟨0, 0, some (.text "Batch already processed (duplicate key)")⟩

/-- A call at its insert. -/
structure Call where
  session : Session
  job : Job
  /-- When it came, and marked its key. -/
  began : Int
deriving DecidableEq

structure State where
  db : ObservationDb
  tracker : IdempotencyKeyTracker
  calls : List Call := []

/-- A fault of a call at its insert. -/
structure Interruption where
  fault : Fault
  /-- It comes after the commit: from the refresh of the row, from the query for the name of its
  source, or because the answer to the commit was lost. -/
  committed : Bool := false

/-- Both functions up to the insert; a duplicate is answered at once. -/
def enter (state : State) (session : Session) (job : Job) (now : Int) : State × Option Reply :=
  match job.key with
  | none => ({ state with calls := state.calls ++ [⟨session, job, now⟩] }, none)
  | some key =>
      match state.tracker.isDuplicate key now with
      | (true, tracker) => ({ state with tracker }, some job.duplicate)
      | (false, tracker) =>
          ({ state with
              tracker := tracker.markSeen key now
              calls := state.calls ++ [⟨session, job, now⟩] }, none)

/-- The insert, and the reply to it. -/
def insert (session : Session) (db : ObservationDb) (now : Int) : Job → ObservationDb × Reply
  | .single request _ =>
      match createObservation session now db request with
      | (db, .ok observation) => (db, .observation (some observation))
      | (db, .error error) => (db, .raised (.raised error))
  | .batch requests _ =>
      match createObservations session db requests now with
      | (db, .ok ()) => (db, .result ⟨requests.length, 0, none⟩)
      | (db, .error error) => (db, .result ⟨0, requests.length, some (.raised error)⟩)

/-- The reply to an exception; a cancelled call has none. -/
def Job.faulted : Job → Fault → Option Reply
  | _, .cancelled => none
  | .single .., .raised text => some (.raised (.text text))
  | .batch requests _, .raised text => some (.result ⟨0, requests.length, some (.text text)⟩)

/-- The end of the insert, and of the call. -/
def finish (db : ObservationDb) (call : Call) (interruption : Option Interruption) (now : Int) :
    ObservationDb × Option Reply :=
  match interruption with
  | none => ((insert call.session db now call.job).1, some (insert call.session db now call.job).2)
  | some ⟨fault, false⟩ => (db, call.job.faulted fault)
  | some ⟨fault, true⟩ =>
      match insert call.session db now call.job with
      | (db, reply) => (db, if reply.failed then some reply else call.job.faulted fault)

inductive Label where
  /-- A call comes. -/
  | enter (session : Session) (job : Job) (now : Int)
  /-- The insert of a call ends. -/
  | finish (index : Nat) (interruption : Option Interruption) (now : Int)
  /-- Another request has committed. -/
  | other (db : ObservationDb)

def next (state : State) : Label → Option State
  | .enter session job now => some (enter state session job now).1
  | .finish index interruption now =>
      state.calls[index]?.map fun call =>
        { state with
          db := (finish state.db call interruption now).1
          calls := state.calls.eraseIdx index }
  | .other db => some { state with db }

/-! ### What a key promises -/

/-- Each request has got a new row. -/
def Stored (db after : ObservationDb) (requests : List ObservationRequest) : Prop :=
  ∀ request ∈ requests, ∃ id row, db.observations.get id = none ∧
    after.observations.get id = some row ∧ RowOf db request row

/-- The insert of a call has ended so. -/
def Ended (history : List (State × Label))
    (how : ObservationDb → Call → ObservationDb × Option Reply → Prop) : Prop :=
  ∃ entry ∈ history, ∃ index interruption now call, entry.2 = .finish index interruption now ∧
    entry.1.calls[index]? = some call ∧ how entry.1.db call (finish entry.1.db call interruption now)

/-- The same call has failed. -/
def Failed (history : List (State × Label)) (job : Job) : Prop :=
  Ended history fun _ call outcome => call.job = job ∧ ∃ reply ∈ outcome.2, reply.failed = true

/-- The same call has inserted its observations, and came at most `ttl_seconds` ago. -/
def InsertedWithin (ttlSeconds : Int) (history : List (State × Label)) (job : Job) (now : Int) : Prop :=
  Ended history fun db call outcome =>
    call.job = job ∧ Stored db outcome.1 job.requests ∧ now - call.began ≤ seconds ttlSeconds

/-- The sources are known and no key of the table is taken. -/
def Accepts (session : Session) (db : ObservationDb) (requests : List ObservationRequest) (now : Int) :
    Prop :=
  ∃ rows, newRows session db requests now = .ok rows ∧ (insertAll rows db.observations).2 = true

/-- The call goes on to its insert. -/
def Proceeds (state : State) (session : Session) (job : Job) (now : Int) : Prop :=
  (enter state session job now).2 = none ∧
    (enter state session job now).1.calls = state.calls ++ [⟨session, job, now⟩]

/-- A call with a key that has failed can be made again, one that has inserted is a no-op when it is
made again within `ttl_seconds`, and an insert that the database accepts stores the observations. -/
def Lawful (history : List (State × Label)) (state : State) : Label → Prop
  | .enter session job now => job.key.isSome →
      (Failed history job → ¬ InsertedWithin state.tracker.ttlSeconds history job now →
        Proceeds state session job now) ∧
      (InsertedWithin state.tracker.ttlSeconds history job now →
        enter state session job now = (state, some job.duplicate))
  | .finish index interruption now => ∀ call, state.calls[index]? = some call →
      (∀ fault, interruption ≠ some ⟨fault, false⟩) →
      Accepts call.session state.db call.job.requests now →
      Stored state.db (finish state.db call interruption now).1 call.job.requests
  | .other _ => True

/-! ### The marks of a key -/

/-- A call that has begun its insert. -/
def Begun (history : List (State × Label)) (state : State) (call : Call) : Prop :=
  call ∈ state.calls ∨ ∃ entry ∈ history, call ∈ entry.1.calls

/-- The key was marked at a time: by a call, or before the first of them. -/
def Marked (tracker : IdempotencyKeyTracker) (history : List (State × Label)) (state : State)
    (key : String) (marked : Int) : Prop :=
  tracker.seen key = some marked ∨
    ∃ call, Begun history state call ∧ call.job.key = some key ∧ call.began = marked

/-- The tracker keeps the last mark of every key. -/
structure Tracks (initial : IdempotencyKeyTracker) (history : List (State × Label)) (state : State) :
    Prop where
  ttlSeconds : state.tracker.ttlSeconds = initial.ttlSeconds
  seen : ∀ key latest, state.tracker.seen key = some latest → Marked initial history state key latest
  latest : ∀ key marked, Marked initial history state key marked →
    ∃ latest, state.tracker.seen key = some latest ∧ marked ≤ latest

/-- A call that has failed, and that no call like it has inserted within `ttl_seconds`, is made again
only when more than `ttl_seconds` have passed since the last mark of its key. -/
def Waits (initial : IdempotencyKeyTracker) (history : List (State × Label)) (state : State) :
    Label → Prop
  | .enter _ job now => ∀ key, job.key = some key → Failed history job →
      ¬ InsertedWithin initial.ttlSeconds history job now →
      ∀ marked, Marked initial history state key marked → seconds initial.ttlSeconds < now - marked
  | _ => True

/-! ### One call -/

section Calls

variable {state : State} {session : Session} {job : Job} {now : Int}

theorem isDuplicate_of_live {tracker : IdempotencyKeyTracker} {key : String}
    (live : tracker.live key now = true) : tracker.isDuplicate key now = (true, tracker) := by
  have duplicate := (tracker.isDuplicate_fst key now).trans live
  unfold IdempotencyKeyTracker.isDuplicate at duplicate ⊢
  cases seen : tracker.seen key with
  | none => simp [seen] at duplicate
  | some marked =>
    simp only [seen] at duplicate ⊢
    by_cases expired : seconds tracker.ttlSeconds < now - marked
    · simp [expired] at duplicate
    · rw [if_neg expired]

/-- An expired mark makes no difference to the next one. -/
theorem isDuplicate_markSeen (tracker : IdempotencyKeyTracker) (key : String) (now : Int) :
    (tracker.isDuplicate key now).2.markSeen key now = tracker.markSeen key now := by
  unfold IdempotencyKeyTracker.isDuplicate
  cases tracker.seen key with
  | none => rfl
  | some marked =>
    by_cases expired : seconds tracker.ttlSeconds < now - marked
    · simp only [if_pos expired, IdempotencyKeyTracker.markSeen, Function.update_idem]
    · simp only [if_neg expired]

/-- What `enter` can do. -/
inductive Entered (state : State) (session : Session) (job : Job) (now : Int) :
    State × Option Reply → Prop where
  | unkeyed : job.key = none →
      Entered state session job now ({ state with calls := state.calls ++ [⟨session, job, now⟩] }, none)
  | duplicate {key : String} : job.key = some key → state.tracker.live key now = true →
      Entered state session job now (state, some job.duplicate)
  | marked {key : String} : job.key = some key → state.tracker.live key now = false →
      Entered state session job now
        ({ state with
            tracker := state.tracker.markSeen key now
            calls := state.calls ++ [⟨session, job, now⟩] }, none)

variable (state session job now) in
theorem entered : Entered state session job now (enter state session job now) := by
  unfold enter
  cases keyed : job.key with
  | none => exact .unkeyed keyed
  | some key =>
    cases live : state.tracker.live key now with
    | true =>
      simp only [isDuplicate_of_live live]
      exact .duplicate keyed live
    | false =>
      have fresh := (state.tracker.isDuplicate_fst key now).trans live
      have remarked := isDuplicate_markSeen state.tracker key now
      cases checked : state.tracker.isDuplicate key now with
      | mk duplicate tracker =>
        rw [checked] at fresh remarked
        cases fresh
        simp only [checked]
        rw [remarked]
        exact .marked keyed live

/-- A call with a key proceeds exactly when the key is not live. -/
theorem proceeds_iff_expired {key : String} (keyed : job.key = some key) :
    Proceeds state session job now ↔ state.tracker.live key now = false := by
  unfold Proceeds
  have cases := entered state session job now
  generalize enter state session job now = outcome at cases ⊢
  cases cases with
  | unkeyed none => cases none.symm.trans keyed
  | duplicate same live =>
    cases same.symm.trans keyed
    exact iff_of_false (fun proceeds => by cases proceeds.1) (by simp [live])
  | marked same fresh =>
    cases same.symm.trans keyed
    exact iff_of_true ⟨rfl, rfl⟩ fresh

theorem enter_of_live (key : String) (keyed : job.key = some key)
    (live : state.tracker.live key now = true) :
    enter state session job now = (state, some job.duplicate) := by
  have cases := entered state session job now
  generalize enter state session job now = outcome at cases ⊢
  cases cases with
  | unkeyed none => cases none.symm.trans keyed
  | duplicate => rfl
  | marked same fresh =>
    cases same.symm.trans keyed
    cases live.symm.trans fresh

end Calls

/-- What the database accepts is stored. -/
theorem stored_insert {session : Session} {db : ObservationDb} {job : Job} {now : Int}
    (accepts : Accepts session db job.requests now) :
    (insert session db now job).2.failed = false ∧ Stored db (insert session db now job).1 job.requests := by
  have created : (createObservations session db job.requests now).2 = .ok () := by
    obtain ⟨rows, built, complete⟩ := accepts
    cases outcome : (createObservations session db job.requests now).2 with
    | ok => rfl
    | error error =>
      have refused := createObservations_refused_iff.mp ⟨error, outcome⟩ rows built
      cases refused.symm.trans complete
  have stored : Stored db (createObservations session db job.requests now).1 job.requests := by
    intro request mem
    obtain ⟨sourceId, id, resolved, free, row⟩ := createObservations_ok created request mem
    exact ⟨id, _, free, row, resolved, rfl, rfl, rfl⟩
  cases job with
  | single request idempotencyKey =>
    rw [Job.requests, createObservation_eq] at created stored
    cases outcome : createObservation session now db request with
    | mk after result =>
      rw [outcome] at created stored
      cases result with
      | error error => cases created
      | ok row =>
        simp only [insert, outcome]
        exact ⟨rfl, stored⟩
  | batch requests idempotencyKeyPrefix =>
    cases outcome : createObservations session db requests now with
    | mk after result =>
      rw [Job.requests, outcome] at created stored
      cases created
      simp only [insert, outcome]
      exact ⟨rfl, stored⟩

theorem stored_finish {db : ObservationDb} {call : Call} {interruption : Option Interruption} {now : Int}
    (undisturbed : ∀ fault, interruption ≠ some ⟨fault, false⟩)
    (accepts : Accepts call.session db call.job.requests now) :
    Stored db (finish db call interruption now).1 call.job.requests := by
  have stored := (stored_insert accepts).2
  match interruption, undisturbed with
  | none, _ => exact stored
  | some ⟨fault, false⟩, undisturbed => exact absurd rfl (undisturbed fault)
  | some ⟨fault, true⟩, _ => exact stored

/-! ### Runs -/

section Runs

variable {initial : IdempotencyKeyTracker} {history : List (State × Label)} {state state' : State}
  {label : Label}

theorem begun_cons {call : Call} :
    Begun ((state, label) :: history) state' call ↔ call ∈ state'.calls ∨ Begun history state call := by
  unfold Begun
  rw [List.exists_mem_cons_iff]

/-- A step without a new call under a key leaves the marks. -/
theorem Tracks.of_frame (tracks : Tracks initial history state) (frame : state'.tracker = state.tracker)
    (calls : ∀ call ∈ state'.calls, call.job.key.isSome → call ∈ state.calls) :
    Tracks initial ((state, label) :: history) state' := by
  have marked : ∀ key at', Marked initial ((state, label) :: history) state' key at' ↔
      Marked initial history state key at' := by
    intro key at'
    unfold Marked
    refine or_congr_right (exists_congr fun call => and_congr_left fun under => ?_)
    rw [begun_cons]
    exact or_iff_right_of_imp fun mem => .inl (calls call mem (by simp [under.1]))
  refine ⟨frame ▸ tracks.ttlSeconds, ?_, ?_⟩
  · intro key latest seen
    exact (marked key latest).mpr (tracks.seen key latest (frame ▸ seen))
  · intro key at' mark
    rw [frame]
    exact tracks.latest key at' ((marked key at').mp mark)

/-- A call that begins marks its key. -/
theorem marked_of_began (call : Call) {key : String} (keyed : call.job.key = some key)
    (calls : state'.calls = state.calls ++ [call]) (other : String) (at' : Int) :
    Marked initial ((state, label) :: history) state' other at' ↔
      Marked initial history state other at' ∨ other = key ∧ at' = call.began := by
  have begun : ∀ found, Begun ((state, label) :: history) state' found ↔
      Begun history state found ∨ found = call := by
    intro found
    rw [begun_cons, calls]
    simp only [List.mem_append, List.mem_singleton, Begun]
    constructor
    · rintro ((here | new) | before)
      exacts [.inl (.inl here), .inr new, .inl before]
    · rintro (before | new)
      exacts [.inr before, .inl (.inr new)]
  simp only [Marked, begun, or_and_right, exists_or, exists_eq_left, keyed, Option.some.injEq, or_assoc]
  rw [@eq_comm _ key, @eq_comm _ call.began]

theorem seen_markSeen_self (tracker : IdempotencyKeyTracker) (key : String) (now : Int) :
    (tracker.markSeen key now).seen key = some now := Function.update_self ..

theorem seen_markSeen_of_ne {tracker : IdempotencyKeyTracker} {key other : String} (different : other ≠ key)
    (now : Int) : (tracker.markSeen key now).seen other = tracker.seen other := Function.update_of_ne different ..

/-- A call that marks its key, which was not live, is the last mark of it. -/
theorem Tracks.markSeen (nonneg : 0 ≤ initial.ttlSeconds) (tracks : Tracks initial history state)
    {session : Session} {job : Job} {key : String} {now : Int} (keyed : job.key = some key)
    (expired : state.tracker.live key now = false) :
    Tracks initial ((state, label) :: history)
      { state with
        tracker := state.tracker.markSeen key now
        calls := state.calls ++ [⟨session, job, now⟩] } := by
  set marking : State := { state with
    tracker := state.tracker.markSeen key now
    calls := state.calls ++ [⟨session, job, now⟩] }
  have marked : ∀ other at', Marked initial ((state, label) :: history) marking other at' ↔
      Marked initial history state other at' ∨ other = key ∧ at' = now :=
    marked_of_began ⟨session, job, now⟩ keyed rfl
  refine ⟨tracks.ttlSeconds, fun other latest seen => (marked other latest).mpr ?_, fun other at' mark => ?_⟩
  · by_cases same : other = key
    · subst same
      exact .inr ⟨rfl, Option.some.inj (seen.symm.trans (seen_markSeen_self _ _ _))⟩
    · rw [seen_markSeen_of_ne same] at seen
      exact .inl (tracks.seen other latest seen)
  · rcases (marked other at').mp mark with before | ⟨rfl, rfl⟩
    · obtain ⟨latest, seen, le⟩ := tracks.latest other at' before
      by_cases same : other = key
      · -- the mark before was the last one, and it has expired
        subst same
        refine ⟨now, seen_markSeen_self _ _ _, ?_⟩
        rw [IdempotencyKeyTracker.live, seen, Option.any_some, tracks.ttlSeconds] at expired
        have old : seconds initial.ttlSeconds < now - latest := not_le.mp (of_decide_eq_false expired)
        unfold seconds at old
        omega
      · exact ⟨latest, (seen_markSeen_of_ne same now).trans seen, le⟩
    · exact ⟨_, seen_markSeen_self _ _ _, le_rfl⟩

theorem Tracks.step (nonneg : 0 ≤ initial.ttlSeconds) (tracks : Tracks initial history state)
    (step : next state label = some state') : Tracks initial ((state, label) :: history) state' := by
  cases label with
  | enter session job now =>
    cases step
    have cases := entered state session job now
    generalize enter state session job now = outcome at cases ⊢
    cases cases with
    | unkeyed unkeyed =>
      refine tracks.of_frame rfl fun call mem keyed => ?_
      rcases List.mem_append.mp mem with here | new
      · exact here
      · rw [List.mem_singleton.mp new, unkeyed] at keyed
        cases keyed
    | duplicate => exact tracks.of_frame rfl fun _ mem _ => mem
    | marked keyed expired => exact tracks.markSeen nonneg keyed expired
  | finish index interruption now =>
    obtain ⟨call, found, rfl⟩ := Option.map_eq_some_iff.mp step
    exact tracks.of_frame rfl fun _ mem _ => List.mem_of_mem_eraseIdx mem
  | other db =>
    cases step
    exact tracks.of_frame rfl fun _ mem _ => mem

theorem tracks_run {db : ObservationDb} (nonneg : 0 ≤ initial.ttlSeconds)
    (run : Run next ⟨db, initial, []⟩ history state) : Tracks initial history state := by
  refine Run.invariant (I := Tracks initial) ⟨rfl, fun _ _ seen => .inl seen, ?_⟩
    (fun _ tracks step => tracks.step nonneg step) run
  rintro key marked (seen | ⟨call, begun, -⟩)
  · exact ⟨marked, seen, le_rfl⟩
  · rcases begun with mem | ⟨entry, mem, -⟩ <;> cases mem

/-- A key is live exactly when one of its marks has not expired. -/
theorem Tracks.live_iff (tracks : Tracks initial history state) {key : String} {now : Int} :
    state.tracker.live key now = true ↔
      ∃ marked, Marked initial history state key marked ∧ now - marked ≤ seconds initial.ttlSeconds := by
  unfold IdempotencyKeyTracker.live
  rw [Option.any_eq_true, tracks.ttlSeconds]
  constructor
  · rintro ⟨latest, seen, kept⟩
    exact ⟨latest, tracks.seen key latest seen, of_decide_eq_true kept⟩
  · rintro ⟨marked, mark, kept⟩
    obtain ⟨latest, seen, le⟩ := tracks.latest key marked mark
    exact ⟨latest, seen, decide_eq_true ((Int.sub_le_sub_left le now).trans kept)⟩

/-- A call whose insert has ended had begun it. -/
theorem begun_of_found {entry : State × Label} {index : Nat} {call : Call} (mem : entry ∈ history)
    (found : entry.1.calls[index]? = some call) : Begun history state call :=
  .inr ⟨entry, mem, List.mem_of_getElem? found⟩

/-- **A call is a no-op within `ttl_seconds` of one under its key**, whether that one has inserted or
failed. -/
theorem Tracks.enter_repeated (tracks : Tracks initial history state) {call : Call}
    (begun : Begun history state call) {session : Session} {job : Job} {key : String} {now : Int}
    (keyed : job.key = some key) (same : call.job.key = some key)
    (within : now - call.began ≤ seconds initial.ttlSeconds) :
    enter state session job now = (state, some job.duplicate) :=
  enter_of_live key keyed (tracks.live_iff.mpr ⟨call.began, .inr ⟨call, begun, same, rfl⟩, within⟩)

/-- A call with a key proceeds exactly when all marks of the key have expired. -/
theorem Tracks.proceeds_iff (tracks : Tracks initial history state) {session : Session} {job : Job}
    {key : String} {now : Int} (keyed : job.key = some key) :
    Proceeds state session job now ↔
      ∀ marked, Marked initial history state key marked → seconds initial.ttlSeconds < now - marked := by
  rw [proceeds_iff_expired keyed, ← Bool.not_eq_true, tracks.live_iff]
  push Not
  exact Iff.rfl

/-- What a call promises when it comes. -/
theorem Tracks.lawful_enter (tracks : Tracks initial history state) {session : Session} {job : Job}
    {now : Int} :
    Lawful history state (.enter session job now) ↔ Waits initial history state (.enter session job now) := by
  constructor
  · intro lawful key keyed failed fresh
    have promise := (lawful (by rw [keyed]; rfl)).1 failed
    rw [tracks.ttlSeconds] at promise
    exact (tracks.proceeds_iff keyed).mp (promise fresh)
  · intro waits isKeyed
    obtain ⟨key, keyed⟩ := Option.isSome_iff_exists.mp isKeyed
    rw [tracks.ttlSeconds]
    refine ⟨fun failed fresh => (tracks.proceeds_iff keyed).mpr (waits key keyed failed fresh), ?_⟩
    rintro ⟨entry, mem, _, _, _, call, _, found, same, -, within⟩
    exact tracks.enter_repeated (begun_of_found mem found) keyed (same ▸ keyed) within

end Runs

/-- **A failed ingestion can be retried**, and an insert is not repeated, in a run exactly when every
retry comes later than `ttl_seconds` after the last mark of its key: a call that fails leaves the
mark that it has made. -/
theorem lawful_iff {initial : IdempotencyKeyTracker} {db : ObservationDb} (nonneg : 0 ≤ initial.ttlSeconds)
    {history : List (State × Label)} {state : State} (run : Run next ⟨db, initial, []⟩ history state) :
    Meets Lawful history ↔ Meets (Waits initial) history := by
  refine run.meets_congr fun {history state label state'} before _ => ?_
  cases label with
  | enter session job now => exact (tracks_run nonneg before).lawful_enter
  | finish index interruption now =>
    exact iff_of_true (fun call _ undisturbed accepts => stored_finish undisturbed accepts) trivial
  | other db => exact Iff.rfl

/-! ### A retry after an unknown source -/

/-- No source has a profile yet. -/
def unregistered : State where
  db := { observations := .empty, sources := .empty }
  tracker := {}

def registered : ObservationDb :=
  { unregistered.db with
    sources := .single 1 { id := 1, name := "feed", baseUrl := "https://feed", tenantId := none } }

def client : Session := { tenantId := none }

/-- One reading under one key. -/
def reading : Job :=
  .single { source := "feed", timestamp := 1000, data := .object [] } (some "reading-1")

/-- The call that failed is skipped when it is made again after ten seconds, though the database now
accepts it. -/
theorem retry_skipped : ∃ history state, Run next unregistered history state ∧
    Failed history reading ∧ Accepts client state.db reading.requests (seconds 10) ∧
    enter state client reading (seconds 10) = (state, some (.observation none)) ∧
    ¬ Lawful history state (.enter client reading (seconds 10)) := by
  let called := (next unregistered (.enter client reading 0)).get rfl
  let failed := (next called (.finish 0 none 1)).get rfl
  let ready : State := { failed with db := registered }
  let history : List (State × Label) :=
    [(failed, .other registered), (called, .finish 0 none 1), (unregistered, .enter client reading 0)]
  have run : Run next unregistered history ready :=
    ((Run.init.snoc (Option.some_get _).symm).snoc (Option.some_get _).symm).snoc rfl
  have hasFailed : Failed history reading :=
    ⟨_, List.mem_cons_of_mem _ List.mem_cons_self, 0, none, 1, ⟨client, reading, 0⟩, rfl, rfl, rfl, _,
      rfl, rfl⟩
  have skipped : enter ready client reading (seconds 10) = (ready, some (.observation none)) :=
    enter_of_live "reading-1" rfl (by decide)
  have notInserted : ¬ InsertedWithin ready.tracker.ttlSeconds history reading (seconds 10) := by
    rintro ⟨entry, mem, index, interruption, now, call, label, found, -, stored, -⟩
    obtain ⟨id, row, -, new, -⟩ := stored _ List.mem_cons_self
    rcases List.mem_cons.mp mem with rfl | mem
    · cases label
    · rcases List.mem_cons.mp mem with rfl | mem
      · cases label
        cases found
        cases new
      · rw [List.mem_singleton.mp mem] at label
        cases label
  refine ⟨history, ready, run, hasFailed, ⟨_, rfl, rfl⟩, skipped, fun lawful => ?_⟩
  have proceeds := ((lawful rfl).1 hasFailed notInserted).1
  rw [skipped] at proceeds
  cases proceeds

/-- A retry after the key has expired. -/
theorem lawful_after_ttl : 0 ≤ unregistered.tracker.ttlSeconds ∧
    ∃ history state, Run next unregistered history state ∧ history.length = 4 ∧
      (Meets Lawful history ↔ Meets (Waits unregistered.tracker) history) := by
  obtain ⟨history, run, labels⟩ := run_of_isSome_labels (show (finalState next unregistered
    [.enter client reading 0, .finish 0 none 1, .other registered,
      .enter client reading (seconds 3601)]).isSome = true by decide)
  have length := congrArg List.length labels
  rw [List.length_map] at length
  exact ⟨by decide, history, _, run, length, lawful_iff (by decide) run⟩

end ApiObservatory.IngestionRetries
