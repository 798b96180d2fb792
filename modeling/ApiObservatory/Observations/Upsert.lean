import ApiObservatory.Foundation.Run
import ApiObservatory.Observations.Isolation

/-
Upserts among the other writes to observations, one call after another.

The unique index on source and timestamp has all rows, the SELECT after a conflict has the
active rows that the session sees. Where the two differ, at an archived or a hidden row, the
upsert ends in its assertion; `upserts_served_iff` says that it works everywhere else.
-/

namespace ApiObservatory.Upserts

open Foundation Observations

/-- One call, in the session of its request. -/
inductive Call where
  | create (session : Session) (request : ObservationRequest) (now : Int)
  | upsert (session : Session) (request : ObservationRequest) (now : Int)
  /-- An update, a soft delete, a delete, or one of the other operations. -/
  | operation (session : Session) (write : Operation)

/-- The sources that a call names are registered. -/
def Call.registered (db : ObservationDb) : Call → Bool
  | .create _ request _ => (resolveSourceId db request.source).isOk
  | .upsert _ request _ => (resolveSourceId db request.source).isOk
  | .operation _ (.updateObservation _ request _) =>
      request.source.all fun source => (resolveSourceId db source).isOk
  | .operation _ _ => true

def Call.run (db : ObservationDb) : Call → ObservationDb
  | .create session request now => (createObservations session db [request] now).1
  | .upsert session request now => (upsertObservation session db request now).1
  | .operation session write => after session db write

def next (db : ObservationDb) (call : Call) : Option ObservationDb :=
  if call.registered db then some (call.run db) else none

/-! ### The unique index -/

/-- `uq_observations_source_timestamp` -/
def UniqueKeys (observations : Rows Observation) : Prop :=
  ∀ id id' row row', observations.get id = some row → observations.get id' = some row' →
    row.sourceId = row'.sourceId → row.timestamp = row'.timestamp → id = id'

section Unique

variable {observations : Rows Observation} {session : Session} {db : ObservationDb}
  {observationId : Nat} {row changed : Observation} {now : Int}

theorem UniqueKeys.insert (unique : UniqueKeys observations)
    (free : keyTaken observations row = false) : UniqueKeys (observations.insert row) := by
  have apart : ∀ {id other}, observations.get id = some other → other.sourceId = row.sourceId →
      other.timestamp = row.timestamp → False := by
    intro id other found source timestamp
    have taken := keyTaken_iff.mpr ⟨id, other, found, source, timestamp⟩
    rw [free] at taken
    cases taken
  intro id id' row₁ row₂ found found' source timestamp
  rcases Rows.get_insert_cases found with ⟨new, rfl⟩ | ⟨-, old⟩
  · rcases Rows.get_insert_cases found' with ⟨new', -⟩ | ⟨-, old'⟩
    · rw [new, new']
    · exact (apart old' source.symm timestamp.symm).elim
  · rcases Rows.get_insert_cases found' with ⟨-, rfl⟩ | ⟨-, old'⟩
    · exact (apart old source timestamp).elim
    · exact unique _ _ _ _ old old' source timestamp

theorem UniqueKeys.remove (unique : UniqueKeys observations) (id : Nat) :
    UniqueKeys (observations.remove id) := by
  have before : ∀ {i row}, (observations.remove id).get i = some row →
      observations.get i = some row := by
    intro i row found
    by_cases same : i = id
    · rw [same, Rows.get_remove_self] at found
      cases found
    · rwa [Rows.get_remove_of_ne same] at found
  exact fun i i' _ _ found found' => unique i i' _ _ (before found) (before found')

/-- A flush leaves the row with the key of the changed object. -/
theorem key_flush (stored : db.observations.get observationId = some row) {row' : Observation}
    (found : (flush db observationId row changed now).1.observations.get observationId =
      some row') : row'.sourceId = changed.sourceId ∧ row'.timestamp = changed.timestamp := by
  unfold flush at found
  split at found
  · rename_i same
    rw [stored] at found
    cases found
    exact ⟨congrArg (·.sourceId) same.symm, congrArg (·.timestamp) same.symm⟩
  · simp only [Rows.get_modify_self, stored, Option.map_some, Option.some.injEq] at found
    subst found
    exact ⟨rfl, rfl⟩

/-- A flush keeps the index when no other row has the key of the changed object. -/
theorem UniqueKeys.flush (unique : UniqueKeys db.observations)
    (stored : db.observations.get observationId = some row)
    (free : ∀ id other, id ≠ observationId → db.observations.get id = some other →
      ¬ (other.sourceId = changed.sourceId ∧ other.timestamp = changed.timestamp)) :
    UniqueKeys (flush db observationId row changed now).1.observations := by
  intro id id' row₁ row₂ found found' source timestamp
  by_cases here : id = observationId
  · by_cases here' : id' = observationId
    · rw [here, here']
    · rw [flush_others here'] at found'
      obtain ⟨source₁, timestamp₁⟩ := key_flush stored (here ▸ found)
      exact absurd ⟨source.symm.trans source₁, timestamp.symm.trans timestamp₁⟩
        (free id' row₂ here' found')
  · rw [flush_others here] at found
    by_cases here' : id' = observationId
    · obtain ⟨source₂, timestamp₂⟩ := key_flush stored (here' ▸ found')
      exact absurd ⟨source.trans source₂, timestamp.trans timestamp₂⟩ (free id row₁ here found)
    · rw [flush_others here'] at found'
      exact unique _ _ _ _ found found' source timestamp

/-- A change that keeps the key keeps the index. -/
theorem UniqueKeys.flush_same (unique : UniqueKeys db.observations)
    (stored : db.observations.get observationId = some row)
    (source : changed.sourceId = row.sourceId) (timestamp : changed.timestamp = row.timestamp) :
    UniqueKeys (ApiObservatory.flush db observationId row changed now).1.observations :=
  unique.flush stored fun _ _ differs found same =>
    differs (unique _ _ _ _ found stored (same.1.trans source) (same.2.trans timestamp))

/-- An insert of one row: it is refused, or its key was free. -/
theorem unique_create (unique : UniqueKeys db.observations) (request : ObservationRequest) :
    UniqueKeys (createObservations session db [request] now).1.observations := by
  unfold createObservations
  cases resolved : resolveSourceId db request.source with
  | error error =>
    simp only [newRows, List.mapM_cons, resolved]
    exact unique
  | ok sourceId =>
    have rows : newRows session db [request] now =
        .ok [request.row session.tenantId now sourceId] := by
      simp only [newRows, List.mapM_cons, List.mapM_nil, resolved]
      rfl
    cases free : keyTaken db.observations (request.row session.tenantId now sourceId) with
    | true =>
      simp only [rows, insertAll, free, if_true]
      exact unique
    | false =>
      simp only [rows, insertAll, free, Bool.false_eq_true, if_false]
      exact unique.insert free

theorem unique_upsert (unique : UniqueKeys db.observations) (request : ObservationRequest) :
    UniqueKeys (upsertObservation session db request now).1.observations := by
  unfold upsertObservation
  cases resolveSourceId db request.source with
  | error error => exact unique
  | ok sourceId =>
    dsimp only
    cases free : keyTaken db.observations (request.row session.tenantId now sourceId) with
    | true =>
      rw [if_pos rfl]
      split <;> exact unique
    | false => exact unique.insert free

theorem unique_markProcessed (unique : UniqueKeys db.observations) :
    UniqueKeys (markProcessed session db observationId now).1.observations := by
  unfold markProcessed
  split
  · exact unique
  · rename_i row loaded
    exact unique.flush_same (sessionGet_eq_some.mp loaded).1 rfl rfl

theorem unique_updateObservation (unique : UniqueKeys db.observations)
    {request : UpdateObservationRequest} {db' : ObservationDb} {answer : Option Observation}
    (updated : updateObservation session db observationId request now = .ok (db', answer)) :
    UniqueKeys db'.observations := by
  unfold updateObservation at updated
  cases loaded : sessionGet session db observationId with
  | none =>
    simp only [loaded] at updated
    cases updated
    exact unique
  | some row =>
    have stored := (sessionGet_eq_some.mp loaded).1
    cases applied : request.apply db row with
    | error error =>
      simp only [loaded, applied] at updated
      cases updated
    | ok changed =>
      simp only [loaded, applied] at updated
      split at updated
      · cases updated
      · rename_i free
        cases updated
        by_cases same : changed = row
        · exact unique.flush_same stored (congrArg (·.sourceId) same) (congrArg (·.timestamp) same)
        · refine unique.flush stored fun id other differs found key => free ⟨same, ?_⟩
          simp only [timestampTaken, List.any_eq_true]
          exact ⟨(id, other), Rows.mem_toList.mpr found, by simp [differs, key.1, key.2]⟩

theorem unique_softDeleteObservation (unique : UniqueKeys db.observations) :
    UniqueKeys (softDeleteObservation session db observationId now).1.observations := by
  unfold softDeleteObservation
  split
  · exact unique
  · rename_i row loaded
    dsimp only
    split
    · exact unique
    · exact unique.flush_same (sessionGet_eq_some.mp loaded).1 rfl rfl

theorem unique_deleteObservation (unique : UniqueKeys db.observations) :
    UniqueKeys (deleteObservation session db observationId).1.observations := by
  unfold deleteObservation
  split
  · exact unique
  · exact unique.remove observationId

/-- Every call keeps the index. -/
theorem unique_run (unique : UniqueKeys db.observations) (call : Call) :
    UniqueKeys (call.run db).observations := by
  cases call with
  | create session request now => exact unique_create unique request
  | upsert session request now => exact unique_upsert unique request
  | operation session write =>
    cases write with
    | markProcessed observationId now => exact unique_markProcessed unique
    | updateObservation observationId request now =>
      simp only [Call.run, after]
      split
      · rename_i updated
        exact unique_updateObservation unique updated
      · exact unique
    | softDeleteObservation observationId now => exact unique_softDeleteObservation unique
    | deleteObservation observationId => exact unique_deleteObservation unique
    | _ => exact unique

end Unique

/-! ### One upsert -/

section Upsert

variable (session : Session) (db : ObservationDb) (request : ObservationRequest) (now : Int)

/-- What an upsert promises of the row it returns. -/
structure Promised (db' : ObservationDb) (id : Nat) (row : Observation) (created : Bool) : Prop where
  stored : db'.observations.get id = some row
  active : row.deletedAt = none
  source : resolveSourceId db request.source = .ok row.sourceId
  timestamp : row.timestamp = request.timestamp
  /-- It was inserted exactly when there was no active row with the key. -/
  created : created = true ↔ ¬ ∃ other row', db.observations.get other = some row' ∧
    row'.deletedAt = none ∧ row'.sourceId = row.sourceId ∧ row'.timestamp = request.timestamp
  one : ∀ id id' row row', db'.observations.get id = some row →
    db'.observations.get id' = some row' → row.deletedAt = none → row'.deletedAt = none →
    row.sourceId = row'.sourceId → row.timestamp = row'.timestamp → id = id'

/-- The upsert returns, and with what it promises. -/
def Served : Prop :=
  ∃ id row created, (upsertObservation session db request now).2 = .ok ((id, row), created) ∧
    Promised db request (upsertObservation session db request now).1 id row created

/-- No row with the key is archived or hidden from the session. -/
def KeyServable : Prop :=
  ∀ id row, db.observations.get id = some row →
    resolveSourceId db request.source = .ok row.sourceId → row.timestamp = request.timestamp →
    row.deletedAt = none ∧ session.policy row = true

variable {session db request now}

/-- A list whose members are all one is that one. -/
theorem eq_singleton {α : Type} {a : α} {l : List α} (nodup : l.Nodup) (mem : a ∈ l)
    (only : ∀ x ∈ l, x = a) : l = [a] := by
  cases l with
  | nil => cases mem
  | cons x rest =>
    obtain ⟨here, others⟩ := List.forall_mem_cons.mp only
    subst here
    cases rest with
    | nil => rfl
    | cons y rest =>
      have same := others y (.head _)
      subst same
      exact absurd (.head _) (List.nodup_cons.mp nodup).1

/-- The tables after a refused insert. -/
def refused (db : ObservationDb) : ObservationDb :=
  { db with observations := db.observations.reserve }

/-- The rows that the upsert finds after a conflict. -/
def existing (session : Session) (db : ObservationDb) (request : ObservationRequest)
    (sourceId : Nat) : List (Nat × Observation) :=
  selectObservations session (refused db) fun _ row =>
    row.sourceId == sourceId && row.timestamp == request.timestamp && row.deletedAt.isNone

theorem mem_existing {sourceId id : Nat} {row : Observation} :
    (id, row) ∈ existing session db request sourceId ↔ db.observations.get id = some row ∧
      session.policy row = true ∧ (row.sourceId = sourceId ∧ row.timestamp = request.timestamp) ∧
      row.deletedAt = none := by
  rw [existing, mem_selectObservations, Bool.and_eq_true, Bool.and_eq_true, beq_iff_eq, beq_iff_eq,
    Option.isNone_iff_eq_none]
  rfl

theorem upsert_of_free {sourceId : Nat} (resolved : resolveSourceId db request.source = .ok sourceId)
    (free : keyTaken db.observations (request.row session.tenantId now sourceId) = false) :
    upsertObservation session db request now =
      ({ db with observations := db.observations.insert (request.row session.tenantId now sourceId) },
        .ok ((db.observations.nextId, request.row session.tenantId now sourceId), true)) := by
  simp [upsertObservation, resolved, free]

/-- After a conflict the answer depends on what the SELECT finds. -/
theorem upsert_of_taken {sourceId : Nat} (resolved : resolveSourceId db request.source = .ok sourceId)
    (taken : keyTaken db.observations (request.row session.tenantId now sourceId) = true) :
    (upsertObservation session db request now).1 = refused db ∧
      (∀ entry, existing session db request sourceId = [entry] →
        (upsertObservation session db request now).2 = .ok (entry, false)) ∧
      ∀ entry created, (upsertObservation session db request now).2 = .ok (entry, created) →
        existing session db request sourceId = [entry] := by
  simp only [upsertObservation, resolved, taken, if_true]
  refine ⟨?_, ?_, ?_⟩
  · split <;> rfl
  · intro entry one
    rw [existing, refused] at one
    rw [one]
  · intro entry created answer
    split at answer
    · cases answer
    · rename_i found
      cases answer
      exact found
    · cases answer

/-- Nothing has the key, and the new row is the answer. -/
theorem served_of_free (unique : UniqueKeys db.observations) {sourceId : Nat}
    (resolved : resolveSourceId db request.source = .ok sourceId)
    (free : keyTaken db.observations (request.row session.tenantId now sourceId) = false) :
    Served session db request now ∧ KeyServable session db request := by
  have keeps : UniqueKeys (upsertObservation session db request now).1.observations :=
    unique_upsert unique request
  have nothing : ∀ id row, db.observations.get id = some row → row.sourceId = sourceId →
      row.timestamp = request.timestamp → False := by
    intro id row found source timestamp
    have taken : keyTaken db.observations (request.row session.tenantId now sourceId) = true :=
      keyTaken_iff.mpr ⟨id, row, found, source, timestamp⟩
    rw [free] at taken
    cases taken
  have answer := upsert_of_free resolved free
  constructor
  · refine ⟨_, _, _, congrArg Prod.snd answer, ?_, rfl, resolved, rfl, ?_,
      fun _ _ _ _ found found' _ _ => keeps _ _ _ _ found found'⟩
    · rw [answer]
      exact Rows.get_insert_self _ _
    · refine iff_of_true rfl ?_
      rintro ⟨other, row', found, -, source, timestamp⟩
      exact nothing other row' found source timestamp
  · intro id row found source timestamp
    exact (nothing id row found (Except.ok.inj (source.symm.trans resolved)) timestamp).elim

/-- An active visible row with the key is all that the SELECT finds. -/
theorem existing_eq_singleton (unique : UniqueKeys db.observations) {sourceId id : Nat}
    {row : Observation} (found : db.observations.get id = some row) (seen : session.policy row = true)
    (source : row.sourceId = sourceId) (timestamp : row.timestamp = request.timestamp)
    (active : row.deletedAt = none) : existing session db request sourceId = [(id, row)] := by
  refine eq_singleton ?_ (mem_existing.mpr ⟨found, seen, ⟨source, timestamp⟩, active⟩) ?_
  · rw [existing, selectObservations]
    exact List.Nodup.of_map Prod.fst (Rows.select_ids_nodup _ _)
  · rintro ⟨id', row'⟩ mem
    obtain ⟨found', -, ⟨source', timestamp'⟩, -⟩ := mem_existing.mp mem
    obtain rfl := unique id' id row' row found' found (source'.trans source.symm)
      (timestamp'.trans timestamp.symm)
    rw [Option.some.inj (found'.symm.trans found)]

/-- **One upsert** is served exactly when no archived or hidden row has its key. -/
theorem served_iff (unique : UniqueKeys db.observations) {sourceId : Nat}
    (resolved : resolveSourceId db request.source = .ok sourceId) :
    Served session db request now ↔ KeyServable session db request := by
  cases taken : keyTaken db.observations (request.row session.tenantId now sourceId) with
  | false =>
    obtain ⟨served, servable⟩ := served_of_free unique resolved taken
    exact iff_of_true served servable
  | true =>
    have keeps : UniqueKeys (upsertObservation session db request now).1.observations :=
      unique_upsert unique request
    obtain ⟨tables, answers, finds⟩ := upsert_of_taken resolved taken
    constructor
    · rintro ⟨id, row, created, answer, -⟩ id' row' found' source' timestamp'
      have mem : (id, row) ∈ existing session db request sourceId := by
        rw [finds _ _ answer]
        exact .head _
      obtain ⟨found, seen, ⟨source, timestamp⟩, active⟩ := mem_existing.mp mem
      have sameSource : row'.sourceId = row.sourceId :=
        (Except.ok.inj (source'.symm.trans resolved)).trans source.symm
      -- the row that is in the way is the only one with the key
      obtain rfl := unique id' id row' row found' found sameSource (timestamp'.trans timestamp.symm)
      obtain rfl := Option.some.inj (found'.symm.trans found)
      exact ⟨active, seen⟩
    · intro servable
      obtain ⟨id, row, found, source, timestamp⟩ := keyTaken_iff.mp taken
      have source' : resolveSourceId db request.source = .ok row.sourceId := by
        rw [resolved]
        exact congrArg Except.ok source.symm
      obtain ⟨active, seen⟩ := servable id row found source' timestamp
      have one := existing_eq_singleton unique found seen source timestamp active
      refine ⟨id, row, false, answers _ one, ?_, active, source', timestamp, ?_,
        fun _ _ _ _ found found' _ _ => keeps _ _ _ _ found found'⟩
      · rw [tables]
        exact found
      · exact iff_of_false (by simp) fun none => none ⟨id, row, found, active, rfl, timestamp⟩

end Upsert

/-! ### All calls -/

/-- The upserts among the calls are served. -/
def UpsertServed (db : ObservationDb) : Call → Prop
  | .upsert session request now => Served session db request now
  | _ => True

/-- The keys of the upserts among the calls are servable. -/
def UpsertServable (db : ObservationDb) : Call → Prop
  | .upsert session request _ => KeyServable session db request
  | _ => True

variable {start db : ObservationDb} {history : List (ObservationDb × Call)}

theorem unique_of_run (unique : UniqueKeys start.observations) (run : Run next start history db) :
    UniqueKeys db.observations := by
  refine run.stateInvariant (I := fun db => UniqueKeys db.observations) unique
    fun {db call db'} unique step => ?_
  unfold next at step
  split at step
  · cases step
    exact unique_run unique call
  · cases step

/-- **Upserts among all writes.** In every sequence of calls over registered sources every upsert
is served exactly when at each of them no archived or hidden row has the key. -/
theorem upserts_served_iff (unique : UniqueKeys start.observations)
    (run : Run next start history db) :
    Meets (fun _ => UpsertServed) history ↔ Meets (fun _ => UpsertServable) history := by
  refine run.meets_congr fun {history db call db'} before step => ?_
  cases call with
  | upsert session request now =>
    unfold next at step
    split at step
    · rename_i registered
      cases resolved : resolveSourceId db request.source with
      | error error => simp [Call.registered, resolved, Except.isOk, Except.toBool] at registered
      | ok sourceId => exact served_iff (unique_of_run unique before) resolved
    · cases step
  | _ => exact Iff.rfl

/-! ### An archived observation -/

def profile : SourceProfile := { id := 1, name := "feed", baseUrl := "https://feed", tenantId := none }

def emptyTable : ObservationDb := { observations := .empty, sources := .single 1 profile }

def anonymous : Session := { tenantId := none }

def reading : ObservationRequest := { source := "feed", timestamp := 1000, data := .object [] }

theorem unique_emptyTable : UniqueKeys emptyTable.observations := by
  intro _ _ _ _ found
  cases found

/-- A reading is stored, archived, and comes again. -/
theorem upsert_after_archive : ∃ history db,
    Run next emptyTable history db ∧
      (upsertObservation anonymous db reading 7).2 = .error (.assertion 1 1000) ∧
      ¬ Served anonymous db reading 7 := by
  obtain ⟨history, run⟩ := run_of_isSome (show (finalState next emptyTable
    [.upsert anonymous reading 5, .operation anonymous (.softDeleteObservation 1 6)]).isSome = true
    by decide)
  have raises : (upsertObservation anonymous ((finalState next emptyTable
      [.upsert anonymous reading 5,
        .operation anonymous (.softDeleteObservation 1 6)]).get (by decide)) reading 7).2 =
      .error (.assertion 1 1000) := by decide
  refine ⟨history, _, run, raises, ?_⟩
  rintro ⟨id, row, created, answer, -⟩
  cases raises.symm.trans answer

/-- A reading that comes twice, and then once more after it has been deleted. -/
theorem upserts_served_deleted : ∃ history db, Run next emptyTable history db ∧
    history.length = 4 ∧
    (Meets (fun _ => UpsertServed) history ↔ Meets (fun _ => UpsertServable) history) := by
  obtain ⟨history, run, labels⟩ := run_of_isSome_labels (show (finalState next emptyTable
    [.upsert anonymous reading 5, .upsert anonymous reading 6,
      .operation anonymous (.deleteObservation 1), .upsert anonymous reading 7]).isSome = true
    by decide)
  have length := congrArg List.length labels
  rw [List.length_map] at length
  exact ⟨history, _, run, length, upserts_served_iff unique_emptyTable run⟩

end ApiObservatory.Upserts
