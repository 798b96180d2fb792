import ApiObservatory.Foundation.Rows
import ApiObservatory.Foundation.Window
import ApiObservatory.Models.Observations
import ApiObservatory.Repositories.SourceRegistry
import Mathlib.Data.Prod.Lex

/-
Access to observations (`services/ingestor/repositories/observations_crud.py` and
`observations_queries.py`) in a session with a tenant context
(`services/ingestor/core/tenant.py`, `core/database.py`).

Two filters may stand in front of the table: the row-level policy of the database,
which every statement passes, and `_apply_tenant_filter`, which a query passes when
its function calls it.
-/

namespace ApiObservatory

open Foundation

structure ObservationDb where
  observations : Rows Observation
  sources : Rows SourceProfile

/-- A database session: the context of its request. -/
structure Session where
  tenantId : Option Int
  userRole : Option String := none
  rlsEnabled : Bool := false
deriving DecidableEq

/-- `_TENANT_POLICY`. -/
def Session.policy (session : Session) (row : Observation) : Bool :=
  !session.rlsEnabled || row.tenantId.isNone ||
    (session.tenantId.isSome && row.tenantId == session.tenantId)

/-- `_apply_tenant_filter`. -/
def Session.tenantFilter (session : Session) (row : Observation) : Bool :=
  if session.userRole = some "admin" then true
  else
    match session.tenantId with
    | some tenantId => row.tenantId == some tenantId || row.tenantId.isNone
    | none => row.tenantId.isNone

/-- What a function raises. -/
inductive ObservationError where
  | value (text : String)
  | statement
  | database (error : DbError)
deriving DecidableEq

section Queries

variable (session : Session) (db : ObservationDb)

/-- `SELECT ... FROM observations WHERE`, in id order. -/
def selectObservations (condition : Nat → Observation → Bool) : List (Nat × Observation) :=
  db.observations.select fun id row => session.policy row && condition id row

/-- `_resolve_source_id`: deleted profiles have names too. -/
def resolveSourceId (sourceName : String) : Except ObservationError Nat :=
  match db.sources.toList.find? fun entry => entry.2.name == sourceName with
  | some (sourceId, _) => .ok sourceId
  | none => .error (.value s!"Source profile '{sourceName}' not found")

/-- `resolve_source_id_by_name`. -/
def resolveSourceIdByName (sourceName : String) : Option Nat :=
  (db.sources.toList.find? fun entry =>
    entry.2.name == sourceName && entry.2.deletedAt.isNone).map Prod.fst

/-- `if source:` with the resolved id. -/
def sourceFilter : Option String → Except ObservationError (Option Nat)
  | none => .ok none
  | some source => if source = "" then .ok none else (resolveSourceId db source).map some

/-- `get_observations`: a page in id order, and the number of all rows. -/
def getObservations (skip : Nat := 0) (limit : Nat := 100) (source : Option String := none) :
    Except ObservationError (List (Nat × Observation) × Nat) :=
  match sourceFilter db source with
  | .error error => .error error
  | .ok sourceId =>
      let rows := selectObservations session db fun _ row =>
        row.deletedAt.isNone && sourceId.all (row.sourceId == ·) && session.tenantFilter row
      .ok ((rows.drop skip).take limit, rows.length)

/-- Newest first. -/
def newestFirst (entry : Nat × Observation) : (Int ×ₗ Nat)ᵒᵈ :=
  OrderDual.toDual (toLex (entry.2.timestamp, entry.1))

/-- `get_observations_by_date_range`. -/
def getObservationsByDateRange (start stop : Int) (source : Option String := none) :
    Except ObservationError (List (Nat × Observation)) :=
  match sourceFilter db source with
  | .error error => .error error
  | .ok sourceId =>
      .ok (orderBy newestFirst (selectObservations session db fun _ row =>
        row.deletedAt.isNone && decide (start ≤ row.timestamp ∧ row.timestamp < stop) &&
          sourceId.all (row.sourceId == ·) && session.tenantFilter row))

/-- A cursor as `_decode_cursor` gives it: a text that is no cursor gives none, and
one without a position makes a query that is refused. -/
inductive Cursor where
  | missing
  | position (id : Int) (timestamp : Int)
  | malformed
deriving DecidableEq

/-- The rows behind a cursor. -/
def Cursor.behind : Cursor → Nat → Observation → Bool
  | .position id timestamp, rowId, row =>
      decide (timestamp < row.timestamp) ||
        (row.timestamp == timestamp && decide (id < (rowId : Int)))
  | _, _, _ => true

/-- `if source:`; an unknown source does not restrict the query. -/
def sourceIdByName (source : Option String) : Option Nat :=
  source.bind fun source => if source = "" then none else resolveSourceIdByName db source

/-- `ORDER BY timestamp, id`. -/
def oldestFirst (entry : Nat × Observation) : Int ×ₗ Nat := toLex (entry.2.timestamp, entry.1)

/-- The rows a page of the cursor is taken from. -/
def cursorRows (cursor : Cursor) (source : Option String) : List (Nat × Observation) :=
  selectObservations session db fun id row =>
    row.deletedAt.isNone && cursor.behind id row &&
      (sourceIdByName db source).all (row.sourceId == ·)

/-- `get_observations_cursor_paginated`: the page, the position of the next one, and
whether there is one. -/
def getObservationsCursorPaginated (cursor : Cursor := .missing) (limit : Nat := 50)
    (source : Option String := none) :
    Except ObservationError (List (Nat × Observation) × Option (Nat × Int) × Bool) :=
  if cursor = .malformed then .error .statement
  else
    let observationsAll := (orderBy oldestFirst (cursorRows session db cursor source)).take (limit + 1)
    let hasMore := decide (limit < observationsAll.length)
    let observations := observationsAll.take limit
    let nextCursor :=
      if hasMore then observations.getLast?.map fun last => (last.1, last.2.timestamp) else none
    .ok (observations, nextCursor, hasMore)

/-- `get_observation`. -/
def getObservation (observationId : Nat) : Option Observation :=
  (db.observations.get observationId).filter fun row =>
    session.policy row && row.deletedAt.isNone

/-- `session.get(Observation, id)`. -/
def sessionGet (observationId : Nat) : Option Observation :=
  (db.observations.get observationId).filter session.policy

end Queries

section Writes

variable (session : Session) (db : ObservationDb)

/-- The unique index on source and timestamp has the row's key. -/
def keyTaken (observations : Rows Observation) (row : Observation) : Bool :=
  observations.toList.any fun (_, other) =>
    other.sourceId == row.sourceId && other.timestamp == row.timestamp

/-- The inserts of one transaction: a row whose key is taken rolls them back, and the
ids the sequence gave out stay used. -/
def insertAll : List Observation → Rows Observation → Rows Observation × Bool
  | [], observations => (observations, true)
  | row :: rest, observations =>
      if keyTaken observations row then (observations.reserve, false)
      else
        match insertAll rest (observations.insert row) with
        | (inserted, true) => (inserted, true)
        | (refused, false) => (observations.reserveTo refused.nextId, false)

def ObservationRequest.row (request : ObservationRequest) (tenantId : Option Int) (now : Int)
    (sourceId : Nat) : Observation :=
  { sourceId
    timestamp := request.timestamp
    rawData := request.data
    tags := request.tags
    tenantId
    createdAt := now }

/-- The rows of some requests; the sources are resolved first. -/
def newRows (requests : List ObservationRequest) (now : Int) :
    Except ObservationError (List Observation) :=
  requests.mapM fun request =>
    (resolveSourceId db request.source).map (request.row session.tenantId now)

/-- `create_observation` for one request, `create_observations_batch` for several. -/
def createObservations (requests : List ObservationRequest) (now : Int) :
    ObservationDb × Except ObservationError Unit :=
  match newRows session db requests now with
  | .error error => (db, .error error)
  | .ok rows =>
      match insertAll rows db.observations with
      | (observations, true) => ({ db with observations }, .ok ())
      | (observations, false) =>
          ({ db with observations }, .error (.database .integrityError))

/-- What `upsert_observation` raises. -/
inductive UpsertError where
  | repository (error : ObservationError)
  /-- The `AssertionError`, whose text names the source id and the timestamp. -/
  | assertion (sourceId : Nat) (timestamp : Int)
  | multipleResults
deriving DecidableEq

/-- `upsert_observation`: the row with its id, and whether it was inserted. A refused insert
is rolled back and uses an id of the sequence up. -/
def upsertObservation (request : ObservationRequest) (now : Int) :
    ObservationDb × Except UpsertError ((Nat × Observation) × Bool) :=
  match resolveSourceId db request.source with
  | .error error => (db, .error (.repository error))
  | .ok sourceId =>
      let observation := request.row session.tenantId now sourceId
      if keyTaken db.observations observation then
        let db := { db with observations := db.observations.reserve }
        let existing := selectObservations session db fun _ row =>
          row.sourceId == sourceId && row.timestamp == request.timestamp && row.deletedAt.isNone
        match existing with
        | [] => (db, .error (.assertion sourceId request.timestamp))
        | [existing] => (db, .ok (existing, false))
        | _ => (db, .error .multipleResults)
      else
        ({ db with observations := db.observations.insert observation },
          .ok ((db.observations.nextId, observation), true))

/-- The flush of a loaded row: a row without a change is not written, and a write
refreshes `updated_at`. -/
def flush (observationId : Nat) (row changed : Observation) (now : Int) : ObservationDb × Observation :=
  if changed = row then (db, row)
  else
    let written := { changed with updatedAt := some now }
    ({ db with observations := db.observations.modify observationId fun _ => written }, written)

/-- `mark_processed`. -/
def markProcessed (observationId : Nat) (now : Int) : ObservationDb × Option Observation :=
  match sessionGet session db observationId with
  | none => (db, none)
  | some row =>
      let (db, row) := flush db observationId row
        { row with processed := true, processedAt := some (row.processedAt.getD now) } now
      (db, some row)

/-- Another row, of whatever tenant, has the source and the timestamp. -/
def timestampTaken (observationId : Nat) (row : Observation) : Bool :=
  db.observations.toList.any fun (id, other) =>
    id != observationId && other.sourceId == row.sourceId && other.timestamp == row.timestamp

/-- The loaded row with the fields of the request. -/
def UpdateObservationRequest.apply (request : UpdateObservationRequest) (row : Observation) :
    Except ObservationError Observation :=
  (match request.source with
    | some source => resolveSourceId db source
    | none => .ok row.sourceId).map fun sourceId =>
      { row with
        sourceId
        timestamp := request.timestamp.getD row.timestamp
        rawData := request.data.getD row.rawData
        tags := request.tags.getD row.tags }

/-- `update_observation`. -/
def updateObservation (observationId : Nat) (request : UpdateObservationRequest) (now : Int) :
    Except ObservationError (ObservationDb × Option Observation) :=
  match sessionGet session db observationId with
  | none => .ok (db, none)
  | some row =>
      match request.apply db row with
      | .error error => .error error
      | .ok changed =>
          if changed ≠ row ∧ timestampTaken db observationId changed then
            .error (.database .integrityError)
          else
            let (db, row) := flush db observationId row changed now
            .ok (db, some row)

/-- `soft_delete_observation`. -/
def softDeleteObservation (observationId : Nat) (now : Int) : ObservationDb × Option Observation :=
  match sessionGet session db observationId with
  | none => (db, none)
  | some row =>
      if row.deletedAt.isSome then (db, none)
      else
        let (db, row) := flush db observationId row { row with deletedAt := some now } now
        (db, some row)

/-- `delete_observation`. -/
def deleteObservation (observationId : Nat) : ObservationDb × Option Observation :=
  match sessionGet session db observationId with
  | none => (db, none)
  | some row => ({ db with observations := db.observations.remove observationId }, some row)

end Writes

/-! ### The rows of a query -/

section Rows

variable {session : Session} {db : ObservationDb} {condition : Nat → Observation → Bool}

theorem mem_selectObservations {id : Nat} {row : Observation} :
    (id, row) ∈ selectObservations session db condition ↔
      db.observations.get id = some row ∧ session.policy row = true ∧ condition id row = true := by
  rw [selectObservations, Rows.mem_select, Bool.and_eq_true]

theorem keyTaken_iff {observations : Rows Observation} {row : Observation} :
    keyTaken observations row = true ↔ ∃ id other, observations.get id = some other ∧
      other.sourceId = row.sourceId ∧ other.timestamp = row.timestamp := by
  simp [keyTaken, Rows.mem_toList]

/-- Rows are told apart by every key that includes the id. -/
theorem selectObservations_distinct {κ : Type} (session : Session) (db : ObservationDb)
    (condition : Nat → Observation → Bool) (key : Nat × Observation → κ) (id : κ → Nat)
    (includes : ∀ entry, id (key entry) = entry.1) :
    ((selectObservations session db condition).map key).Nodup := by
  refine List.Nodup.of_map id ?_
  rw [List.map_map, show id ∘ key = Prod.fst from funext includes]
  exact Rows.select_ids_nodup _ _

end Rows

/-! ### The rows of a creation -/

section Creation

variable {db : ObservationDb} {session : Session} {requests : List ObservationRequest} {now : Int}

/-- Inserts leave the rows that are there. -/
theorem insertAll_get (rows : List Observation) {table : Rows Observation} {id : Nat}
    {row : Observation} (stored : table.get id = some row) :
    (insertAll rows table).1.get id = some row := by
  induction rows generalizing table with
  | nil => exact stored
  | cons new rest ih =>
    unfold insertAll
    split
    · exact stored
    · have still : (table.insert new).get id = some row := Rows.get_insert_of_some stored
      have later := ih still
      cases inserted : insertAll rest (table.insert new) with
      | mk after complete =>
        rw [inserted] at later
        cases complete with
        | true => exact later
        | false => exact stored

/-- Refused inserts are rolled back. -/
theorem insertAll_refused (rows : List Observation) (table : Rows Observation)
    (refused : (insertAll rows table).2 = false) : (insertAll rows table).1.get = table.get := by
  cases rows with
  | nil => cases refused
  | cons new rest =>
    unfold insertAll at refused ⊢
    by_cases taken : keyTaken table new = true
    · rw [if_pos taken]
      rfl
    · rw [if_neg taken] at refused ⊢
      cases inserted : insertAll rest (table.insert new) with
      | mk after complete =>
        rw [inserted] at refused
        cases complete with
        | true => cases refused
        | false => rfl

/-- Inserts that go through store each row under a new id. -/
theorem insertAll_inserted {rows : List Observation} {table : Rows Observation}
    (complete : (insertAll rows table).2 = true) :
    ∀ row ∈ rows, ∃ id, table.get id = none ∧ (insertAll rows table).1.get id = some row := by
  induction rows generalizing table with
  | nil => simp
  | cons new rest ih =>
    unfold insertAll at complete ⊢
    by_cases taken : keyTaken table new = true
    · rw [if_pos taken] at complete
      cases complete
    · rw [if_neg taken] at complete ⊢
      have later : (insertAll rest (table.insert new)).2 = true → ∀ row ∈ rest, ∃ id,
          (table.insert new).get id = none ∧
            (insertAll rest (table.insert new)).1.get id = some row := ih
      have first := insertAll_get rest (Rows.get_insert_self table new)
      cases inserted : insertAll rest (table.insert new) with
      | mk after done =>
        rw [inserted] at complete later first
        cases done with
        | false => cases complete
        | true =>
          refine List.forall_mem_cons.mpr ⟨⟨table.nextId, table.unused _ le_rfl, first⟩, ?_⟩
          intro row mem
          obtain ⟨id, free, stored⟩ := later rfl row mem
          refine ⟨id, ?_, stored⟩
          rcases Nat.lt_or_ge id table.nextId with lt | ge
          · rwa [Rows.get_insert_of_ne new (Nat.ne_of_lt lt)] at free
          · exact table.unused id ge

/-- Each request has its row among the new ones. -/
theorem mem_newRows {rows : List Observation} (built : newRows session db requests now = .ok rows) :
    ∀ request ∈ requests, ∃ sourceId, resolveSourceId db request.source = .ok sourceId ∧
      request.row session.tenantId now sourceId ∈ rows := by
  unfold newRows at built
  induction requests generalizing rows with
  | nil => simp
  | cons request rest ih =>
    rw [List.mapM_cons] at built
    obtain ⟨row, one, built⟩ := ok_of_bind built
    obtain ⟨later, others, built⟩ := ok_of_bind built
    cases built
    obtain ⟨sourceId, resolved, rfl⟩ := ok_of_map one
    refine List.forall_mem_cons.mpr ⟨⟨sourceId, resolved, List.mem_cons_self⟩, ?_⟩
    intro other mem
    obtain ⟨otherId, resolved, mem⟩ := ih others other mem
    exact ⟨otherId, resolved, List.mem_cons_of_mem _ mem⟩

theorem createObservations_kept {id : Nat} {row : Observation}
    (stored : db.observations.get id = some row) :
    (createObservations session db requests now).1.observations.get id = some row := by
  unfold createObservations
  cases newRows session db requests now with
  | error => exact stored
  | ok rows =>
    have inserted := insertAll_get rows stored
    cases all : insertAll rows db.observations with
    | mk table complete =>
      rw [all] at inserted
      simp only [all]
      cases complete <;> exact inserted

/-- A creation is refused when a source is unknown or a key is taken. -/
theorem createObservations_refused_iff :
    (∃ error, (createObservations session db requests now).2 = .error error) ↔
      ∀ rows, newRows session db requests now = .ok rows → (insertAll rows db.observations).2 = false := by
  unfold createObservations
  cases newRows session db requests now with
  | error error => simp
  | ok rows =>
    cases all : insertAll rows db.observations with
    | mk table complete => cases complete <;> simp [all]

/-- A refused creation stores nothing. -/
theorem createObservations_error {error : ObservationError}
    (refused : (createObservations session db requests now).2 = .error error) :
    (createObservations session db requests now).1.observations.get = db.observations.get := by
  unfold createObservations at refused ⊢
  cases built : newRows session db requests now with
  | error => rfl
  | ok rows =>
    rw [built] at refused
    cases all : insertAll rows db.observations with
    | mk table complete =>
      simp only [all] at refused ⊢
      cases complete with
      | true => cases refused
      | false =>
        have rolledBack := insertAll_refused rows db.observations (by rw [all])
        rwa [all] at rolledBack

/-- A creation that goes through stores a new row for each request. -/
theorem createObservations_ok (created : (createObservations session db requests now).2 = .ok ()) :
    ∀ request ∈ requests, ∃ sourceId id, resolveSourceId db request.source = .ok sourceId ∧
      db.observations.get id = none ∧
      (createObservations session db requests now).1.observations.get id =
        some (request.row session.tenantId now sourceId) := by
  unfold createObservations at created ⊢
  cases built : newRows session db requests now with
  | error => rw [built] at created; cases created
  | ok rows =>
    rw [built] at created
    have inserted : (insertAll rows db.observations).2 = true → ∀ row ∈ rows, ∃ id,
        db.observations.get id = none ∧ (insertAll rows db.observations).1.get id = some row :=
      insertAll_inserted
    cases all : insertAll rows db.observations with
    | mk table complete =>
      simp only [all] at created inserted ⊢
      cases complete with
      | false => cases created
      | true =>
        intro request mem
        obtain ⟨sourceId, resolved, mem⟩ := mem_newRows built request mem
        obtain ⟨id, free, stored⟩ := inserted rfl _ mem
        exact ⟨sourceId, id, resolved, free, stored⟩

end Creation

end ApiObservatory
