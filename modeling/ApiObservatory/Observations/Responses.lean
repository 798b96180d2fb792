import ApiObservatory.Observations.CursorPagination
import ApiObservatory.Platform.ObservationCache

/-
The answers of the observation routes (`services/ingestor/api/routes/observations.py` and
`observations_v2.py`, `services/ingestor/api_schemas/observations.py`).

`ObservationResponse` requires a `source`, and a row names its source by id only. Of the
routes with a row to show, creation over `/api/v1` writes the name into the dictionary it
validates; the others validate the row itself, after what the operation has committed.
-/

namespace ApiObservatory.Responses

open Foundation

/-- A value a field is read from. -/
inductive Value where
  | null
  | integer (value : Int)
  | text (value : String)
  | datetime (value : Int)
  | json (value : Json)
  | strings (value : List String)
  | boolean (value : Bool)

def Value.integer? : Value → Option Int
  | .integer value => some value
  | _ => none

def Value.text? : Value → Option String
  | .text value => some value
  | _ => none

def Value.datetime? : Value → Option Int
  | .datetime value => some value
  | _ => none

def Value.dict? : Value → Option (List (String × Json))
  | .json (.object fields) => some fields
  | _ => none

def Value.strings? : Value → Option (List String)
  | .strings value => some value
  | _ => none

def Value.boolean? : Value → Option Bool
  | .boolean value => some value
  | _ => none

def Value.ofOption : Option Int → Value
  | some value => .datetime value
  | none => .null

structure ObservationResponse where
  id : Int
  source : String
  timestamp : Int
  rawData : List (String × Json)
  tags : List String
  processed : Bool
  createdAt : Int
  updatedAt : Option Int
  deletedAt : Option Int
deriving DecidableEq

/-- A field without a default: the validation is refused when nothing has its name. -/
def required {α : Type} (getattr : String → Option Value) (name : String)
    (read : Value → Option α) : Option α :=
  (getattr name).bind read

/-- A field `datetime | None = None`. -/
def optionalDatetime (getattr : String → Option Value) (name : String) : Option (Option Int) :=
  match getattr name with
  | none => some none
  | some .null => some none
  | some value => value.datetime?.map some

/-- `ObservationResponse.model_validate`; `none` is a `ValidationError`. -/
def ObservationResponse.modelValidate (getattr : String → Option Value) :
    Option ObservationResponse := do
  let id ← required getattr "id" Value.integer?
  let source ← required getattr "source" Value.text?
  let timestamp ← required getattr "timestamp" Value.datetime?
  let rawData ← required getattr "raw_data" Value.dict?
  let tags ← required getattr "tags" Value.strings?
  let processed ← required getattr "processed" Value.boolean?
  let createdAt ← required getattr "created_at" Value.datetime?
  let updatedAt ← optionalDatetime getattr "updated_at"
  let deletedAt ← optionalDatetime getattr "deleted_at"
  return { id, source, timestamp, rawData, tags, processed, createdAt, updatedAt, deletedAt }

/-- The columns of `Observation` and of its `TimestampMixin`, as attributes of a row. -/
def rowAttribute (entry : Nat × Observation) (name : String) : Option Value :=
  [("id", Value.integer entry.1), ("source_id", .integer entry.2.sourceId),
    ("timestamp", .datetime entry.2.timestamp), ("raw_data", .json entry.2.rawData),
    ("tags", .strings entry.2.tags), ("processed", .boolean entry.2.processed),
    ("processed_at", .ofOption entry.2.processedAt),
    ("tenant_id", (entry.2.tenantId.map Value.integer).getD .null),
    ("created_at", .datetime entry.2.createdAt), ("updated_at", .ofOption entry.2.updatedAt),
    ("deleted_at", .ofOption entry.2.deletedAt)].lookup name

/-- The dictionary of `create_observation_endpoint`. -/
def createdAttribute (sourceName : String) (entry : Nat × Observation) (name : String) :
    Option Value :=
  [("id", Value.integer entry.1), ("source", .text sourceName),
    ("timestamp", .datetime entry.2.timestamp), ("raw_data", .json entry.2.rawData),
    ("tags", .strings entry.2.tags), ("processed", .boolean entry.2.processed),
    ("created_at", .datetime entry.2.createdAt), ("updated_at", .ofOption entry.2.updatedAt),
    ("deleted_at", .ofOption entry.2.deletedAt)].lookup name

/-- `ObservationResponse.model_validate(row)`. -/
def validateRow (entry : Nat × Observation) : Option ObservationResponse :=
  ObservationResponse.modelValidate (rowAttribute entry)

inductive UpsertMode where
  | idempotent
  | strict
deriving DecidableEq

inductive Answer where
  | observation (status : Nat) (observation : ObservationResponse)
  | page (observations : List ObservationResponse) (total skip limit : Nat) (hasMore : Bool)
  | cursorPage (observations : List ObservationResponse) (nextCursor : Option String)
      (hasMore : Bool) (limit : Nat)
  | upsert (status : Nat) (observation : ObservationResponse) (created : Bool) (mode : UpsertMode)
  | refused (status : Nat) (detail : String)
  /-- 409, with what the detail names. -/
  | conflict (source : String) (timestamp : Int) (existingId : Nat)
  /-- 500: nothing handles the exception. -/
  | serverError
deriving DecidableEq

def Answer.observations : Answer → Option (List ObservationResponse)
  | .observation _ response => some [response]
  | .page responses _ _ _ _ => some responses
  | .cursorPage responses _ _ _ => some responses
  | .upsert _ response _ _ => some [response]
  | _ => none

structure State where
  db : ObservationDb
  caches : Caches ObservationResponse

def answerRow (entry : Nat × Observation) (answer : ObservationResponse → Answer) : Answer :=
  match validateRow entry with
  | some response => answer response
  | none => .serverError

def answerRows (entries : List (Nat × Observation)) (answer : List ObservationResponse → Answer) :
    Answer :=
  match entries.mapM validateRow with
  | some responses => answer responses
  | none => .serverError

section Routes

variable (codec : CursorCodec) (session : Session) (state : State) (now : Int)

/-- `create_observation`, with the row it returns. -/
def createObservation (db : ObservationDb) (request : ObservationRequest) :
    ObservationDb × Except ObservationError (Nat × Observation) :=
  match resolveSourceId db request.source with
  | .error error => (db, .error error)
  | .ok sourceId =>
      let observation := request.row session.tenantId now sourceId
      if keyTaken db.observations observation then
        ({ db with observations := db.observations.reserve },
          .error (.database .integrityError))
      else
        ({ db with observations := db.observations.insert observation },
          .ok (db.observations.nextId, observation))

/-- `create_observation_endpoint`; the event it publishes cannot fail it. -/
def createObservationEndpoint (request : ObservationRequest) : State × Answer :=
  match createObservation session now state.db request with
  | (db, .error _) => ({ state with db }, .serverError)
  | (db, .ok entry) =>
      let sourceName := resolveSourceName db.sources entry.2.sourceId
      match ObservationResponse.modelValidate (createdAttribute sourceName entry) with
      | some response => ({ state with db }, .observation 201 response)
      | none => ({ state with db }, .serverError)

/-- `list_observations`. -/
def listObservations (skip limit : Nat) (source : Option String) : Answer :=
  match getObservations session state.db skip limit source with
  | .error _ => .serverError
  | .ok (observations, total) =>
      answerRows observations fun responses =>
        .page responses total skip limit (decide (skip + limit < total))

def notFound : Answer := .refused 404 "Observation not found"

/-- `get_observation`. -/
def getObservationRoute (observationId : Nat) (faults : RedisFaults) : State × Answer :=
  match state.caches.getObservationWithLru observationId now faults with
  | (some response, caches) => ({ state with caches }, .observation 200 response)
  | (none, caches) =>
      match getObservation session state.db observationId with
      | none => ({ state with caches }, notFound)
      | some row =>
          match validateRow (observationId, row) with
          | none => ({ state with caches }, .serverError)
          | some response =>
              ({ state with caches := caches.setObservation observationId now faults response },
                .observation 200 response)

/-- `update_observation_endpoint`. -/
def updateObservationEndpoint (observationId : Nat) (request : UpdateObservationRequest) :
    State × Answer :=
  match updateObservation session state.db observationId request now with
  | .error _ => (state, .serverError)
  | .ok (db, none) => ({ state with db }, notFound)
  | .ok (db, some row) =>
      ({ state with db }, answerRow (observationId, row) (.observation 200))

/-- `process_observation`. -/
def processObservation (observationId : Nat) (faults : RedisFaults) : State × Answer :=
  match markProcessed session state.db observationId now with
  | (db, none) => ({ state with db }, notFound)
  | (db, some row) =>
      ({ db, caches := state.caches.invalidateObservationAllLayers observationId faults },
        answerRow (observationId, row) (.observation 200))

/-- `archive_observation`. -/
def archiveObservation (observationId : Nat) : State × Answer :=
  match softDeleteObservation session state.db observationId now with
  | (db, none) => ({ state with db }, .refused 404 "Observation not found or already archived")
  | (db, some row) =>
      ({ state with db }, answerRow (observationId, row) (.observation 200))

/-- A creation behind a rate limiter, which answers with `detail` when it refuses. -/
def createObservationLimited (detail : String) (allowed : Bool) (request : ObservationRequest) :
    State × Answer :=
  if allowed then
    match createObservation session now state.db request with
    | (db, .error _) => ({ state with db }, .serverError)
    | (db, .ok entry) => ({ state with db }, answerRow entry (.observation 201))
  else (state, .refused 429 detail)

/-- `create_observation_token_bucket`. -/
def createObservationTokenBucket :=
  createObservationLimited session state now "Rate limit exceeded (token bucket drained)"

/-- `create_observation_sliding_window`. -/
def createObservationSlidingWindow :=
  createObservationLimited session state now "Rate limit exceeded (sliding window full)"

/-- `list_observations_cursor`. -/
def listObservationsCursor (cursor : Option String) (limit : Nat) (source : Option String) :
    Answer :=
  match codec.getObservationsCursorPaginated session state.db cursor limit source with
  | .error _ => .serverError
  | .ok (observations, nextCursor, hasMore) =>
      answerRows observations fun responses => .cursorPage responses nextCursor hasMore limit

/-- `upsert_observation_endpoint`. -/
def upsertObservationEndpoint (request : ObservationRequest) (mode : UpsertMode) : State × Answer :=
  match upsertObservation session state.db request now with
  | (db, .error _) => ({ state with db }, .serverError)
  | (db, .ok (entry, created)) =>
      if created = false ∧ mode = .strict then
        ({ state with db }, .conflict request.source request.timestamp entry.1)
      else
        ({ state with db },
          answerRow entry fun response =>
            .upsert (if created then 201 else 200) response created mode)

end Routes

/-- A request to a route that validates rows themselves. A creation comes with the decision
of its rate limiter. -/
inductive Request where
  | list (skip limit : Nat) (source : Option String)
  | get (observationId : Nat) (faults : RedisFaults)
  | update (observationId : Nat) (request : UpdateObservationRequest)
  | process (observationId : Nat) (faults : RedisFaults)
  | archive (observationId : Nat)
  | tokenBucket (allowed : Bool) (request : ObservationRequest)
  | slidingWindow (allowed : Bool) (request : ObservationRequest)
  | cursor (cursor : Option String) (limit : Nat) (source : Option String)
  | upsert (request : ObservationRequest) (mode : UpsertMode)

section Requests

variable (codec : CursorCodec) (session : Session) (state : State) (now : Int)

/-- The route of a request. -/
def handle : Request → State × Answer
  | .list skip limit source => (state, listObservations session state skip limit source)
  | .get observationId faults => getObservationRoute session state now observationId faults
  | .update observationId request => updateObservationEndpoint session state now observationId request
  | .process observationId faults => processObservation session state now observationId faults
  | .archive observationId => archiveObservation session state now observationId
  | .tokenBucket allowed request => createObservationTokenBucket session state now allowed request
  | .slidingWindow allowed request =>
      createObservationSlidingWindow session state now allowed request
  | .cursor cursor limit source =>
      (state, listObservationsCursor codec session state cursor limit source)
  | .upsert request mode => upsertObservationEndpoint session state now request mode

/-- The rows the operation of a request returns, when it is called and succeeds. In strict
mode an upsert that meets a row has failed. -/
def returnedRows : Request → Option (List (Nat × Observation))
  | .list skip limit source =>
      (getObservations session state.db skip limit source).toOption.map Prod.fst
  | .get observationId faults =>
      if (state.caches.found observationId now faults).isSome then none
      else (getObservation session state.db observationId).map fun row => [(observationId, row)]
  | .update observationId request =>
      (updateObservation session state.db observationId request now).toOption.bind fun updated =>
        updated.2.map fun row => [(observationId, row)]
  | .process observationId _ =>
      (markProcessed session state.db observationId now).2.map fun row => [(observationId, row)]
  | .archive observationId =>
      (softDeleteObservation session state.db observationId now).2.map fun row =>
        [(observationId, row)]
  | .tokenBucket allowed request | .slidingWindow allowed request =>
      if allowed then (createObservation session now state.db request).2.toOption.map ([·]) else none
  | .cursor cursor limit source =>
      (codec.getObservationsCursorPaginated session state.db cursor limit source).toOption.map Prod.fst
  | .upsert request mode =>
      (upsertObservation session state.db request now).2.toOption.bind fun upserted =>
        if upserted.2 = false ∧ mode = .strict then none else some [upserted.1]

/-- No row is left to show: what each request would need to find is not there. -/
def NothingToShow : Request → Prop
  | .list skip limit source => ∀ sourceId, sourceFilter state.db source = .ok sourceId →
      limit = 0 ∨ (selectObservations session state.db fun _ row =>
        row.deletedAt.isNone && sourceId.all (row.sourceId == ·) &&
          session.tenantFilter row).length ≤ skip
  | .get observationId faults => (state.caches.found observationId now faults).isSome ∨
      getObservation session state.db observationId = none
  | .update observationId request => ∀ row, sessionGet session state.db observationId = some row →
      ∀ changed, request.apply state.db row = .ok changed →
        changed ≠ row ∧ timestampTaken state.db observationId changed
  | .process observationId _ => sessionGet session state.db observationId = none
  | .archive observationId => ∀ row, sessionGet session state.db observationId = some row →
      row.deletedAt.isSome
  | .tokenBucket allowed request | .slidingWindow allowed request =>
      allowed = true → ∀ sourceId, resolveSourceId state.db request.source = .ok sourceId →
        keyTaken state.db.observations (request.row session.tenantId now sourceId)
  | .cursor cursor limit source => ∀ position, codec.decodeCursor cursor = .ok position →
      position ≠ .malformed →
      limit = 0 ∨ cursorRows session state.db position source = []
  | .upsert request mode => ∀ sourceId, resolveSourceId state.db request.source = .ok sourceId →
      keyTaken state.db.observations (request.row session.tenantId now sourceId) ∧
        (mode = .strict ∨ (selectObservations session state.db fun _ row =>
          row.sourceId == sourceId && row.timestamp == request.timestamp &&
            row.deletedAt.isNone).length ≠ 1)

end Requests

/-- A response shows a row under the name of its source profile. -/
structure Shows (sources : Rows SourceProfile) (entry : Nat × Observation)
    (response : ObservationResponse) : Prop where
  source : ∃ profile, sources.get entry.2.sourceId = some profile ∧ response.source = profile.name
  id : response.id = entry.1
  timestamp : response.timestamp = entry.2.timestamp
  rawData : entry.2.rawData = .object response.rawData
  tags : response.tags = entry.2.tags
  processed : response.processed = entry.2.processed
  createdAt : response.createdAt = entry.2.createdAt
  updatedAt : response.updatedAt = entry.2.updatedAt
  deletedAt : response.deletedAt = entry.2.deletedAt

/-- What a request committed. -/
def Unchanged (before after : ObservationDb) : Prop :=
  after.sources = before.sources ∧ after.observations.get = before.observations.get

/-- The rows of the operation are shown, and no change is committed behind a server error. -/
structure Served (codec : CursorCodec) (session : Session) (state : State) (now : Int)
    (request : Request) : Prop where
  shown : ∀ rows, returnedRows codec session state now request = some rows →
    ∃ responses, (handle codec session state now request).2.observations = some responses ∧
      List.Forall₂ (Shows state.db.sources) rows responses
  committed : (handle codec session state now request).2 = .serverError →
    Unchanged state.db (handle codec session state now request).1.db

/-! ### A row has no source -/

/-- **A row is refused.** It has no attribute of the name `source`. -/
theorem validateRow_eq_none (entry : Nat × Observation) : validateRow entry = none := by
  have absent : rowAttribute entry "source" = none := by simp [rowAttribute, List.lookup_cons]
  simp only [validateRow, ObservationResponse.modelValidate, required, absent, Option.bind_none]
  cases (rowAttribute entry "id").bind Value.integer? <;> rfl

theorem answerRow_eq (entry : Nat × Observation) (answer : ObservationResponse → Answer) :
    answerRow entry answer = .serverError := by
  rw [answerRow, validateRow_eq_none]

theorem answerRows_cons (entry : Nat × Observation) (rest : List (Nat × Observation))
    (answer : List ObservationResponse → Answer) :
    answerRows (entry :: rest) answer = .serverError := by
  simp [answerRows, List.mapM_cons, validateRow_eq_none]

/-- The creation over `/api/v1` shows its row, when the profile is not deleted. -/
theorem created_shown {sources : Rows SourceProfile} {entry : Nat × Observation}
    {profile : SourceProfile} (stored : sources.get entry.2.sourceId = some profile)
    (active : profile.deletedAt = none) {fields : List (String × Json)}
    (dict : entry.2.rawData = .object fields) :
    ∃ response, ObservationResponse.modelValidate
      (createdAttribute (resolveSourceName sources entry.2.sourceId) entry) = some response ∧
      Shows sources entry response := by
  have name : resolveSourceName sources entry.2.sourceId = profile.name := by
    rw [resolveSourceName, getSourceProfile, stored, Option.filter_some, if_pos (by simp [active])]
  have stamp (column : String) {value : Option Int}
      (column_eq : createdAttribute profile.name entry column = some (Value.ofOption value)) :
      optionalDatetime (createdAttribute profile.name entry) column = some value := by
    cases value <;> simp [optionalDatetime, column_eq, Value.ofOption, Value.datetime?]
  have updated : optionalDatetime (createdAttribute profile.name entry) "updated_at" =
      some entry.2.updatedAt := stamp _ (by simp [createdAttribute, List.lookup_cons])
  have deleted : optionalDatetime (createdAttribute profile.name entry) "deleted_at" =
      some entry.2.deletedAt := stamp _ (by simp [createdAttribute, List.lookup_cons])
  let response : ObservationResponse :=
    { id := entry.1
      source := profile.name
      timestamp := entry.2.timestamp
      rawData := fields
      tags := entry.2.tags
      processed := entry.2.processed
      createdAt := entry.2.createdAt
      updatedAt := entry.2.updatedAt
      deletedAt := entry.2.deletedAt }
  refine ⟨response, ?_, ⟨profile, stored, rfl⟩, rfl, rfl, dict, rfl, rfl, rfl, rfl, rfl⟩
  rw [name, ObservationResponse.modelValidate, updated, deleted]
  simp [response, required, createdAttribute, List.lookup_cons, Value.integer?, Value.text?, Value.datetime?,
    Value.dict?, Value.strings?, Value.boolean?, dict]

/-! ### What an operation without rows leaves -/

section Steps

variable {codec : CursorCodec} {session : Session} {state : State} {now : Int}

theorem Unchanged.refl (db : ObservationDb) : Unchanged db db := ⟨rfl, rfl⟩

variable (session now) in
theorem createObservation_cases (db : ObservationDb) (request : ObservationRequest) :
    (∃ error, (createObservation session now db request).2 = .error error ∧
      Unchanged db (createObservation session now db request).1) ∨
    ∃ entry, (createObservation session now db request).2 = .ok entry := by
  unfold createObservation
  cases resolveSourceId db request.source with
  | error error => exact .inl ⟨error, rfl, .refl db⟩
  | ok sourceId =>
    by_cases taken : keyTaken db.observations (request.row session.tenantId now sourceId)
    · simp only [if_pos taken]
      exact .inl ⟨_, rfl, rfl, rfl⟩
    · simp only [if_neg taken]
      exact .inr ⟨_, rfl⟩

/-- The repository's creation of one row. -/
theorem createObservation_eq (db : ObservationDb) (request : ObservationRequest) :
    createObservations session db [request] now =
      ((createObservation session now db request).1,
        (createObservation session now db request).2.map fun _ => ()) := by
  unfold createObservations createObservation newRows
  cases resolved : resolveSourceId db request.source with
  | error error => simp [resolved, Except.map, bind, Except.bind]
  | ok sourceId =>
    by_cases taken : keyTaken db.observations (request.row session.tenantId now sourceId)
    · simp [resolved, Except.map, insertAll, taken, bind, Except.bind, pure, Except.pure]
    · simp [resolved, Except.map, insertAll, taken, bind, Except.bind, pure, Except.pure]

variable (session now) in
/-- An upsert that does not insert changes no row. -/
theorem upsertObservation_unchanged (db : ObservationDb) (request : ObservationRequest)
    (kept : ∀ entry, (upsertObservation session db request now).2 ≠ .ok (entry, true)) :
    Unchanged db (upsertObservation session db request now).1 := by
  unfold upsertObservation at kept ⊢
  cases resolved : resolveSourceId db request.source with
  | error error => exact .refl db
  | ok sourceId =>
    by_cases taken : keyTaken db.observations (request.row session.tenantId now sourceId)
    · simp only [if_pos taken]
      split <;> exact ⟨rfl, rfl⟩
    · simp [resolved, taken] at kept

theorem limited_row {detail : String} {allowed : Bool} {request : ObservationRequest}
    {entry : Nat × Observation} {rest : List (Nat × Observation)}
    (returned : (if allowed then
      (createObservation session now state.db request).2.toOption.map ([·]) else none) =
        some (entry :: rest)) :
    (createObservationLimited session state now detail allowed request).2 = .serverError := by
  cases allowed with
  | false => cases returned
  | true =>
    simp only [createObservationLimited, if_true] at returned ⊢
    cases result : createObservation session now state.db request with
    | mk db created =>
      cases created with
      | error error => rfl
      | ok entry => simp only [answerRow_eq]

/-- The rows of a page come with the page. -/
theorem page_of_rows {ε α β : Type} {answer : Except ε (α × β)} {rows : α}
    (returned : answer.toOption.map Prod.fst = some rows) : ∃ rest, answer = .ok (rows, rest) := by
  obtain ⟨⟨_, rest⟩, page, rfl⟩ := Option.map_eq_some_iff.mp returned
  exact ⟨rest, ok_of_toOption page⟩

/-- **A row is answered with a server error** on each of the routes. -/
theorem handle_row {request : Request} {entry : Nat × Observation} {rest : List (Nat × Observation)}
    (returned : returnedRows codec session state now request = some (entry :: rest)) :
    (handle codec session state now request).2 = .serverError := by
  cases request with
  | list skip limit source =>
    obtain ⟨total, page⟩ := page_of_rows returned
    simp only [handle, listObservations, page, answerRows_cons]
  | get observationId faults =>
    simp only [returnedRows] at returned
    split at returned
    · cases returned
    · rename_i miss
      obtain ⟨row, found, -⟩ := Option.map_eq_some_iff.mp returned
      rw [← Caches.getObservationWithLru_fst] at miss
      simp only [handle, getObservationRoute]
      cases hit : state.caches.getObservationWithLru observationId now faults with
      | mk cached caches =>
        rw [hit] at miss
        cases cached with
        | some response => simp at miss
        | none => simp only [found, validateRow_eq_none]
  | update observationId request =>
    simp only [returnedRows] at returned
    cases result : updateObservation session state.db observationId request now with
    | error error => rw [result] at returned; cases returned
    | ok updated =>
      obtain ⟨db, written⟩ := updated
      rw [result] at returned
      cases written with
      | none => cases returned
      | some row => simp only [handle, updateObservationEndpoint, result, answerRow_eq]
  | process observationId faults =>
    obtain ⟨row, found, -⟩ := Option.map_eq_some_iff.mp returned
    obtain ⟨db, result⟩ : ∃ db, markProcessed session state.db observationId now =
        (db, some row) := ⟨_, Prod.ext rfl found⟩
    simp only [handle, processObservation, result, answerRow_eq]
  | archive observationId =>
    obtain ⟨row, found, -⟩ := Option.map_eq_some_iff.mp returned
    obtain ⟨db, result⟩ : ∃ db, softDeleteObservation session state.db observationId now =
        (db, some row) := ⟨_, Prod.ext rfl found⟩
    simp only [handle, archiveObservation, result, answerRow_eq]
  | tokenBucket allowed request => exact limited_row returned
  | slidingWindow allowed request => exact limited_row returned
  | cursor cursor limit source =>
    obtain ⟨rest, page⟩ := page_of_rows returned
    simp only [handle, listObservationsCursor, page, answerRows_cons]
  | upsert request mode =>
    simp only [returnedRows] at returned
    cases result : upsertObservation session state.db request now with
    | mk db upserted =>
      rw [result] at returned
      cases upserted with
      | error error => cases returned
      | ok upserted =>
        obtain ⟨found, created⟩ := upserted
        simp only [Except.toOption, Option.bind_some] at returned
        split at returned
        · cases returned
        · rename_i shown
          simp only [handle, upsertObservationEndpoint, result, if_neg shown, answerRow_eq]

/-- An empty page is answered with no response. -/
theorem handle_empty {request : Request}
    (returned : returnedRows codec session state now request = some []) :
    (handle codec session state now request).2.observations = some [] := by
  cases request with
  | list skip limit source =>
    obtain ⟨total, page⟩ := page_of_rows returned
    simp only [handle, listObservations, page, answerRows, List.mapM_nil]
    rfl
  | cursor cursor limit source =>
    obtain ⟨rest, page⟩ := page_of_rows returned
    simp only [handle, listObservationsCursor, page, answerRows, List.mapM_nil]
    rfl
  | get observationId faults =>
    simp only [returnedRows] at returned
    split at returned <;> simp at returned
  | update observationId request => simp [returnedRows, Option.bind_eq_some_iff] at returned
  | process observationId faults => simp [returnedRows] at returned
  | archive observationId => simp [returnedRows] at returned
  | tokenBucket allowed request => simp [returnedRows] at returned
  | slidingWindow allowed request => simp [returnedRows] at returned
  | upsert request mode => simp [returnedRows, Option.bind_eq_some_iff] at returned

theorem updateObservation_none {db db' : ObservationDb} {observationId : Nat}
    {request : UpdateObservationRequest}
    (updated : updateObservation session db observationId request now = .ok (db', none)) :
    db' = db := by
  unfold updateObservation at updated
  split at updated
  · cases updated
    rfl
  · split at updated
    · cases updated
    · split at updated <;> simp at updated

theorem markProcessed_none {db : ObservationDb} {observationId : Nat}
    (written : (markProcessed session db observationId now).2 = none) :
    (markProcessed session db observationId now).1 = db := by
  unfold markProcessed at written ⊢
  cases found : sessionGet session db observationId with
  | none => rfl
  | some row => rw [found] at written; cases written

theorem softDeleteObservation_none {db : ObservationDb} {observationId : Nat}
    (written : (softDeleteObservation session db observationId now).2 = none) :
    (softDeleteObservation session db observationId now).1 = db := by
  unfold softDeleteObservation at written ⊢
  cases found : sessionGet session db observationId with
  | none => rfl
  | some row =>
    rw [found] at written
    simp only at written ⊢
    split at written
    · rename_i deleted
      rw [if_pos deleted]
    · cases written

theorem limited_unchanged {detail : String} {allowed : Bool} {request : ObservationRequest}
    (nothing : ∀ rows, (if allowed then
      (createObservation session now state.db request).2.toOption.map ([·]) else none) =
        some rows → rows = []) :
    Unchanged state.db (createObservationLimited session state now detail allowed request).1.db := by
  cases allowed with
  | false => exact .refl _
  | true =>
    rcases createObservation_cases session now state.db request with
      ⟨error, refused, unchanged⟩ | ⟨entry, created⟩
    · cases result : createObservation session now state.db request with
      | mk db outcome =>
        rw [result] at refused unchanged
        cases refused
        simp only [createObservationLimited, result, if_true]
        exact unchanged
    · rw [if_pos rfl, created] at nothing
      cases nothing _ rfl

/-- **Nothing is committed** by an operation that returns no row. -/
theorem handle_unchanged {request : Request}
    (nothing : ∀ rows, returnedRows codec session state now request = some rows → rows = []) :
    Unchanged state.db (handle codec session state now request).1.db := by
  cases request with
  | list skip limit source => exact .refl _
  | cursor cursor limit source => exact .refl _
  | get observationId faults =>
    simp only [handle, getObservationRoute]
    cases state.caches.getObservationWithLru observationId now faults with
    | mk cached caches =>
      cases cached with
      | some response => exact .refl _
      | none =>
        cases getObservation session state.db observationId with
        | none => exact .refl _
        | some row => simp only [validateRow_eq_none]; exact .refl _
  | update observationId request =>
    simp only [handle, updateObservationEndpoint]
    cases result : updateObservation session state.db observationId request now with
    | error error => exact .refl _
    | ok updated =>
      obtain ⟨db, written⟩ := updated
      cases written with
      | none => rw [updateObservation_none result]; exact .refl _
      | some row =>
        simp only [returnedRows, result] at nothing
        cases nothing _ rfl
  | process observationId faults =>
    cases written : (markProcessed session state.db observationId now).2 with
    | none =>
      have result : markProcessed session state.db observationId now = (state.db, none) :=
        Prod.ext (markProcessed_none written) written
      simp only [handle, processObservation, result]
      exact .refl _
    | some row =>
      simp only [returnedRows, written] at nothing
      cases nothing _ rfl
  | archive observationId =>
    cases written : (softDeleteObservation session state.db observationId now).2 with
    | none =>
      have result : softDeleteObservation session state.db observationId now = (state.db, none) :=
        Prod.ext (softDeleteObservation_none written) written
      simp only [handle, archiveObservation, result]
      exact .refl _
    | some row =>
      simp only [returnedRows, written] at nothing
      cases nothing _ rfl
  | tokenBucket allowed request => exact limited_unchanged nothing
  | slidingWindow allowed request => exact limited_unchanged nothing
  | upsert request mode =>
    have unchanged := upsertObservation_unchanged session now state.db request
      fun entry inserted => by
        simp only [returnedRows, inserted] at nothing
        cases nothing [entry] (by simp [Except.toOption])
    simp only [handle, upsertObservationEndpoint]
    cases result : upsertObservation session state.db request now with
    | mk db upserted =>
      rw [result] at unchanged
      cases upserted with
      | error error => exact unchanged
      | ok upserted => simp only; split <;> exact unchanged

/-! ### When there is nothing to show -/

theorem limited_nothing_iff {allowed : Bool} {request : ObservationRequest} :
    (∀ rows, (if allowed then
      (createObservation session now state.db request).2.toOption.map ([·]) else none) =
        some rows → rows = []) ↔
    (allowed = true → ∀ sourceId, resolveSourceId state.db request.source = .ok sourceId →
      keyTaken state.db.observations (request.row session.tenantId now sourceId)) := by
  cases allowed with
  | false => simp
  | true =>
    unfold createObservation
    cases resolveSourceId state.db request.source with
    | error error => simp [Except.toOption]
    | ok sourceId =>
      by_cases taken : keyTaken state.db.observations (request.row session.tenantId now sourceId)
      · simp [taken, Except.toOption]
      · simp [taken, Except.toOption]

theorem update_nothing_iff {observationId : Nat} {request : UpdateObservationRequest} :
    (∀ rows, returnedRows codec session state now (.update observationId request) = some rows →
      rows = []) ↔ NothingToShow codec session state now (.update observationId request) := by
  simp only [returnedRows, NothingToShow, updateObservation]
  cases sessionGet session state.db observationId with
  | none => simp [Except.toOption]
  | some row =>
    simp only [Option.some.injEq, forall_eq']
    cases request.apply state.db row with
    | error error => simp [Except.toOption]
    | ok changed =>
      simp only [Except.ok.injEq, forall_eq']
      by_cases refused : changed ≠ row ∧ timestampTaken state.db observationId changed = true
      · simp [Except.toOption, refused]
      · simp [Except.toOption, refused]

theorem upsert_nothing_iff {request : ObservationRequest} {mode : UpsertMode} :
    (∀ rows, returnedRows codec session state now (.upsert request mode) = some rows →
      rows = []) ↔ NothingToShow codec session state now (.upsert request mode) := by
  simp only [returnedRows, NothingToShow, upsertObservation]
  cases resolveSourceId state.db request.source with
  | error error => simp [Except.toOption]
  | ok sourceId =>
    by_cases taken : keyTaken state.db.observations (request.row session.tenantId now sourceId)
    · simp only [Except.ok.injEq, forall_eq', taken, true_and, selectObservations,
        Rows.select_reserve]
      generalize (state.db.observations.select fun _ row => session.policy row &&
        (row.sourceId == sourceId && row.timestamp == request.timestamp &&
          row.deletedAt.isNone)) = existing
      rcases existing with _ | ⟨first, _ | ⟨second, rest⟩⟩ <;> cases mode <;>
        simp [Except.toOption]
    · simp [Except.toOption, taken]

theorem nothingToShow_iff (request : Request) :
    (∀ rows, returnedRows codec session state now request = some rows → rows = []) ↔
      NothingToShow codec session state now request := by
  cases request with
  | list skip limit source =>
    simp only [returnedRows, NothingToShow, getObservations]
    cases sourceFilter state.db source with
    | error error => simp [Except.toOption]
    | ok sourceId => simp [Except.toOption, List.take_eq_nil_iff, List.drop_eq_nil_iff]
  | get observationId faults =>
    simp only [returnedRows, NothingToShow]
    by_cases hit : (state.caches.found observationId now faults).isSome = true
    · simp [hit]
    · cases getObservation session state.db observationId <;> simp [hit]
  | update observationId request => exact update_nothing_iff
  | process observationId faults =>
    simp only [returnedRows, NothingToShow, markProcessed]
    cases sessionGet session state.db observationId <;> simp
  | archive observationId =>
    simp only [returnedRows, NothingToShow, softDeleteObservation]
    cases sessionGet session state.db observationId with
    | none => simp
    | some row => by_cases deleted : row.deletedAt.isSome <;> simp [deleted]
  | tokenBucket allowed request => exact limited_nothing_iff
  | slidingWindow allowed request => exact limited_nothing_iff
  | cursor cursor limit source =>
    simp only [returnedRows, NothingToShow, CursorCodec.getObservationsCursorPaginated]
    cases codec.decodeCursor cursor with
    | error error => simp [Except.toOption]
    | ok position =>
      simp only [getObservationsCursorPaginated, Except.ok.injEq, forall_eq']
      by_cases malformed : position = .malformed
      · simp [Except.toOption, malformed]
      · simp [Except.toOption, malformed, List.take_eq_nil_iff, orderBy_eq_nil_iff]
  | upsert request mode => exact upsert_nothing_iff

/-- No response can show a row, so a served request has none to show. -/
theorem Served.nothingToShow {request : Request}
    (served : Served codec session state now request) :
    NothingToShow codec session state now request := by
  rw [← nothingToShow_iff]
  intro rows returned
  cases rows with
  | nil => rfl
  | cons entry rest =>
    obtain ⟨responses, shown, -⟩ := served.shown _ returned
    rw [handle_row returned] at shown
    cases shown

theorem served_of_nothingToShow {request : Request}
    (nothing : NothingToShow codec session state now request) :
    Served codec session state now request := by
  rw [← nothingToShow_iff] at nothing
  refine ⟨fun rows returned => ⟨[], ?_, ?_⟩, fun _ => handle_unchanged nothing⟩
  · exact handle_empty (nothing rows returned ▸ returned)
  · rw [nothing rows returned]
    exact .nil

/-- **When a request is served**: exactly when it has no row to show. -/
theorem responses_served_iff (request : Request) :
    Served codec session state now request ↔ NothingToShow codec session state now request :=
  ⟨Served.nothingToShow, served_of_nothingToShow⟩

end Steps

/-! ### A processed row -/

def storedRow : Observation where
  sourceId := 1
  timestamp := 1000
  rawData := .object [("temperature", .number "22.5")]
  tenantId := none

/-- One observation of one source. -/
def storedState : State where
  db :=
    { observations := .single 1 storedRow
      sources := .single 1 { id := 1, name := "sensor", baseUrl := "https://sensor", tenantId := none } }
  caches := .empty

def reader : Session := { tenantId := none }

/-- The row is marked as processed, and the request is answered with a server error. -/
theorem processed_not_served :
    let result := handle CursorCodec.sampleCodec reader storedState 5000 (.process 1 {})
    result.2 = .serverError ∧
      (result.1.db.observations.get 1).map Observation.processed = some true ∧
      ¬ Served CursorCodec.sampleCodec reader storedState 5000 (.process 1 {}) := by
  have loaded : sessionGet reader storedState.db 1 = some storedRow := by decide
  refine ⟨by decide, by decide, fun served => ?_⟩
  have nothing := served.nothingToShow
  rw [NothingToShow, loaded] at nothing
  cases nothing

end ApiObservatory.Responses
