import ApiObservatory.Foundation.Json
import ApiObservatory.Foundation.Keyset
import ApiObservatory.Repositories.Observations
import ApiObservatory.Time
import Mathlib.Data.List.Chain
import Std.Data.String.ToInt

/-
Walking through the observations with `next_cursor`
(`services/ingestor/repositories/observations_queries.py`).

The cursor is the text of the last row's id and timestamp. Writing and reading it is left to
the standard library, a parameter here whose round trips are assumed. A cursor that the
function gave out then selects the rows behind that row in (timestamp, id) order, so a walk
over changing tables is a walk behind keys (`keyWalk_of_walk`).
-/

namespace ApiObservatory

open Foundation

/-- The functions of the standard library a cursor is written and read with; `none` is a
`ValueError`. -/
structure CursorCodec where
  isoformat : Int → String
  fromisoformat : String → Option Datetime
  dumps : Json → String
  loads : String → Option Json
  b64encode : String → String
  b64decode : String → Option String

/-- The dictionary of a cursor. -/
def cursorData (observationId : Nat) (timestamp : String) : Json :=
  .object [("id", .number observationId.repr), ("timestamp", .string timestamp)]

/-- What `get_observations_cursor_paginated` raises. -/
inductive CursorError where
  | attributeError
  | typeError
  | query (error : ObservationError)
deriving DecidableEq

namespace CursorCodec

variable (codec : CursorCodec)

/-- The round trips of the library, and how it reads the empty text. -/
structure RoundTrips : Prop where
  isoformat : ∀ timestamp, codec.fromisoformat (codec.isoformat timestamp) = some ⟨timestamp, none⟩
  json : ∀ observationId timestamp,
    codec.loads (codec.dumps (cursorData observationId timestamp)) =
      some (cursorData observationId timestamp)
  base64 : ∀ text, codec.b64decode (codec.b64encode text) = some text
  fromisoformat_empty : codec.fromisoformat "" = none
  loads_empty : codec.loads "" = none
  b64decode_empty : codec.b64decode "" = some ""

/-- `_encode_cursor`; a timestamp is always true. -/
def encodeCursor (observationId : Nat) (timestamp : Int) : String :=
  codec.b64encode (codec.dumps (cursorData observationId (codec.isoformat timestamp)))

/-- `data.get("id")` with the timestamp: only an integer makes a position. -/
def cursorAt (observationId : Option Json) (timestamp : Int) : Cursor :=
  match observationId with
  | some (.number literal) =>
      match literal.toInt? with
      | some id => .position id timestamp
      | none => .malformed
  | _ => .malformed

/-- `_decode_cursor`; it catches no error but a `ValueError`. An aware timestamp is no value for
the column. -/
def decodeCursor (cursor : Option String) : Except CursorError Cursor :=
  let cursor := cursor.getD ""
  if cursor = "" then .ok .missing
  else
    match (codec.b64decode cursor).bind codec.loads with
    | none => .ok .missing
    | some (.object data) =>
        match (data.lookup "timestamp").filter truthy with
        | none => .ok .malformed
        | some (.string text) =>
            match codec.fromisoformat text with
            | none => .ok .missing
            | some ⟨_, some _⟩ => .ok .malformed
            | some ⟨timestamp, none⟩ => .ok (cursorAt (data.lookup "id") timestamp)
        | some _ => .error .typeError
    | some _ => .error .attributeError

/-- `get_observations_cursor_paginated` over cursor texts. -/
def getObservationsCursorPaginated (session : Session) (db : ObservationDb)
    (cursor : Option String := none) (limit : Nat := 50) (source : Option String := none) :
    Except CursorError (List (Nat × Observation) × Option String × Bool) :=
  match codec.decodeCursor cursor with
  | .error error => .error error
  | .ok cursor =>
      match ApiObservatory.getObservationsCursorPaginated session db cursor limit source with
      | .error error => .error (.query error)
      | .ok (observations, nextCursor, hasMore) =>
          .ok (observations, nextCursor.map fun (id, timestamp) => codec.encodeCursor id timestamp,
            hasMore)

/-- Following `next_cursor` until it is none, with the table each request found and the page
it returned. -/
inductive Walk (session : Session) (limit : Nat) (source : Option String) :
    Option String → List ObservationDb → List (List (Nat × Observation)) → Prop where
  | last {cursor : Option String} {db : ObservationDb} {observations : List (Nat × Observation)}
      {hasMore : Bool} :
      codec.getObservationsCursorPaginated session db cursor limit source =
        .ok (observations, none, hasMore) →
      Walk session limit source cursor [db] [observations]
  | more {cursor : Option String} {db : ObservationDb} {observations : List (Nat × Observation)}
      {nextCursor : String} {hasMore : Bool} {dbs : List ObservationDb}
      {pages : List (List (Nat × Observation))} :
      codec.getObservationsCursorPaginated session db cursor limit source =
        .ok (observations, some nextCursor, hasMore) →
      Walk session limit source (some nextCursor) dbs pages →
      Walk session limit source cursor (db :: dbs) (observations :: pages)

end CursorCodec

/-- The source filter names a registered source, or there is none. -/
def Names (db : ObservationDb) (source : Option String) (sourceId : Option Nat) : Prop :=
  match source with
  | none => sourceId = none
  | some source => source ≠ "" ∧ ∃ id, resolveSourceIdByName db source = some id ∧ sourceId = some id

/-- The active rows of a source that the session sees. -/
def matching (session : Session) (sourceId : Option Nat) (db : ObservationDb) :
    List (Nat × Observation) :=
  selectObservations session db fun _ row =>
    row.deletedAt.isNone && sourceId.all (row.sourceId == ·)

/-- Rows that are still there have the timestamp they had. -/
def TimestampsKept (before after : ObservationDb) : Prop :=
  ∀ id row row', before.observations.get id = some row → after.observations.get id = some row' →
    row'.timestamp = row.timestamp

/-! ### A cursor that was given out -/

namespace CursorCodec

variable {codec : CursorCodec} {session : Session} {db : ObservationDb} {limit : Nat}
  {source : Option String} {sourceId : Option Nat}

theorem encodeCursor_ne_empty (laws : codec.RoundTrips) (observationId : Nat) (timestamp : Int) :
    codec.encodeCursor observationId timestamp ≠ "" := by
  intro empty
  have decoded := laws.base64 (codec.dumps (cursorData observationId (codec.isoformat timestamp)))
  rw [← encodeCursor, empty, laws.b64decode_empty, Option.some.injEq] at decoded
  have loaded := laws.json observationId (codec.isoformat timestamp)
  rw [← decoded, laws.loads_empty] at loaded
  cases loaded

theorem isoformat_ne_empty (laws : codec.RoundTrips) (timestamp : Int) :
    codec.isoformat timestamp ≠ "" := by
  intro empty
  have parsed := laws.isoformat timestamp
  rw [empty, laws.fromisoformat_empty] at parsed
  cases parsed

/-- A cursor is read back as the position it was written for. -/
theorem decodeCursor_encodeCursor (laws : codec.RoundTrips) (observationId : Nat) (timestamp : Int) :
    codec.decodeCursor (some (codec.encodeCursor observationId timestamp)) =
      .ok (.position observationId timestamp) := by
  have decoded : (codec.b64decode (codec.encodeCursor observationId timestamp)).bind codec.loads =
      some (cursorData observationId (codec.isoformat timestamp)) := by
    rw [encodeCursor, laws.base64, Option.bind_some, laws.json]
  have read : observationId.repr.toInt? = some (observationId : Int) :=
    Int.toInt?_repr observationId
  have given : truthy (.string (codec.isoformat timestamp)) = true :=
    bne_iff_ne.mpr (isoformat_ne_empty laws timestamp)
  have stamp : List.lookup "timestamp" [("id", Json.number observationId.repr),
      ("timestamp", Json.string (codec.isoformat timestamp))] =
      some (.string (codec.isoformat timestamp)) := rfl
  simp only [decodeCursor, Option.getD_some, if_neg (encodeCursor_ne_empty laws _ _), decoded,
    cursorData, stamp, Option.filter_some, given, if_true, laws.isoformat]
  simp [cursorAt, read]

/-- The text of a key. -/
def cursorText (codec : CursorCodec) (after : Option (Int ×ₗ Nat)) : Option String :=
  after.map fun key => codec.encodeCursor (ofLex key).2 (ofLex key).1

/-- The position of a key. -/
def keyCursor : Option (Int ×ₗ Nat) → Cursor
  | none => .missing
  | some key => .position (ofLex key).2 (ofLex key).1

theorem decodeCursor_cursorText (laws : codec.RoundTrips) (after : Option (Int ×ₗ Nat)) :
    codec.decodeCursor (codec.cursorText after) = .ok (keyCursor after) := by
  cases after with
  | none => simp [cursorText, keyCursor, decodeCursor]
  | some key => exact decodeCursor_encodeCursor laws _ _

theorem sourceIdByName_of_names (names : Names db source sourceId) :
    sourceIdByName db source = sourceId := by
  cases source with
  | none => simp [sourceIdByName, Names] at names ⊢; exact names.symm
  | some source =>
    obtain ⟨nonempty, id, resolved, rfl⟩ := names
    simp [sourceIdByName, nonempty, resolved]

/-- The position of a key selects the matching rows behind the key. -/
theorem cursorRows_keyCursor (names : Names db source sourceId) (after : Option (Int ×ₗ Nat)) :
    cursorRows session db (keyCursor after) source =
      rowsAfter oldestFirst after (matching session sourceId db) := by
  rw [cursorRows, rowsAfter, matching, selectObservations, selectObservations, Rows.select,
    Rows.select, List.filter_filter, sourceIdByName_of_names names]
  refine List.filter_congr fun entry _ => ?_
  obtain ⟨id, row⟩ := entry
  cases after with
  | none => simp [keyCursor, Cursor.behind]
  | some key =>
    have behind : (keyCursor (some key)).behind id row = decide (key < oldestFirst (id, row)) := by
      rw [Bool.eq_iff_iff, decide_eq_true_iff, Prod.Lex.lt_iff]
      simp [keyCursor, Cursor.behind, oldestFirst, eq_comm (a := row.timestamp)]
    rw [behind, Option.all_some]
    grind

theorem matching_distinct (session : Session) (sourceId : Option Nat) (db : ObservationDb) :
    ((matching session sourceId db).map oldestFirst).Nodup :=
  selectObservations_distinct session db _ oldestFirst (fun key => (ofLex key).2) fun _ => rfl

/-- The look-ahead row tells whether there are rows behind the page. -/
theorem page_of_keyCursor (names : Names db source sourceId) (after : Option (Int ×ₗ Nat)) :
    ApiObservatory.getObservationsCursorPaginated session db (keyCursor after) limit source =
      .ok (pageAfter oldestFirst limit after (matching session sourceId db),
        (nextAfter oldestFirst limit after (matching session sourceId db)).map fun key =>
          ((ofLex key).2, (ofLex key).1),
        decide (limit < (rowsAfter oldestFirst after (matching session sourceId db)).length)) := by
  have wellFormed : keyCursor after ≠ .malformed := by cases after <;> simp [keyCursor]
  have ahead (n : Nat) : limit < min (limit + 1) n ↔ limit < n := by omega
  simp only [ApiObservatory.getObservationsCursorPaginated, if_neg wellFormed,
    cursorRows_keyCursor names, List.take_take, List.length_take, length_orderBy, ahead, pageAfter,
    nextAfter, decide_eq_true_eq, Nat.min_eq_left (Nat.le_succ limit)]
  split <;> simp [Function.comp_def, oldestFirst]

variable (session limit) in
/-- **One request** with a cursor that was given out returns the page behind its key. -/
theorem getObservationsCursorPaginated_eq (laws : codec.RoundTrips)
    (names : Names db source sourceId) (after : Option (Int ×ₗ Nat)) :
    codec.getObservationsCursorPaginated session db (codec.cursorText after) limit source =
      .ok (pageAfter oldestFirst limit after (matching session sourceId db),
        codec.cursorText (nextAfter oldestFirst limit after (matching session sourceId db)),
        decide (limit < (rowsAfter oldestFirst after (matching session sourceId db)).length)) := by
  rw [getObservationsCursorPaginated, decodeCursor_cursorText laws]
  simp only [page_of_keyCursor names, Option.map_map, cursorText, Function.comp_def]

/-! ### A walk of requests -/

/-- **Following the cursor** is a walk behind the keys of the matching rows. -/
theorem keyWalk_of_walk (laws : codec.RoundTrips) {after : Option (Int ×ₗ Nat)}
    {dbs : List ObservationDb} {pages : List (List (Nat × Observation))}
    (walk : codec.Walk session limit source (codec.cursorText after) dbs pages)
    (names : ∀ db ∈ dbs, Names db source sourceId) :
    PageWalk oldestFirst limit after (dbs.map (matching session sourceId)) pages := by
  generalize start : codec.cursorText after = cursor at walk
  induction walk generalizing after with
  | last page =>
    subst start
    rw [getObservationsCursorPaginated_eq session limit laws (names _ List.mem_cons_self)] at page
    simp only [Except.ok.injEq, Prod.mk.injEq] at page
    obtain ⟨rfl, next, -⟩ := page
    exact .last (Option.map_eq_none_iff.mp next)
  | more page rest ih =>
    subst start
    rw [getObservationsCursorPaginated_eq session limit laws (names _ List.mem_cons_self)] at page
    simp only [Except.ok.injEq, Prod.mk.injEq] at page
    obtain ⟨rfl, next, -⟩ := page
    obtain ⟨key, found, rfl⟩ := Option.map_eq_some_iff.mp next
    exact .more found (ih (fun db mem => names db (List.mem_cons_of_mem _ mem)) rfl)

/-- A walk behind keys can be made by requests. -/
theorem walk_of_keyWalk (laws : codec.RoundTrips) {after : Option (Int ×ₗ Nat)}
    {tables pages : List (List (Nat × Observation))} (walk : PageWalk oldestFirst limit after tables pages)
    {dbs : List ObservationDb} (read : dbs.map (matching session sourceId) = tables)
    (names : ∀ db ∈ dbs, Names db source sourceId) :
    codec.Walk session limit source (codec.cursorText after) dbs pages := by
  induction walk generalizing dbs with
  | @last after rows last =>
    obtain ⟨db, rfl, rfl⟩ := List.map_eq_singleton_iff.mp read
    have page := getObservationsCursorPaginated_eq session limit laws (names db List.mem_cons_self) after
    rw [last] at page
    exact .last page
  | @more after rows next tables pages more rest ih =>
    obtain ⟨db, dbs, rfl, rfl, readRest⟩ := List.map_eq_cons_iff.mp read
    have page := getObservationsCursorPaginated_eq session limit laws (names db List.mem_cons_self) after
    rw [more] at page
    exact .more page (ih readRest fun db mem => names db (List.mem_cons_of_mem _ mem))

/-- A row that is there throughout keeps one timestamp. -/
theorem timestamp_throughout {dbs : List ObservationDb} (kept : dbs.IsChain TimestampsKept) {id : Nat}
    (present : ∀ db ∈ dbs, ∃ row, db.observations.get id = some row) :
    ∃ timestamp, ∀ db ∈ dbs, ∀ row, db.observations.get id = some row →
      row.timestamp = timestamp := by
  induction dbs with
  | nil => exact ⟨0, by simp⟩
  | cons db rest ih =>
    obtain ⟨row, stored⟩ := present db List.mem_cons_self
    cases rest with
    | nil =>
      refine ⟨row.timestamp, fun other mem row' stored' => ?_⟩
      rw [List.mem_singleton.mp mem, stored] at stored'
      exact congrArg Observation.timestamp (Option.some.inj stored').symm
    | cons second rest =>
      obtain ⟨first, keptRest⟩ := List.isChain_cons_cons.mp kept
      obtain ⟨timestamp, same⟩ := ih keptRest fun db mem => present db (List.mem_cons_of_mem _ mem)
      refine ⟨timestamp, List.forall_mem_cons.mpr ⟨fun row' stored' => ?_, same⟩⟩
      obtain ⟨next, storedNext⟩ := present second (List.mem_cons_of_mem _ List.mem_cons_self)
      rw [← first id row' next stored' storedNext]
      exact same second List.mem_cons_self next storedNext

/-- What a walk from the first page to the last returns. -/
structure Complete (session : Session) (limit : Nat) (sourceId : Option Nat)
    (dbs : List ObservationDb) (pages : List (List (Nat × Observation))) : Prop where
  full : ∀ page ∈ pages.dropLast, page.length = limit
  bounded : ∀ page ∈ pages.getLast?, page.length ≤ limit
  ordered : pages.flatten.Pairwise fun a b => oldestFirst a < oldestFirst b
  sound : ∀ entry ∈ pages.flatten, ∃ db ∈ dbs, entry ∈ matching session sourceId db
  /-- On a table that does not change: its matching rows, in order. -/
  unchanged : ∀ db, (∀ other ∈ dbs, other = db) →
    pages.flatten = orderBy oldestFirst (matching session sourceId db)
  /-- A row that matched throughout is returned once. -/
  throughout : dbs.IsChain TimestampsKept → ∀ id,
    (∀ db ∈ dbs, ∃ row, (id, row) ∈ matching session sourceId db) →
    ∃ row, (pages.flatten.filter fun entry => entry.1 == id) = [(id, row)]

/-- A row of the walk that matched throughout: its key stands in every table. -/
theorem returned_once {dbs : List ObservationDb} {pages : List (List (Nat × Observation))}
    (walk : PageWalk oldestFirst limit none (dbs.map (matching session sourceId)) pages)
    (positive : 1 ≤ limit) (kept : dbs.IsChain TimestampsKept) {id : Nat}
    (matched : ∀ db ∈ dbs, ∃ row, (id, row) ∈ matching session sourceId db) :
    ∃ row, (pages.flatten.filter fun entry => entry.1 == id) = [(id, row)] := by
  have distinct : ∀ rows ∈ dbs.map (matching session sourceId), (rows.map oldestFirst).Nodup :=
    List.forall_mem_map.mpr fun db _ => matching_distinct session sourceId db
  have stored {db : ObservationDb} {row : Observation} (mem : (id, row) ∈ matching session sourceId db) :
      db.observations.get id = some row := (mem_selectObservations.mp mem).1
  obtain ⟨timestamp, same⟩ := timestamp_throughout kept fun db mem =>
    (matched db mem).imp fun _ mem => stored mem
  have sameKey : ∀ entry ∈ pages.flatten, entry.1 = id → oldestFirst entry = toLex (timestamp, id) := by
    rintro ⟨_, row⟩ mem rfl
    obtain ⟨⟨rows, read, mem⟩, -⟩ := walk.sound mem
    obtain ⟨db, mem', rfl⟩ := List.mem_map.mp read
    rw [oldestFirst, same db mem' row (stored mem)]
  obtain ⟨⟨_, row⟩, returned, key⟩ := walk.complete positive distinct (k := toLex (timestamp, id))
    (by simp) (List.forall_mem_map.mpr fun db mem => by
      obtain ⟨row, mem'⟩ := matched db mem
      exact ⟨_, mem', by rw [oldestFirst, same db mem row (stored mem')]⟩)
  obtain ⟨-, named⟩ := Prod.mk.inj (toLex.injective key)
  subst named
  refine ⟨row, filter_eq_singleton (walk.strict distinct) returned (beq_self_eq_true _) ?_⟩
  intro other mem named
  rw [sameKey other mem (eq_of_beq named), key]

/-- **Pagination is complete.** Following the cursor over a table that does not change ends,
and every walk that ends returns full pages but the last, in order, without a duplicate, and
each row that matched throughout. -/
theorem pagination_complete (laws : codec.RoundTrips) (positive : 1 ≤ limit) :
    (∀ db, Names db source sourceId →
      ∃ n pages, codec.Walk session limit source none (List.replicate n db) pages) ∧
    ∀ dbs pages, codec.Walk session limit source none dbs pages →
      (∀ db ∈ dbs, Names db source sourceId) → Complete session limit sourceId dbs pages := by
  constructor
  · intro db names
    obtain ⟨n, pages, walk⟩ :=
      PageWalk.exists_unchanged oldestFirst limit (matching session sourceId db) none
    have named : ∀ other ∈ List.replicate n db, Names other source sourceId := by
      intro other mem
      rw [List.eq_of_mem_replicate mem]
      exact names
    exact ⟨n, pages, walk_of_keyWalk laws walk List.map_replicate named⟩
  · intro dbs pages walk names
    have keyWalk : PageWalk oldestFirst limit none (dbs.map (matching session sourceId)) pages :=
      keyWalk_of_walk laws walk names
    have distinct : ∀ rows ∈ dbs.map (matching session sourceId), (rows.map oldestFirst).Nodup :=
      List.forall_mem_map.mpr fun db _ => matching_distinct session sourceId db
    refine ⟨keyWalk.full, ?_, keyWalk.strict distinct, ?_, ?_, ?_⟩
    · exact fun page mem => keyWalk.bounded page (List.mem_of_getLast? mem)
    · intro entry mem
      obtain ⟨⟨rows, read, mem⟩, -⟩ := keyWalk.sound mem
      obtain ⟨db, found, rfl⟩ := List.mem_map.mp read
      exact ⟨db, found, mem⟩
    · intro db same
      have all := keyWalk.of_unchanged positive (matching_distinct session sourceId db)
        (List.forall_mem_map.mpr fun other mem => congrArg _ (same other mem))
      rwa [rowsAfter_none] at all
    · exact fun kept id matched => returned_once keyWalk positive kept matched

/-! ### Three rows, two of them with one timestamp -/

/-- A writer that has one known text. -/
def knownOr {α : Type} [DecidableEq α] (value : α) (text : String) (write : α → String) (x : α) :
    String :=
  if x = value then text else write x

/-- A reader that knows one text. -/
def readKnownOr {α : Type} (value : α) (text : String) (read : String → Option α) (written : String) :
    Option α :=
  if written = text then some value else read written

theorem readKnownOr_knownOr {α : Type} [DecidableEq α] (value : α) (text : String)
    {write : α → String} {read : String → Option α} (reads : ∀ x, read (write x) = some x)
    (apart : ∀ x, write x ≠ text) (x : α) :
    readKnownOr value text read (knownOr value text write x) = some x := by
  by_cases known : x = value
  · rw [knownOr, if_pos known, readKnownOr, if_pos rfl, known]
  · rw [knownOr, if_neg known, readKnownOr, if_neg (apart x), reads]

/-- 2024-01-01, a microsecond after midnight. -/
def sampleTime : Int := 1704067200000001

def sampleStamp : String := "2024-01-01T00:00:00.000001"

def sampleJson : String := "\x7b\"id\":2,\"timestamp\":\"2024-01-01T00:00:00.000001\"\x7d"

def sampleBase64 : String :=
  "eyJpZCI6MiwidGltZXN0YW1wIjoiMjAyNC0wMS0wMVQwMDowMDowMC4wMDAwMDEifQ=="

def writeTime (timestamp : Int) : String := String.ofList ('t' :: timestamp.repr.toList)

def readTime (text : String) : Option Int :=
  match text.toList with
  | 't' :: digits => (String.ofList digits).toInt?
  | _ => none

def writePair (pair : Nat × String) : String :=
  String.ofList (List.replicate pair.1 'i' ++ 's' :: pair.2.toList)

def readPair (text : String) : Option (Nat × String) :=
  match text.toList.dropWhile (· == 'i') with
  | 's' :: rest => some ((text.toList.takeWhile (· == 'i')).length, String.ofList rest)
  | _ => none

def writeText (text : String) : String := String.ofList ('=' :: text.toList)

def readText (text : String) : Option String :=
  match text.toList with
  | [] => some ""
  | '=' :: rest => some (String.ofList rest)
  | _ => none

/-- The library's texts for one cursor; those of the others only differ from them. -/
def sampleCodec : CursorCodec where
  isoformat := knownOr sampleTime sampleStamp writeTime
  fromisoformat text := (readKnownOr sampleTime sampleStamp readTime text).map (⟨·, none⟩)
  dumps
    | .object [(_, .number literal), (_, .string text)] =>
        knownOr (2, sampleStamp) sampleJson writePair (literal.toNat?.getD 0, text)
    | _ => ""
  loads text :=
    (readKnownOr (2, sampleStamp) sampleJson readPair text).map fun (id, timestamp) =>
      cursorData id timestamp
  b64encode := knownOr sampleJson sampleBase64 writeText
  b64decode := readKnownOr sampleJson sampleBase64 readText

theorem readTime_writeTime (timestamp : Int) : readTime (writeTime timestamp) = some timestamp := by
  simp [readTime, writeTime, Int.toInt?_repr]

theorem readPair_writePair (pair : Nat × String) : readPair (writePair pair) = some pair := by
  have run : ∀ c ∈ List.replicate pair.1 'i', (c == 'i') = true := fun c mem =>
    beq_iff_eq.mpr (List.eq_of_mem_replicate mem)
  simp [readPair, writePair, List.dropWhile_append_of_pos run, List.takeWhile_append_of_pos run]

theorem writePair_ne_sampleJson (pair : Nat × String) : writePair pair ≠ sampleJson := by
  intro same
  have chars := congrArg String.toList same
  obtain ⟨id, timestamp⟩ := pair
  cases id with
  | zero => simp [writePair, sampleJson] at chars
  | succ id => simp [writePair, sampleJson, List.replicate_succ] at chars

theorem readText_writeText (text : String) : readText (writeText text) = some text := by
  simp [readText, writeText]

theorem sampleCodec_roundTrips : sampleCodec.RoundTrips where
  isoformat timestamp := by
    have read := readKnownOr_knownOr sampleTime sampleStamp readTime_writeTime
      (fun other same => by simpa [writeTime, sampleStamp] using congrArg String.toList same) timestamp
    simp only [sampleCodec, read, Option.map_some]
  json observationId timestamp := by
    have read := readKnownOr_knownOr (2, sampleStamp) sampleJson readPair_writePair
      writePair_ne_sampleJson (observationId, timestamp)
    simp only [sampleCodec, cursorData, Nat.toNat?_repr, Option.getD_some, read, Option.map_some]
  base64 text := by
    exact readKnownOr_knownOr sampleJson sampleBase64 readText_writeText
      (fun other same => by simpa [writeText, sampleBase64] using congrArg String.toList same) text
  fromisoformat_empty := by decide
  loads_empty := by decide
  b64decode_empty := by decide

def sampleRow (sourceId : Nat) (timestamp : Int) : Observation where
  sourceId
  timestamp
  rawData := .null
  tenantId := some 1

/-- Rows of two sources share a timestamp, and one of the first is later. -/
def sampleBefore : ObservationDb where
  observations := ((Rows.empty.insert (sampleRow 1 sampleTime)).insert
    (sampleRow 2 sampleTime)).insert (sampleRow 1 (sampleTime + 5))
  sources := Rows.empty

/-- A row of a third source arrives with the shared timestamp, and the first is deleted. -/
def sampleAfter : ObservationDb :=
  { sampleBefore with
    observations := (sampleBefore.observations.insert (sampleRow 3 sampleTime)).remove 1 }

/-- The second page starts behind the second of the three equal timestamps. -/
theorem pagination_complete_sample :
    let session : Session := { tenantId := some 1 }
    ∃ pages, sampleCodec.Walk session 2 none none [sampleBefore, sampleAfter] pages ∧
      pages.map (·.map Prod.fst) = [[1, 2], [4, 3]] ∧
      Complete session 2 none [sampleBefore, sampleAfter] pages := by
  intro session
  have names : ∀ db ∈ [sampleBefore, sampleAfter], Names db none none := fun _ _ => rfl
  have more : nextAfter oldestFirst 2 none (matching session none sampleBefore) =
      some (toLex (sampleTime, 2)) := by decide
  have last : nextAfter oldestFirst 2 (some (toLex (sampleTime, 2)))
      (matching session none sampleAfter) = none := by decide
  have walk : sampleCodec.Walk session 2 none none [sampleBefore, sampleAfter] _ :=
    walk_of_keyWalk sampleCodec_roundTrips (.more more (.last last)) rfl names
  have ids : [pageAfter oldestFirst 2 none (matching session none sampleBefore),
      pageAfter oldestFirst 2 (some (toLex (sampleTime, 2))) (matching session none sampleAfter)].map
        (·.map Prod.fst) = [[1, 2], [4, 3]] := by decide
  exact ⟨_, walk, ids, (pagination_complete sampleCodec_roundTrips (by decide)).2 _ _ walk names⟩

end CursorCodec

end ApiObservatory
