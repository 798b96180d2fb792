import ApiObservatory.Observations.CursorPagination

/-
What `_decode_cursor` makes of any text (`services/ingestor/repositories/observations_queries.py`).

Its `except` names three classes of errors, and the lookups in the decoded value raise others. What it
returns goes into a query as it is, whatever its types are. The standard library is the parameter of
the walks; a nesting too deep for `json.loads` is a second one.
-/

namespace ApiObservatory

open Foundation

/-- An error that `_decode_cursor` does not catch. -/
inductive DecodeError where
  | attributeError
  | typeError
  | recursionError
deriving DecidableEq

/-- The pair of `_decode_cursor`; an id that is not there is none. -/
structure DecodedCursor where
  observationId : Option Json
  timestamp : Option Datetime

namespace CursorCodec

variable (codec : CursorCodec) (tooDeep : String → Bool)

/-- `data.get` and `datetime.fromisoformat`. -/
def readCursor : Json → Except DecodeError (Option DecodedCursor)
  | .object data =>
      match (data.lookup "timestamp").filter truthy with
      | none => .ok (some ⟨data.lookup "id", none⟩)
      | some (.string text) =>
          .ok ((codec.fromisoformat text).map fun timestamp => ⟨data.lookup "id", some timestamp⟩)
      | some _ => .error .typeError
  | _ => .error .attributeError

/-- `_decode_cursor`. -/
def decode (cursor : Option String) : Except DecodeError (Option DecodedCursor) :=
  let cursor := cursor.getD ""
  if cursor = "" then .ok none
  else
    match codec.b64decode cursor with
    | none => .ok none
    | some jsonStr =>
        if tooDeep jsonStr then .error .recursionError
        else
          match codec.loads jsonStr with
          | none => .ok none
          | some data => codec.readCursor data

end CursorCodec

/-- An integer of the `id` column. -/
def isColumnInteger (value : Int) : Prop := -2147483648 ≤ value ∧ value ≤ 2147483647

instance (value : Int) : Decidable (isColumnInteger value) := inferInstanceAs (Decidable (_ ∧ _))

/-- An integer and a `datetime` that the query can compare with the columns. -/
def DecodedCursor.Comparable (decoded : DecodedCursor) : Prop :=
  ∃ literal id wall, decoded.observationId = some (.number literal) ∧ literal.toInt? = some id ∧
    isColumnInteger id ∧ decoded.timestamp = some ⟨wall, none⟩

/-- A text is handled: no error is raised, and what is returned can be compared. -/
def CursorHandled (codec : CursorCodec) (tooDeep : String → Bool) (cursor : String) : Prop :=
  ∃ decoded, codec.decode tooDeep (some cursor) = .ok decoded ∧ ∀ pair ∈ decoded, pair.Comparable

/-- A decoded value that is no cursor or a good one. -/
inductive CursorValue (codec : CursorCodec) : Json → Prop where
  /-- An object whose timestamp is a text that is no timestamp. -/
  | notIso {data : List (String × Json)} {text : String}
      (timestamp : data.lookup "timestamp" = some (.string text)) (given : text ≠ "")
      (unread : codec.fromisoformat text = none) : CursorValue codec (.object data)
  /-- An object with a naive timestamp and an integer. -/
  | position {data : List (String × Json)} {text literal : String} {wall id : Int}
      (timestamp : data.lookup "timestamp" = some (.string text)) (given : text ≠ "")
      (read : codec.fromisoformat text = some ⟨wall, none⟩)
      (observationId : data.lookup "id" = some (.number literal))
      (integer : literal.toInt? = some id) (fits : isColumnInteger id) :
      CursorValue codec (.object data)

section Handled

variable {codec : CursorCodec} {tooDeep : String → Bool}

/-- A timestamp that is a text decides alone whether there is a pair. -/
theorem readCursor_text {data : List (String × Json)} {text : String}
    (timestamp : data.lookup "timestamp" = some (.string text)) (given : text ≠ "") :
    codec.readCursor (.object data) =
      .ok ((codec.fromisoformat text).map fun read => ⟨data.lookup "id", some read⟩) := by
  have held : (data.lookup "timestamp").filter truthy = some (.string text) := by
    rw [timestamp, Option.filter_some, if_pos (by simpa [truthy] using given)]
  rw [CursorCodec.readCursor, held]

/-- **A decoded value** is handled exactly when it is one of these. -/
theorem readCursor_handled_iff (data : Json) :
    (∃ decoded, codec.readCursor data = .ok decoded ∧ ∀ pair ∈ decoded, pair.Comparable) ↔
      CursorValue codec data := by
  constructor
  · rintro ⟨decoded, done, comparable⟩
    cases data with
    | object data =>
      rw [CursorCodec.readCursor] at done
      split at done
      · cases done
        obtain ⟨_, _, _, -, -, -, missing⟩ := comparable _ rfl
        cases missing
      · rename_i text held
        obtain ⟨timestamp, given⟩ := Option.filter_eq_some_iff.mp held
        have given : text ≠ "" := by simpa [truthy] using given
        cases read : codec.fromisoformat text with
        | none => exact .notIso timestamp given read
        | some value =>
          rw [read] at done
          cases done
          obtain ⟨literal, id, wall, observationId, integer, fits, naive⟩ := comparable _ rfl
          cases naive
          exact .position timestamp given read observationId integer fits
      · cases done
    | _ => cases done
  · intro value
    cases value with
    | notIso timestamp given unread =>
      refine ⟨none, ?_, nofun⟩
      rw [readCursor_text timestamp given, unread, Option.map_none]
    | position timestamp given read observationId integer fits =>
      refine ⟨some _, readCursor_text timestamp given |>.trans (by rw [read, Option.map_some]), ?_⟩
      rintro _ ⟨⟩
      exact ⟨_, _, _, observationId, integer, fits, rfl⟩

/-- **Every cursor is handled** exactly when its text is not decoded at all, or decodes to an object
with a timestamp that is no timestamp, or with a naive timestamp and an integer of the column. -/
theorem cursor_handled_iff (codec : CursorCodec) (tooDeep : String → Bool) (cursor : String) :
    CursorHandled codec tooDeep cursor ↔
      cursor = "" ∨ codec.b64decode cursor = none ∨
        ∃ jsonStr, codec.b64decode cursor = some jsonStr ∧ tooDeep jsonStr = false ∧
          ∀ data, codec.loads jsonStr = some data → CursorValue codec data := by
  unfold CursorHandled
  rw [CursorCodec.decode, Option.getD_some]
  by_cases empty : cursor = ""
  · rw [if_pos empty]
    exact iff_of_true ⟨none, rfl, nofun⟩ (.inl empty)
  rw [if_neg empty, or_iff_right empty]
  cases text : codec.b64decode cursor with
  | none => exact iff_of_true ⟨none, rfl, nofun⟩ (.inl rfl)
  | some jsonStr =>
    simp only [reduceCtorEq, false_or, Option.some.injEq, exists_eq_left']
    cases deep : tooDeep jsonStr with
    | true => exact iff_of_false nofun nofun
    | false =>
      simp only [Bool.false_eq_true, if_false, true_and]
      cases loaded : codec.loads jsonStr with
      | none => exact iff_of_true ⟨none, rfl, nofun⟩ nofun
      | some data =>
        simp only [Option.some.injEq, forall_eq']
        exact readCursor_handled_iff data

end Handled

/-! ### The query -/

section Query

variable {codec : CursorCodec} {tooDeep : String → Bool}

/-- A decoded pair as the query takes it. -/
def DecodedCursor.cursor (decoded : DecodedCursor) : Cursor :=
  match decoded.timestamp with
  | some ⟨wall, none⟩ => CursorCodec.cursorAt decoded.observationId wall
  | _ => .malformed

/-- What is returned without an error is what the query is made from. -/
theorem decodeCursor_of_decode {cursor : Option String} {decoded : Option DecodedCursor}
    (done : codec.decode tooDeep cursor = .ok decoded) :
    codec.decodeCursor cursor = .ok (decoded.elim .missing DecodedCursor.cursor) := by
  rw [CursorCodec.decode] at done
  rw [CursorCodec.decodeCursor]
  split at done
  · rename_i empty
    cases done
    rw [if_pos empty]
    rfl
  rename_i given
  rw [if_neg given]
  split at done
  · rename_i unread
    cases done
    rw [unread]
    rfl
  rename_i jsonStr read
  split at done
  · cases done
  split at done
  · rename_i unloaded
    cases done
    rw [read, Option.bind_some, unloaded]
    rfl
  rename_i data loaded
  rw [read, Option.bind_some, loaded]
  cases data with
  | object data =>
    rw [CursorCodec.readCursor] at done
    dsimp only
    cases held : (data.lookup "timestamp").filter truthy with
    | none =>
      rw [held] at done
      cases done
      rfl
    | some value =>
      rw [held] at done
      cases value with
      | string text =>
        cases done
        dsimp only
        rcases codec.fromisoformat text with _ | ⟨wall, _ | offset⟩
        · rfl
        · rfl
        · rfl
      | _ => cases done
  | _ => cases done

/-- **A handled cursor** gets its page. -/
theorem answers_of_handled {cursor : String} (handled : CursorHandled codec tooDeep cursor)
    (session : Session) (db : ObservationDb) (limit : Nat) (source : Option String) :
    ∃ page, codec.getObservationsCursorPaginated session db (some cursor) limit source = .ok page := by
  obtain ⟨decoded, done, comparable⟩ := handled
  have wellFormed : decoded.elim Cursor.missing DecodedCursor.cursor ≠ .malformed := by
    cases decoded with
    | none =>
      intro equal
      cases equal
    | some pair =>
      obtain ⟨literal, id, wall, observationId, integer, -, naive⟩ := comparable pair rfl
      rw [Option.elim_some, DecodedCursor.cursor, naive, observationId]
      simp only [CursorCodec.cursorAt, integer]
      intro equal
      cases equal
  rw [CursorCodec.getObservationsCursorPaginated, decodeCursor_of_decode done]
  simp only [getObservationsCursorPaginated, if_neg wellFormed]
  exact ⟨_, rfl⟩

end Query

/-- A library that reads the one cursor of the counterexample. -/
def emptyArrayCodec : CursorCodec where
  isoformat _ := ""
  fromisoformat _ := none
  dumps _ := "[]"
  loads text := if text = "[]" then some (.array []) else none
  b64encode _ := "W10="
  b64decode text := if text = "W10=" then some "[]" else none

/-- The Base64 of an empty array raises an `AttributeError`. -/
theorem array_cursor_raises : ¬ CursorHandled emptyArrayCodec (fun _ => false) "W10=" := by
  rintro ⟨decoded, done, -⟩
  have raised : emptyArrayCodec.decode (fun _ => false) (some "W10=") = .error .attributeError := rfl
  rw [raised] at done
  cases done

end ApiObservatory
