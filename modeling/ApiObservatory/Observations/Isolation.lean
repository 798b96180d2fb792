import ApiObservatory.Repositories.Observations

/-
Tenant isolation of the access to observations.

Two of the eight operations call `_apply_tenant_filter`. The others find their rows
by id or behind a cursor, so without row-level security they reach the rows of every
tenant; `isolated_iff_scoped` says for which tables and arguments they do not.
-/

namespace ApiObservatory.Observations

open Foundation

/-- The operations on observations. -/
inductive Operation where
  | getObservations (skip limit : Nat) (source : Option String)
  | getObservationsByDateRange (start stop : Int) (source : Option String)
  | getObservationsCursorPaginated (cursor : Cursor) (limit : Nat) (source : Option String)
  | getObservation (observationId : Nat)
  | markProcessed (observationId : Nat) (now : Int)
  | updateObservation (observationId : Nat) (request : UpdateObservationRequest) (now : Int)
  | softDeleteObservation (observationId : Nat) (now : Int)
  | deleteObservation (observationId : Nat)

section Operations

variable (session : Session) (db : ObservationDb)

/-- The rows a read returns; one that fails returns none. -/
def returned : Operation → List (Nat × Observation)
  | .getObservations skip limit source =>
      match getObservations session db skip limit source with
      | .ok (rows, _) => rows
      | .error _ => []
  | .getObservationsByDateRange start stop source =>
      match getObservationsByDateRange session db start stop source with
      | .ok rows => rows
      | .error _ => []
  | .getObservationsCursorPaginated cursor limit source =>
      match getObservationsCursorPaginated session db cursor limit source with
      | .ok (rows, _, _) => rows
      | .error _ => []
  | .getObservation observationId =>
      ((getObservation session db observationId).map fun row => (observationId, row)).toList
  | _ => []

/-- The tables after an operation; one that fails is rolled back. -/
def after : Operation → ObservationDb
  | .markProcessed observationId now => (markProcessed session db observationId now).1
  | .updateObservation observationId request now =>
      match updateObservation session db observationId request now with
      | .ok (db, _) => db
      | .error _ => db
  | .softDeleteObservation observationId now =>
      (softDeleteObservation session db observationId now).1
  | .deleteObservation observationId => (deleteObservation session db observationId).1
  | _ => db

/-- Every row that is returned, changed or removed passes the tenant filter. -/
structure Isolated (operation : Operation) : Prop where
  reads : ∀ entry ∈ returned session db operation, session.tenantFilter entry.2 = true
  writes : ∀ id row, db.observations.get id = some row →
    (after session db operation).observations.get id ≠ some row → session.tenantFilter row = true

/-- The rows a page returns pass the filter, or the row a write loads does, unless it
stays as it is. -/
def Scoped : Operation → Prop
  | .getObservations .. => True
  | .getObservationsByDateRange .. => True
  | .getObservationsCursorPaginated cursor limit source =>
      cursor ≠ .malformed → ∀ entry ∈ cursorRows session db cursor source,
        ((cursorRows session db cursor source).filter fun other =>
          decide (oldestFirst other < oldestFirst entry)).length < limit →
        session.tenantFilter entry.2 = true
  | .getObservation observationId => ∀ row, getObservation session db observationId = some row →
      session.tenantFilter row = true
  | .markProcessed observationId _ => ∀ row, sessionGet session db observationId = some row →
      ¬ (row.processed = true ∧ row.processedAt.isSome = true) → session.tenantFilter row = true
  | .updateObservation observationId request _ =>
      ∀ row, sessionGet session db observationId = some row →
        (∃ changed, request.apply db row = .ok changed ∧ changed ≠ row ∧
          timestampTaken db observationId changed = false) → session.tenantFilter row = true
  | .softDeleteObservation observationId _ =>
      ∀ row, sessionGet session db observationId = some row → row.deletedAt = none →
        session.tenantFilter row = true
  | .deleteObservation observationId => ∀ row, sessionGet session db observationId = some row →
      True → session.tenantFilter row = true

end Operations

/-! ### Reads -/

section Reads

attribute [local simp] returned

variable {session : Session} {db : ObservationDb}

/-- A query that calls the filter returns rows that pass it. -/
theorem filtered_of_mem {condition : Nat → Observation → Bool} {entry : Nat × Observation}
    (mem : entry ∈ selectObservations session db fun id row =>
      condition id row && session.tenantFilter row) : session.tenantFilter entry.2 = true := by
  have selected := (mem_selectObservations.mp mem).2.2
  rw [Bool.and_eq_true] at selected
  exact selected.2

theorem reads_getObservations (skip limit : Nat) (source : Option String) :
    ∀ entry ∈ returned session db (.getObservations skip limit source),
      session.tenantFilter entry.2 = true := by
  intro entry mem
  simp only [returned, getObservations] at mem
  cases found : sourceFilter db source with
  | error => simp [found] at mem
  | ok sourceId =>
    simp only [found] at mem
    exact filtered_of_mem (List.mem_of_mem_drop (List.mem_of_mem_take mem))

theorem reads_getObservationsByDateRange (start stop : Int) (source : Option String) :
    ∀ entry ∈ returned session db (.getObservationsByDateRange start stop source),
      session.tenantFilter entry.2 = true := by
  intro entry mem
  simp only [returned, getObservationsByDateRange] at mem
  cases found : sourceFilter db source with
  | error => simp [found] at mem
  | ok sourceId =>
    simp only [found, mem_orderBy] at mem
    exact filtered_of_mem mem

theorem cursorRows_distinct (cursor : Cursor) (source : Option String) :
    ((cursorRows session db cursor source).map oldestFirst).Nodup :=
  selectObservations_distinct session db _ oldestFirst (fun key => (ofLex key).2) fun _ => rfl

/-- A page of the cursor holds the rows that few rows precede. -/
theorem mem_returned_cursor {cursor : Cursor} {limit : Nat} {source : Option String}
    (wellFormed : cursor ≠ .malformed) {entry : Nat × Observation} :
    entry ∈ returned session db (.getObservationsCursorPaginated cursor limit source) ↔
      entry ∈ cursorRows session db cursor source ∧
        ((cursorRows session db cursor source).filter fun other =>
          decide (oldestFirst other < oldestFirst entry)).length < limit := by
  simp only [returned, getObservationsCursorPaginated, if_neg wellFormed, List.take_take]
  rw [min_eq_left (Nat.le_succ limit)]
  exact mem_take_orderBy (cursorRows_distinct cursor source)

theorem isolated_cursorPaginated (cursor : Cursor) (limit : Nat) (source : Option String) :
    Isolated session db (.getObservationsCursorPaginated cursor limit source) ↔
      Scoped session db (.getObservationsCursorPaginated cursor limit source) := by
  constructor
  · intro isolated wellFormed entry mem few
    exact isolated.reads entry ((mem_returned_cursor wellFormed).mpr ⟨mem, few⟩)
  · intro first
    refine ⟨fun entry mem => ?_, fun id row stored changed => absurd stored changed⟩
    by_cases malformed : cursor = .malformed
    · simp [getObservationsCursorPaginated, malformed] at mem
    · obtain ⟨selected, few⟩ := (mem_returned_cursor malformed).mp mem
      exact first malformed entry selected few

theorem isolated_getObservation (observationId : Nat) :
    Isolated session db (.getObservation observationId) ↔
      Scoped session db (.getObservation observationId) := by
  constructor
  · intro isolated row found
    exact isolated.reads (observationId, row) (by simp [found])
  · intro passes
    refine ⟨fun entry mem => ?_, fun id row stored changed => absurd stored changed⟩
    simp only [returned, Option.mem_toList, Option.map_eq_some_iff] at mem
    obtain ⟨row, found, rfl⟩ := mem
    exact passes row found

end Reads

/-! ### Writes -/

section Writes

attribute [local simp] after

variable {session : Session} {db : ObservationDb} {observationId : Nat} {row : Observation}

theorem sessionGet_eq_some :
    sessionGet session db observationId = some row ↔
      db.observations.get observationId = some row ∧ session.policy row = true :=
  Option.filter_eq_some_iff

/-- What a flush writes. -/
theorem flush_get (stored : db.observations.get observationId = some row) {changed : Observation}
    {now : Int} (kept : changed.updatedAt = row.updatedAt) :
    (flush db observationId row changed now).1.observations.get observationId ≠ some row ↔
      changed ≠ row := by
  unfold flush
  split
  · rename_i same
    simp [stored, same]
  · rename_i differs
    have written : { changed with updatedAt := some now } ≠ row := by
      intro same
      have time : changed.updatedAt = some now := kept.trans (congrArg (·.updatedAt) same).symm
      have unwritten : { changed with updatedAt := some now } = changed := by rw [← time]
      exact differs (unwritten.symm.trans same)
    simp [stored, written, differs]

theorem flush_others {changed : Observation} {now : Int} {id : Nat} (other : id ≠ observationId) :
    (flush db observationId row changed now).1.observations.get id = db.observations.get id := by
  unfold flush
  split
  · rfl
  · exact Rows.get_modify_of_ne _ other

/-- **A write** is isolated exactly when the row it loads passes the filter if it is
changed. -/
theorem isolated_write_iff {operation : Operation} (no_rows : returned session db operation = [])
    {P : Observation → Prop}
    (others : ∀ id, id ≠ observationId →
      (after session db operation).observations.get id = db.observations.get id)
    (hidden : sessionGet session db observationId = none →
      (after session db operation).observations.get observationId =
        db.observations.get observationId)
    (changes : ∀ row, sessionGet session db observationId = some row →
      ((after session db operation).observations.get observationId ≠ some row ↔ P row)) :
    Isolated session db operation ↔
      ∀ row, sessionGet session db observationId = some row → P row →
        session.tenantFilter row = true := by
  constructor
  · intro isolated row loaded changed
    exact isolated.writes observationId row (sessionGet_eq_some.mp loaded).1
      ((changes row loaded).mpr changed)
  · intro loads
    refine ⟨by simp [no_rows], fun id row stored changed => ?_⟩
    by_cases here : id = observationId
    · subst here
      by_cases seen : session.policy row = true
      · have loaded := sessionGet_eq_some.mpr ⟨stored, seen⟩
        exact loads row loaded ((changes row loaded).mp changed)
      · have absent : sessionGet session db id = none := by
          rw [sessionGet, stored, Option.filter_some, if_neg seen]
        exact absurd ((hidden absent).trans stored) changed
    · exact absurd ((others id here).trans stored) changed

theorem isolated_markProcessed (now : Int) :
    Isolated session db (.markProcessed observationId now) ↔
      Scoped session db (.markProcessed observationId now) := by
  refine isolated_write_iff rfl (fun id other => ?_) (fun absent => ?_) fun row loaded => ?_
  · simp only [after, markProcessed]
    split
    · rfl
    · exact flush_others other
  · simp only [after, markProcessed, absent]
  · simp only [after, markProcessed, loaded]
    refine Iff.trans (flush_get (sessionGet_eq_some.mp loaded).1 ?_) (not_congr ?_)
    · rfl
    cases row with
    | mk sourceId timestamp rawData tags processed processedAt =>
      cases processedAt <;> simp [eq_comm]

theorem isolated_updateObservation (request : UpdateObservationRequest) (now : Int) :
    Isolated session db (.updateObservation observationId request now) ↔
      Scoped session db (.updateObservation observationId request now) := by
  refine isolated_write_iff rfl (fun id other => ?_) (fun absent => ?_) fun row loaded => ?_
  · simp only [after, updateObservation]
    split
    · rename_i result
      split at result
      · cases result
        rfl
      · split at result
        · cases result
        · split at result
          · cases result
          · cases result
            exact flush_others other
    · rfl
  · simp only [after, updateObservation, absent]
  · have stored := (sessionGet_eq_some.mp loaded).1
    simp only [after, updateObservation, loaded]
    cases applied : request.apply db row with
    | error => simp [stored]
    | ok changed =>
      have kept : changed.updatedAt = row.updatedAt := by
        obtain ⟨sourceId, -, rfl⟩ := ok_of_map applied
        rfl
      simp only [Except.ok.injEq, exists_eq_left']
      by_cases refused : changed ≠ row ∧ timestampTaken db observationId changed = true
      · simp [refused, stored]
      · simp only [if_neg refused]
        refine Iff.trans (flush_get stored kept) ⟨fun differs => ⟨differs, ?_⟩, And.left⟩
        rw [← Bool.not_eq_true]
        exact fun taken => refused ⟨differs, taken⟩

theorem isolated_softDeleteObservation (now : Int) :
    Isolated session db (.softDeleteObservation observationId now) ↔
      Scoped session db (.softDeleteObservation observationId now) := by
  refine isolated_write_iff rfl (fun id other => ?_) (fun absent => ?_) fun row loaded => ?_
  · simp only [after, softDeleteObservation]
    split
    · rfl
    · split
      · rfl
      · exact flush_others other
  · simp only [after, softDeleteObservation, absent]
  · have stored := (sessionGet_eq_some.mp loaded).1
    simp only [after, softDeleteObservation, loaded]
    cases deleted : row.deletedAt with
    | some time => simp [stored]
    | none =>
      rw [Option.isSome_none, if_neg Bool.false_ne_true]
      refine Iff.trans (flush_get stored ?_) (iff_of_true ?_ rfl)
      · rfl
      intro same
      have time := congrArg (·.deletedAt) same
      simp [deleted] at time

theorem isolated_deleteObservation :
    Isolated session db (.deleteObservation observationId) ↔
      Scoped session db (.deleteObservation observationId) := by
  refine isolated_write_iff rfl (fun id other => ?_) (fun absent => ?_) fun row loaded => ?_
  · simp only [after, deleteObservation]
    split
    · rfl
    · exact Rows.get_remove_of_ne other
  · simp only [after, deleteObservation, absent]
  · simp [deleteObservation, loaded]

end Writes

/-! ### All operations -/

/-- **Tenant isolation** of an operation, on any table and in any session: it holds
exactly when the operation is scoped. -/
theorem isolated_iff_scoped (session : Session) (db : ObservationDb) (operation : Operation) :
    Isolated session db operation ↔ Scoped session db operation := by
  cases operation with
  | getObservations skip limit source =>
    exact iff_of_true ⟨reads_getObservations skip limit source,
      fun id row stored changed => absurd stored changed⟩ trivial
  | getObservationsByDateRange start stop source =>
    exact iff_of_true ⟨reads_getObservationsByDateRange start stop source,
      fun id row stored changed => absurd stored changed⟩ trivial
  | getObservationsCursorPaginated cursor limit source =>
    exact isolated_cursorPaginated cursor limit source
  | getObservation observationId => exact isolated_getObservation observationId
  | markProcessed observationId now => exact isolated_markProcessed now
  | updateObservation observationId request now => exact isolated_updateObservation request now
  | softDeleteObservation observationId now => exact isolated_softDeleteObservation now
  | deleteObservation observationId => exact isolated_deleteObservation

/-! ### A row of another tenant -/

def foreignRow : Observation where
  sourceId := 1
  timestamp := 0
  rawData := .object [("value", .number "1")]
  tenantId := some 2

/-- The only observation is one of tenant 2. -/
def foreignTable : ObservationDb := { observations := Rows.single 1 foreignRow, sources := Rows.empty }

/-- A caller of tenant 1, without row-level security. -/
def tenantOne : Session := { tenantId := some 1, userRole := some "user" }

theorem foreign_loaded : sessionGet tenantOne foreignTable 1 = some foreignRow := by decide

theorem foreign_hidden : tenantOne.tenantFilter foreignRow = false := by decide

/-- Each operation that does not call the filter reaches it. -/
theorem foreign_row_reached :
    ¬ Isolated tenantOne foreignTable (.getObservationsCursorPaginated .missing 50 none) ∧
      ¬ Isolated tenantOne foreignTable (.getObservation 1) ∧
      ¬ Isolated tenantOne foreignTable (.markProcessed 1 5) ∧
      ¬ Isolated tenantOne foreignTable (.updateObservation 1 { tags := some ["changed"] } 5) ∧
      ¬ Isolated tenantOne foreignTable (.softDeleteObservation 1 5) ∧
      ¬ Isolated tenantOne foreignTable (.deleteObservation 1) := by
  have hidden : ¬ tenantOne.tenantFilter foreignRow = true := by
    rw [foreign_hidden]
    exact Bool.false_ne_true
  refine ⟨fun isolated => hidden ?_, fun isolated => hidden ?_, fun isolated => hidden ?_,
    fun isolated => hidden ?_, fun isolated => hidden ?_, fun isolated => hidden ?_⟩
  · exact (isolated_cursorPaginated _ _ _).mp isolated (by decide) (1, foreignRow) (by decide)
      (by decide)
  · exact (isolated_getObservation 1).mp isolated foreignRow (by decide)
  · exact (isolated_markProcessed 5).mp isolated foreignRow foreign_loaded (by decide)
  · exact (isolated_updateObservation _ 5).mp isolated foreignRow foreign_loaded
      ⟨{ foreignRow with tags := ["changed"] }, rfl, by decide, by decide⟩
  · exact (isolated_softDeleteObservation 5).mp isolated foreignRow foreign_loaded rfl
  · exact isolated_deleteObservation.mp isolated foreignRow foreign_loaded trivial

end ApiObservatory.Observations
