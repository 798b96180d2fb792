import ApiObservatory.Observations.Isolation

/-
The source filter of the three queries of observations
(`services/ingestor/repositories/observations_queries.py` and `observations_crud.py`).

`get_observations` and `get_observations_by_date_range` raise for a name that no profile has.
`get_observations_cursor_paginated` looks a live profile up, and drops the filter when there is none.
-/

namespace ApiObservatory.Observations

open Foundation

/-- The unique index on the names of profiles. -/
def NamesUnique (sources : Rows SourceProfile) : Prop :=
  ∀ id profile id' profile', sources.get id = some profile → sources.get id' = some profile' →
    profile.name = profile'.name → id = id'

/-- A profile that is not deleted has the name. -/
def LiveSource (sources : Rows SourceProfile) (source : String) : Prop :=
  ∃ id profile, sources.get id = some profile ∧ profile.name = source ∧ profile.deletedAt = none

/-- **A filter that does not widen** the pages behind a cursor: their rows belong to the profile of the
name, there are none without a live profile, and the other two queries return the same rows. -/
structure FilterKept (session : Session) (db : ObservationDb) (cursor : Cursor) (limit : Nat)
    (source : String) : Prop where
  belongs :
    ∀ entry ∈ returned session db (.getObservationsCursorPaginated cursor limit (some source)),
      ∃ profile, db.sources.get entry.2.sourceId = some profile ∧ profile.name = source
  none_live : ¬ LiveSource db.sources source →
    returned session db (.getObservationsCursorPaginated cursor limit (some source)) = []
  agrees :
    ∀ entry ∈ returned session db (.getObservationsCursorPaginated cursor limit (some source)),
      session.tenantFilter entry.2 = true →
      (∃ skip limit', entry ∈ returned session db (.getObservations skip limit' (some source))) ∧
        ∀ start stop, start ≤ entry.2.timestamp → entry.2.timestamp < stop →
          entry ∈ returned session db (.getObservationsByDateRange start stop (some source))
  complete : cursor ≠ .malformed → ∀ entry, cursor.behind entry.1 entry.2 = true →
    ((∃ skip limit', entry ∈ returned session db (.getObservations skip limit' (some source))) ∨
      ∃ start stop,
        entry ∈ returned session db (.getObservationsByDateRange start stop (some source))) →
    ∃ limit', entry ∈
      returned session db (.getObservationsCursorPaginated cursor limit' (some source))

/-! ### Names -/

section Names

variable {db : ObservationDb} {source : String}

/-- `_resolve_source_id` finds the profile of the name, deleted or not. -/
theorem resolveSourceId_iff (unique : NamesUnique db.sources) {id : Nat} :
    resolveSourceId db source = .ok id ↔
      ∃ profile, db.sources.get id = some profile ∧ profile.name = source := by
  unfold resolveSourceId
  cases found : db.sources.toList.find? fun entry => entry.2.name == source with
  | none =>
    refine iff_of_false nofun ?_
    rintro ⟨profile, stored, named⟩
    have other := List.find?_eq_none.mp found (id, profile) (Rows.mem_toList.mpr stored)
    exact other (beq_iff_eq.mpr named)
  | some entry =>
    obtain ⟨sourceId, profile⟩ := entry
    have stored := Rows.mem_toList.mp (List.mem_of_find?_eq_some found)
    have named : profile.name = source := by simpa using List.find?_some found
    constructor
    · intro is
      cases is
      exact ⟨profile, stored, named⟩
    · rintro ⟨profile', stored', named'⟩
      rw [unique _ _ _ _ stored stored' (named.trans named'.symm)]

/-- The filter of the cursor has the id of a live profile. -/
theorem sourceIdByName_some (unique : NamesUnique db.sources) (nonempty : source ≠ "") {id : Nat}
    {profile : SourceProfile} (stored : db.sources.get id = some profile)
    (named : profile.name = source) (live : profile.deletedAt = none) :
    sourceIdByName db (some source) = some id := by
  rw [sourceIdByName, Option.bind_some, if_neg nonempty, resolveSourceIdByName]
  cases found : db.sources.toList.find? fun entry =>
      entry.2.name == source && entry.2.deletedAt.isNone with
  | none =>
    have other := List.find?_eq_none.mp found (id, profile) (Rows.mem_toList.mpr stored)
    simp [named, live] at other
  | some entry =>
    have stored' := Rows.mem_toList.mp (List.mem_of_find?_eq_some found)
    have named' : entry.2.name = source := by
      have both := List.find?_some found
      rw [Bool.and_eq_true, beq_iff_eq] at both
      exact both.1
    rw [Option.map_some, unique _ _ _ _ stored' stored (named'.trans named.symm)]

/-- Without a live profile there is no filter. -/
theorem sourceIdByName_none (dead : ¬ LiveSource db.sources source) :
    sourceIdByName db (some source) = none := by
  rw [sourceIdByName, Option.bind_some]
  split
  · rfl
  rw [resolveSourceIdByName, Option.map_eq_none_iff, List.find?_eq_none]
  rintro ⟨id, profile⟩ mem both
  rw [Bool.and_eq_true, beq_iff_eq, Option.isNone_iff_eq_none] at both
  exact dead ⟨id, profile, Rows.mem_toList.mp mem, both.1, both.2⟩

end Names

/-! ### The rows of the three queries -/

section Queries

variable {session : Session} {db : ObservationDb} {source : String} {id : Nat} {row : Observation}

theorem mem_cursorRows {cursor : Cursor} :
    (id, row) ∈ cursorRows session db cursor (some source) ↔
      db.observations.get id = some row ∧ session.policy row = true ∧ row.deletedAt = none ∧
        cursor.behind id row = true ∧
        ∀ sourceId, sourceIdByName db (some source) = some sourceId → row.sourceId = sourceId := by
  rw [cursorRows, mem_selectObservations]
  simp [Option.all_eq_true, and_assoc]

theorem mem_getObservations (nonempty : source ≠ "") :
    (∃ skip limit, (id, row) ∈ returned session db (.getObservations skip limit (some source))) ↔
      db.observations.get id = some row ∧ session.policy row = true ∧ row.deletedAt = none ∧
        resolveSourceId db source = .ok row.sourceId ∧ session.tenantFilter row = true := by
  simp only [returned, getObservations, sourceFilter, if_neg nonempty]
  cases resolveSourceId db source with
  | error error => simp [Except.map]
  | ok sourceId =>
    simp only [Except.map, Except.ok.injEq]
    constructor
    · rintro ⟨skip, limit, mem⟩
      have selected := mem_selectObservations.mp (List.mem_of_mem_drop (List.mem_of_mem_take mem))
      simpa [and_assoc, @eq_comm _ sourceId] using selected
    · intro matching
      refine ⟨0, (selectObservations session db fun _ row => row.deletedAt.isNone &&
        (some sourceId).all (row.sourceId == ·) && session.tenantFilter row).length, ?_⟩
      rw [List.drop_zero, List.take_length]
      exact mem_selectObservations.mpr (by simpa [and_assoc, @eq_comm _ sourceId] using matching)

theorem mem_getObservationsByDateRange (nonempty : source ≠ "") {start stop : Int} :
    (id, row) ∈ returned session db (.getObservationsByDateRange start stop (some source)) ↔
      db.observations.get id = some row ∧ session.policy row = true ∧ row.deletedAt = none ∧
        (start ≤ row.timestamp ∧ row.timestamp < stop) ∧
        resolveSourceId db source = .ok row.sourceId ∧ session.tenantFilter row = true := by
  simp only [returned, getObservationsByDateRange, sourceFilter, if_neg nonempty]
  cases resolveSourceId db source with
  | error error => simp [Except.map]
  | ok sourceId =>
    simp only [Except.map, Except.ok.injEq, mem_orderBy, mem_selectObservations]
    simp [and_assoc, @eq_comm _ sourceId]

/-- A page with room for all rows behind the cursor has them all. -/
theorem exists_mem_cursorPaginated {cursor : Cursor} (wellFormed : cursor ≠ .malformed)
    {entry : Nat × Observation} (mem : entry ∈ cursorRows session db cursor (some source)) :
    ∃ limit, entry ∈
      returned session db (.getObservationsCursorPaginated cursor limit (some source)) :=
  ⟨_, (mem_returned_cursor wellFormed).mpr ⟨mem, Nat.lt_succ_self _⟩⟩

end Queries

/-! ### The law -/

section Law

variable {session : Session} {db : ObservationDb} {source : String} {cursor : Cursor} {limit : Nat}

/-- All that the two other queries return is behind the cursor when it is not before it. -/
theorem complete_filter (unique : NamesUnique db.sources) (nonempty : source ≠ "")
    (wellFormed : cursor ≠ .malformed) {entry : Nat × Observation}
    (behind : cursor.behind entry.1 entry.2 = true)
    (returned_elsewhere :
      (∃ skip limit', entry ∈ returned session db (.getObservations skip limit' (some source))) ∨
        ∃ start stop,
          entry ∈ returned session db (.getObservationsByDateRange start stop (some source))) :
    ∃ limit', entry ∈
      returned session db (.getObservationsCursorPaginated cursor limit' (some source)) := by
  obtain ⟨id, row⟩ := entry
  have selected : db.observations.get id = some row ∧ session.policy row = true ∧
      row.deletedAt = none ∧ resolveSourceId db source = .ok row.sourceId := by
    rcases returned_elsewhere with page | ⟨start, stop, range⟩
    · obtain ⟨stored, visible, active, resolved, -⟩ := (mem_getObservations nonempty).mp page
      exact ⟨stored, visible, active, resolved⟩
    · obtain ⟨stored, visible, active, -, resolved, -⟩ :=
        (mem_getObservationsByDateRange nonempty).mp range
      exact ⟨stored, visible, active, resolved⟩
  obtain ⟨stored, visible, active, resolved⟩ := selected
  refine exists_mem_cursorPaginated wellFormed
    (mem_cursorRows.mpr ⟨stored, visible, active, behind, fun sourceId filtered => ?_⟩)
  obtain ⟨profile, found, named⟩ := (resolveSourceId_iff unique).mp resolved
  by_cases live : LiveSource db.sources source
  · obtain ⟨id', profile', found', named', undeleted⟩ := live
    rw [sourceIdByName_some unique nonempty found' named' undeleted] at filtered
    cases filtered
    exact unique _ _ _ _ found found' (named.trans named'.symm)
  · rw [sourceIdByName_none live] at filtered
    cases filtered

/-- Without rows on the page the filter is kept. -/
theorem filterKept_of_empty (unique : NamesUnique db.sources) (nonempty : source ≠ "")
    (empty : returned session db (.getObservationsCursorPaginated cursor limit (some source)) = []) :
    FilterKept session db cursor limit source where
  belongs := by
    rw [empty]
    exact fun _ mem => absurd mem List.not_mem_nil
  none_live _ := empty
  agrees := by
    rw [empty]
    exact fun _ mem => absurd mem List.not_mem_nil
  complete wellFormed _ behind elsewhere := complete_filter unique nonempty wellFormed behind elsewhere

/-- With a live profile the rows are its rows. -/
theorem filterKept_of_live (unique : NamesUnique db.sources) (nonempty : source ≠ "")
    (live : LiveSource db.sources source) (wellFormed : cursor ≠ .malformed) :
    FilterKept session db cursor limit source := by
  obtain ⟨sourceId, profile, found, named, undeleted⟩ := live
  have filtered := sourceIdByName_some unique nonempty found named undeleted
  have selected : ∀ entry ∈
      returned session db (.getObservationsCursorPaginated cursor limit (some source)),
      db.observations.get entry.1 = some entry.2 ∧ session.policy entry.2 = true ∧
        entry.2.deletedAt = none ∧ entry.2.sourceId = sourceId := by
    rintro ⟨id, row⟩ mem
    obtain ⟨stored, visible, active, -, own⟩ :=
      mem_cursorRows.mp ((mem_returned_cursor wellFormed).mp mem).1
    exact ⟨stored, visible, active, own sourceId filtered⟩
  refine ⟨?_, ?_, ?_, ?_⟩
  · intro entry mem
    obtain ⟨-, -, -, own⟩ := selected entry mem
    exact ⟨profile, own ▸ found, named⟩
  · intro dead
    exact absurd ⟨sourceId, profile, found, named, undeleted⟩ dead
  · rintro ⟨id, row⟩ mem own_tenant
    obtain ⟨stored, visible, active, own⟩ := selected (id, row) mem
    have resolved : resolveSourceId db source = .ok row.sourceId :=
      (resolveSourceId_iff unique).mpr ⟨profile, own ▸ found, named⟩
    exact ⟨(mem_getObservations nonempty).mpr ⟨stored, visible, active, resolved, own_tenant⟩,
      fun start stop after before => (mem_getObservationsByDateRange nonempty).mpr
        ⟨stored, visible, active, ⟨after, before⟩, resolved, own_tenant⟩⟩
  · exact fun wellFormed _ behind elsewhere => complete_filter unique nonempty wellFormed behind elsewhere

/-- A page without room or without rows behind the cursor is empty, and no other one. -/
theorem returned_eq_nil_iff (wellFormed : cursor ≠ .malformed) (dead : ¬ LiveSource db.sources source) :
    returned session db (.getObservationsCursorPaginated cursor limit (some source)) = [] ↔
      limit = 0 ∨ ∀ id row, db.observations.get id = some row → session.policy row = true →
        row.deletedAt = none → cursor.behind id row = false := by
  have filtered := sourceIdByName_none dead
  simp only [returned, getObservationsCursorPaginated, if_neg wellFormed, List.take_take,
    List.take_eq_nil_iff, min_eq_left (Nat.le_succ limit)]
  refine or_congr Iff.rfl ?_
  rw [List.eq_nil_iff_forall_not_mem]
  constructor
  · intro none id row stored visible active
    by_contra behind
    refine none (id, row) (mem_orderBy.mpr (mem_cursorRows.mpr ⟨stored, visible, active, ?_, ?_⟩))
    · simpa using behind
    · rw [filtered]
      intro _ mem
      cases mem
  · rintro none ⟨id, row⟩ mem
    obtain ⟨stored, visible, active, behind, -⟩ := mem_cursorRows.mp (mem_orderBy.mp mem)
    exact Bool.false_ne_true ((none id row stored visible active).symm.trans behind)

/-- **A source filter never widens the result** exactly when the source has a live profile, or the call
fails, or the page has no room, or there are no rows behind the cursor at all. -/
theorem source_filter_kept_iff (session : Session) {db : ObservationDb}
    (unique : NamesUnique db.sources) (cursor : Cursor) (limit : Nat) {source : String}
    (nonempty : source ≠ "") :
    FilterKept session db cursor limit source ↔
      LiveSource db.sources source ∨ cursor = .malformed ∨ limit = 0 ∨
        ∀ id row, db.observations.get id = some row → session.policy row = true →
          row.deletedAt = none → cursor.behind id row = false := by
  by_cases malformed : cursor = .malformed
  · refine iff_of_true (filterKept_of_empty unique nonempty ?_) (.inr (.inl malformed))
    simp [returned, getObservationsCursorPaginated, malformed]
  by_cases live : LiveSource db.sources source
  · exact iff_of_true (filterKept_of_live unique nonempty live malformed) (.inl live)
  rw [or_iff_right live, or_iff_right malformed, ← returned_eq_nil_iff malformed live]
  exact ⟨fun kept => kept.none_live live, filterKept_of_empty unique nonempty⟩

end Law

/-- Two profiles, one of them deleted, with a row each. -/
def twoSources : ObservationDb where
  observations := (Rows.empty.insert
    { sourceId := 1, timestamp := 10, rawData := .null, tenantId := none }).insert
    { sourceId := 2, timestamp := 20, rawData := .null, tenantId := none }
  sources := (Rows.empty.insert
    { id := 1, name := "feed", baseUrl := "https://feed.example.com/", tenantId := none }).insert
    { id := 2, name := "old", baseUrl := "https://old.example.com/", tenantId := none
      deletedAt := some 5 }

theorem twoSources_unique : NamesUnique twoSources.sources := by
  intro id profile id' profile' stored stored' named
  have known : ∀ {id profile}, twoSources.sources.get id = some profile →
      id = 2 ∧ profile.name = "old" ∨ id = 1 ∧ profile.name = "feed" := by
    intro id profile stored
    rcases Rows.get_insert_cases stored with ⟨rfl, rfl⟩ | ⟨-, stored⟩
    · exact .inl ⟨rfl, rfl⟩
    · rcases Rows.get_insert_cases stored with ⟨rfl, rfl⟩ | ⟨-, stored⟩
      · exact .inr ⟨rfl, rfl⟩
      · cases stored
  rcases known stored with ⟨rfl, is⟩ | ⟨rfl, is⟩ <;> rcases known stored' with ⟨rfl, is'⟩ | ⟨rfl, is'⟩
  · rfl
  · rw [is, is'] at named
    exact absurd named (by decide)
  · rw [is, is'] at named
    exact absurd named (by decide)
  · rfl

theorem source_filter_kept_iff_feed : FilterKept { tenantId := none } twoSources .missing 50 "feed" :=
  (source_filter_kept_iff _ twoSources_unique .missing 50 (by decide)).mpr
    (.inl ⟨1, _, rfl, rfl, rfl⟩)

/-- A name that no profile has returns the rows of all. -/
theorem unknown_source_widens : ¬ FilterKept { tenantId := none } twoSources .missing 50 "feeed" := by
  intro kept
  have nobody : ¬ LiveSource twoSources.sources "feeed" := by
    rintro ⟨id, profile, stored, named, -⟩
    rcases Rows.get_insert_cases stored with ⟨-, rfl⟩ | ⟨-, stored⟩
    · exact absurd named (by decide)
    · rcases Rows.get_insert_cases stored with ⟨-, rfl⟩ | ⟨-, stored⟩
      · exact absurd named (by decide)
      · cases stored
  exact absurd (kept.none_live nobody) (by decide)

end ApiObservatory.Observations
