import ApiObservatory.Foundation.Rows
import ApiObservatory.Foundation.Window
import ApiObservatory.Models.Contracts
import ApiObservatory.Models.Sources
import Mathlib.Data.Prod.Lex
import Mathlib.Data.String.Basic

/-
The freshness report (`services/ingestor/repositories/reporting_freshness.py`).

Status and incidents come from the snapshots of a look-back window. A breached source stays breached
as it ages, until its last snapshot is older than the window: from then on the report has no data of
it (`freshness_breach_ages`).
-/

namespace ApiObservatory.Reporting

open Foundation

structure FreshnessDb where
  sources : Rows SourceProfile
  snapshots : Rows ContractSnapshot

inductive FreshnessStatus where
  | noData | breached | warning | ok
deriving DecidableEq

/-- `_freshness_status`. -/
def freshnessStatus (ageSeconds : Option Int) (thresholdSeconds : Int) : FreshnessStatus :=
  match ageSeconds with
  | none => .noData
  | some ageSeconds =>
      if ageSeconds > thresholdSeconds then .breached
      else if ageSeconds > (thresholdSeconds * 3).tdiv 4 then .warning
      else .ok

structure FreshnessSourceRow where
  sourceId : Nat
  sourceName : String
  ownerTeam : Option String := none
  lastSnapshotAt : Option Int
  ageSeconds : Option Int
  slaThresholdSeconds : Int
  status : FreshnessStatus
  totalSnapshots : Nat
  incidentCount : Nat
deriving DecidableEq

structure FreshnessIncident where
  sourceId : Nat
  sourceName : String
  gapStart : Int
  gapEnd : Option Int
  gapSeconds : Int
  isOpen : Bool
deriving DecidableEq

structure FreshnessSLAResponse where
  sources : List FreshnessSourceRow
  incidents : List FreshnessIncident
  totalBreached : Nat
  totalOk : Nat
  totalNoData : Nat
  windowDays : Int
  slaThresholdHours : Int
deriving DecidableEq

/-- The bounds of the schemas. -/
def FreshnessSourceRow.valid (row : FreshnessSourceRow) : Bool :=
  row.ageSeconds.all (fun ageSeconds => decide (0 ≤ ageSeconds)) &&
    decide (1 ≤ row.slaThresholdSeconds)

def FreshnessIncident.valid (incident : FreshnessIncident) : Bool := decide (0 ≤ incident.gapSeconds)

def FreshnessSLAResponse.valid (response : FreshnessSLAResponse) : Bool :=
  decide (1 ≤ response.windowDays ∧ 1 ≤ response.slaThresholdHours)

/-- The neighbours in a list. -/
def gaps : List Int → List (Int × Int)
  | earlier :: later :: rest => (earlier, later) :: gaps (later :: rest)
  | _ => []

/-- What a call is asked for. -/
structure FreshnessQuery where
  days : Int
  sourceIds : Option (List Nat) := none
  limit : Nat
  slaThresholdHours : Int
deriving DecidableEq

section Report

/- `int(span.total_seconds())` of a span in microseconds. -/
variable (wholeSeconds : Int → Int) (db : FreshnessDb) (query : FreshnessQuery) (now : Int)

def FreshnessQuery.thresholdSeconds (query : FreshnessQuery) : Int := query.slaThresholdHours * 3600

/-- `now - timedelta(days=days)`. -/
def FreshnessQuery.cutoff (query : FreshnessQuery) (now : Int) : Int :=
  now - query.days * 86400000000

/-- The rows of `source_stmt`; an empty list of ids does not restrict them. -/
def listedSources : List (Nat × SourceProfile) :=
  (orderBy (fun entry => entry.2.name) (db.sources.select fun id source =>
    source.deletedAt.isNone && (query.sourceIds.all fun ids => ids.isEmpty || ids.contains id))).take
      query.limit

/-- The rows of `snap_stmt`. -/
def windowSnapshots (cutoff : Int) (queriedIds : List Nat) : List (Nat × Int) :=
  orderBy toLex ((db.snapshots.select fun _ snapshot =>
    queriedIds.contains snapshot.sourceId && decide (cutoff ≤ snapshot.createdAt)).map
      fun entry => (entry.2.sourceId, entry.2.createdAt))

/-- `snaps_by_source[source_id]`. -/
def snapsOf (rows : List (Nat × Int)) (sourceId : Nat) : List Int :=
  (rows.filter fun row => row.1 = sourceId).map Prod.snd

/-- The gaps between snapshots that are longer than the threshold. -/
def closedIncidents (source : Nat × SourceProfile) (snaps : List Int) : List FreshnessIncident :=
  (gaps snaps).filterMap fun (earlier, later) =>
    let gapSeconds := wholeSeconds (later - earlier)
    if gapSeconds > query.thresholdSeconds then
      some
        { sourceId := source.1
          sourceName := source.2.name
          gapStart := earlier
          gapEnd := some later
          gapSeconds
          isOpen := false }
    else none

/-- The incident of a source that is breached now. -/
def openIncident (source : Nat × SourceProfile) (lastAt : Option Int) : FreshnessIncident :=
  let openStart := lastAt.getD (query.cutoff now)
  { sourceId := source.1
    sourceName := source.2.name
    gapStart := openStart
    gapEnd := none
    gapSeconds := wholeSeconds (now - openStart)
    isOpen := true }

/-- The body of the loop over the sources. -/
def sourceReport (snaps : List Int) (source : Nat × SourceProfile) :
    FreshnessSourceRow × List FreshnessIncident :=
  let lastAt := snaps.getLast?
  let ageSeconds := lastAt.map fun lastAt => wholeSeconds (now - lastAt)
  let status := freshnessStatus ageSeconds query.thresholdSeconds
  let incidents := closedIncidents wholeSeconds query source snaps ++
    if status = .breached then [openIncident wholeSeconds query now source lastAt] else []
  ({ sourceId := source.1
     sourceName := source.2.name
     lastSnapshotAt := lastAt
     ageSeconds
     slaThresholdSeconds := query.thresholdSeconds
     status
     totalSnapshots := snaps.length
     incidentCount := incidents.length }, incidents)

def sourceReports : List (FreshnessSourceRow × List FreshnessIncident) :=
  let sources := listedSources db query
  let rows := windowSnapshots db (query.cutoff now) (sources.map Prod.fst)
  sources.map fun source => sourceReport wholeSeconds query now (snapsOf rows source.1) source

def freshnessResponse : FreshnessSLAResponse :=
  let reports := sourceReports wholeSeconds db query now
  let rows := reports.map Prod.fst
  { sources := rows
    incidents := orderBy (fun incident => OrderDual.toDual incident.gapStart)
      (reports.flatMap Prod.snd)
    totalBreached := (rows.filter fun row => row.status = .breached).length
    totalOk := (rows.filter fun row => row.status = .ok ∨ row.status = .warning).length
    totalNoData := (rows.filter fun row => row.status = .noData).length
    windowDays := query.days
    slaThresholdHours := query.slaThresholdHours }

/-- `get_freshness_sla`; `none` is the `ValidationError` of a schema. -/
def getFreshnessSla : Option FreshnessSLAResponse :=
  let response := freshnessResponse wholeSeconds db query now
  if response.sources.all FreshnessSourceRow.valid &&
      response.incidents.all FreshnessIncident.valid && response.valid then some response
  else none

end Report

/-! ### The snapshots of a window -/

section Window

variable {db : FreshnessDb} {cutoff : Int} {ids : List Nat} {id : Nat} {at_ : Int}

/-- A source has a snapshot at a time. -/
def FreshnessDb.HasSnapshot (db : FreshnessDb) (sourceId : Nat) (createdAt : Int) : Prop :=
  ∃ key snapshot, db.snapshots.get key = some snapshot ∧ snapshot.sourceId = sourceId ∧
    snapshot.createdAt = createdAt

theorem mem_windowSnapshots :
    (id, at_) ∈ windowSnapshots db cutoff ids ↔ id ∈ ids ∧ db.HasSnapshot id at_ ∧ cutoff ≤ at_ := by
  unfold windowSnapshots
  rw [mem_orderBy, List.mem_map]
  constructor
  · rintro ⟨⟨key, snapshot⟩, mem, is⟩
    cases is
    obtain ⟨stored, selected⟩ := Rows.mem_select.mp mem
    rw [Bool.and_eq_true, decide_eq_true_eq, List.contains_iff_mem] at selected
    exact ⟨selected.1, ⟨key, snapshot, stored, rfl, rfl⟩, selected.2⟩
  · rintro ⟨queried, ⟨key, snapshot, stored, rfl, rfl⟩, inWindow⟩
    exact ⟨(key, snapshot), Rows.mem_select.mpr ⟨stored, by simp [queried, inWindow]⟩, rfl⟩

theorem mem_snapsOf (queried : id ∈ ids) :
    at_ ∈ snapsOf (windowSnapshots db cutoff ids) id ↔ db.HasSnapshot id at_ ∧ cutoff ≤ at_ := by
  unfold snapsOf
  rw [List.mem_map]
  constructor
  · rintro ⟨⟨sourceId, createdAt⟩, mem, rfl⟩
    obtain ⟨here, own⟩ := List.mem_filter.mp mem
    obtain rfl : sourceId = id := of_decide_eq_true own
    exact (mem_windowSnapshots.mp here).2
  · intro stored
    exact ⟨(id, at_), List.mem_filter.mpr ⟨mem_windowSnapshots.mpr ⟨queried, stored⟩, decide_eq_true rfl⟩,
      rfl⟩

theorem snapsOf_sorted : (snapsOf (windowSnapshots db cutoff ids) id).Pairwise (· ≤ ·) := by
  rw [snapsOf, List.pairwise_map]
  have sorted : (windowSnapshots db cutoff ids).Pairwise fun a b => toLex a ≤ toLex b :=
    orderBy_sorted _ _
  refine (sorted.filter _).imp_of_mem ?_
  intro a b memA memB le
  have same : a.1 = b.1 := by
    rw [of_decide_eq_true (List.mem_filter.mp memA).2, of_decide_eq_true (List.mem_filter.mp memB).2]
  rcases Prod.Lex.toLex_le_toLex.mp le with before | ⟨-, le⟩
  · exact absurd same before.ne
  · exact le

/-- The most recent snapshot of a source, if it is in the window. -/
def FreshnessDb.IsLatest (db : FreshnessDb) (sourceId : Nat) (cutoff : Int) : Option Int → Prop
  | none => ∀ createdAt, db.HasSnapshot sourceId createdAt → createdAt < cutoff
  | some last => db.HasSnapshot sourceId last ∧ cutoff ≤ last ∧
      ∀ createdAt, db.HasSnapshot sourceId createdAt → createdAt ≤ last

theorem isLatest_getLast? (queried : id ∈ ids) :
    db.IsLatest id cutoff (snapsOf (windowSnapshots db cutoff ids) id).getLast? := by
  cases last : (snapsOf (windowSnapshots db cutoff ids) id).getLast? with
  | none =>
    intro createdAt stored
    by_contra inWindow
    have mem : createdAt ∈ snapsOf (windowSnapshots db cutoff ids) id :=
      (mem_snapsOf queried).mpr ⟨stored, not_lt.mp inWindow⟩
    rw [List.getLast?_eq_none_iff.mp last] at mem
    exact absurd mem List.not_mem_nil
  | some last' =>
    obtain ⟨front, split⟩ := List.getLast?_eq_some_iff.mp last
    have isLast : last' ∈ snapsOf (windowSnapshots db cutoff ids) id :=
      split ▸ List.mem_append_right front (List.mem_singleton_self last')
    obtain ⟨stored, inWindow⟩ := (mem_snapsOf queried).mp isLast
    refine ⟨stored, inWindow, fun createdAt stored' => ?_⟩
    by_cases older : createdAt < cutoff
    · exact older.le.trans inWindow
    have mem : createdAt ∈ snapsOf (windowSnapshots db cutoff ids) id :=
      (mem_snapsOf queried).mpr ⟨stored', not_lt.mp older⟩
    have sorted : (snapsOf (windowSnapshots db cutoff ids) id).Pairwise (· ≤ ·) := snapsOf_sorted
    rw [split] at mem sorted
    rcases List.mem_append.mp mem with before | is
    · exact (List.pairwise_append.mp sorted).2.2 _ before _ (List.mem_singleton_self _)
    · exact (List.mem_singleton.mp is).le

/-- There is one most recent snapshot. -/
theorem FreshnessDb.IsLatest.unique {last last' : Option Int} (is : db.IsLatest id cutoff last)
    (is' : db.IsLatest id cutoff last') : last = last' := by
  cases last with
  | none =>
    cases last' with
    | none => rfl
    | some time => exact absurd (is _ is'.1) (not_lt.mpr is'.2.1)
  | some time =>
    cases last' with
    | none => exact absurd (is' _ is.1) (not_lt.mpr is.2.1)
    | some time' => rw [le_antisymm (is'.2.2 _ is.1) (is.2.2 _ is'.1)]

end Window

/-! ### What is reported of a source -/

/-- A source is reported as breached, with an open incident from a time on. -/
structure BreachedFrom (response : FreshnessSLAResponse) (sourceId : Nat) (start : Int) : Prop where
  row : ∃ row ∈ response.sources, row.sourceId = sourceId ∧ row.status = .breached
  incident : ∃ incident ∈ response.incidents, incident.sourceId = sourceId ∧
    incident.isOpen = true ∧ incident.gapStart = start

/-- A source is reported without data, and no incident of it is open. -/
structure WithoutData (response : FreshnessSLAResponse) (sourceId : Nat) : Prop where
  row : ∃ row ∈ response.sources, row.sourceId = sourceId ∧ row.status = .noData ∧
    row.lastSnapshotAt = none
  incidents : ∀ incident ∈ response.incidents, incident.sourceId = sourceId →
    incident.isOpen = false

section Reported

variable {wholeSeconds : Int → Int} {db db' : FreshnessDb} {query : FreshnessQuery} {now : Int}
  {response : FreshnessSLAResponse} {id : Nat} {start : Int}

theorem freshnessStatus_eq_breached_iff {ageSeconds : Option Int} {thresholdSeconds : Int} :
    freshnessStatus ageSeconds thresholdSeconds = .breached ↔
      ∃ age, ageSeconds = some age ∧ thresholdSeconds < age := by
  cases ageSeconds with
  | none => simp [freshnessStatus]
  | some age =>
    simp only [freshnessStatus, Option.some.injEq, exists_eq_left']
    by_cases breached : age > thresholdSeconds
    · simp [breached]
    · rw [if_neg breached]
      split <;> simpa using not_lt.mp breached

/-- The report of each listed source. -/
theorem mem_sourceReports {report : FreshnessSourceRow × List FreshnessIncident} :
    report ∈ sourceReports wholeSeconds db query now ↔
      ∃ source ∈ listedSources db query, report = sourceReport wholeSeconds query now
        (snapsOf (windowSnapshots db (query.cutoff now) ((listedSources db query).map Prod.fst))
          source.1) source := by
  simp only [sourceReports, List.mem_map]
  exact exists_congr fun source => and_congr_right fun _ => eq_comm

variable (wholeSeconds now) in
theorem sourceReport_mem {source : Nat × SourceProfile} (listed : source ∈ listedSources db query) :
    sourceReport wholeSeconds query now (snapsOf (windowSnapshots db (query.cutoff now)
        ((listedSources db query).map Prod.fst)) source.1) source ∈
      sourceReports wholeSeconds db query now :=
  mem_sourceReports.mpr ⟨source, listed, rfl⟩

theorem response_of_getFreshnessSla (is : getFreshnessSla wholeSeconds db query now = some response) :
    response = freshnessResponse wholeSeconds db query now ∧ response.valid = true := by
  unfold getFreshnessSla at is
  simp only [Option.ite_none_right_eq_some, Bool.and_eq_true, Option.some.injEq] at is
  exact ⟨is.2.symm, is.2 ▸ is.1.2⟩

theorem mem_sources {row : FreshnessSourceRow} :
    row ∈ (freshnessResponse wholeSeconds db query now).sources ↔
      ∃ report ∈ sourceReports wholeSeconds db query now, report.1 = row := List.mem_map

theorem mem_incidents {incident : FreshnessIncident} :
    incident ∈ (freshnessResponse wholeSeconds db query now).incidents ↔
      ∃ report ∈ sourceReports wholeSeconds db query now, incident ∈ report.2 :=
  mem_orderBy.trans List.mem_flatMap

/-- **The last snapshot** that is reported is the most recent one, if that is in the window. -/
theorem lastSnapshotAt_of_mem {row : FreshnessSourceRow}
    (mem : row ∈ (freshnessResponse wholeSeconds db query now).sources) :
    db.IsLatest row.sourceId (query.cutoff now) row.lastSnapshotAt := by
  obtain ⟨report, reported, rfl⟩ := mem_sources.mp mem
  obtain ⟨source, listed, rfl⟩ := mem_sourceReports.mp reported
  exact isLatest_getLast? (List.mem_map_of_mem listed)

/-- An open incident is the one of a source that is breached now. -/
theorem sourceReport_open {snaps : List Int} {source : Nat × SourceProfile}
    {incident : FreshnessIncident}
    (mem : incident ∈ (sourceReport wholeSeconds query now snaps source).2)
    (isOpen : incident.isOpen = true) :
    ∃ last, snaps.getLast? = some last ∧ query.thresholdSeconds < wholeSeconds (now - last) ∧
      incident.gapStart = last := by
  simp only [sourceReport, List.mem_append] at mem
  rcases mem with closed | here
  · obtain ⟨gap, -, is⟩ := List.mem_filterMap.mp closed
    simp only [Option.ite_none_right_eq_some, Option.some.injEq] at is
    rw [← is.2] at isOpen
    cases isOpen
  · split at here
    · rename_i breached
      obtain ⟨age, aged, late⟩ := freshnessStatus_eq_breached_iff.mp breached
      obtain ⟨last, is, rfl⟩ := Option.map_eq_some_iff.mp aged
      obtain rfl := List.mem_singleton.mp here
      exact ⟨last, is, late, by rw [openIncident, is, Option.getD_some]⟩
    · cases here

/-- The ids in a report are those of its source. -/
theorem sourceReport_sourceId {snaps : List Int} {source : Nat × SourceProfile} :
    (sourceReport wholeSeconds query now snaps source).1.sourceId = source.1 ∧
      ∀ incident ∈ (sourceReport wholeSeconds query now snaps source).2,
        incident.sourceId = source.1 := by
  refine ⟨rfl, fun incident mem => ?_⟩
  simp only [sourceReport, List.mem_append] at mem
  rcases mem with closed | here
  · obtain ⟨gap, -, is⟩ := List.mem_filterMap.mp closed
    simp only [Option.ite_none_right_eq_some, Option.some.injEq] at is
    rw [← is.2]
  · split at here
    · rw [List.mem_singleton.mp here, openIncident]
    · cases here

/-- **A breach** is a last snapshot in the window that is older than the threshold. -/
theorem breachedFrom_iff (listed : id ∈ (listedSources db query).map Prod.fst) :
    BreachedFrom (freshnessResponse wholeSeconds db query now) id start ↔
      db.IsLatest id (query.cutoff now) (some start) ∧
        query.thresholdSeconds < wholeSeconds (now - start) := by
  have latest : db.IsLatest id (query.cutoff now) (snapsOf (windowSnapshots db (query.cutoff now)
      ((listedSources db query).map Prod.fst)) id).getLast? := isLatest_getLast? listed
  constructor
  · rintro ⟨-, incident, mem, rfl, isOpen, rfl⟩
    obtain ⟨report, reported, here⟩ := mem_incidents.mp mem
    obtain ⟨source, -, rfl⟩ := mem_sourceReports.mp reported
    obtain ⟨last, is, late, begins⟩ := sourceReport_open here isOpen
    rw [sourceReport_sourceId.2 _ here, begins, ← is]
    rw [sourceReport_sourceId.2 _ here] at latest
    exact ⟨latest, late⟩
  · rintro ⟨isLatest, late⟩
    have is := latest.unique isLatest
    obtain ⟨source, mem, rfl⟩ := List.mem_map.mp listed
    have breached : freshnessStatus (((snapsOf (windowSnapshots db (query.cutoff now)
        ((listedSources db query).map Prod.fst)) source.1).getLast?).map
          fun lastAt => wholeSeconds (now - lastAt)) query.thresholdSeconds = .breached :=
      freshnessStatus_eq_breached_iff.mpr ⟨_, by rw [is, Option.map_some], late⟩
    have reported := sourceReport_mem wholeSeconds now mem
    refine ⟨⟨_, mem_sources.mpr ⟨_, reported, rfl⟩, rfl, breached⟩,
      openIncident wholeSeconds query now source (some start),
      mem_incidents.mpr ⟨_, reported, ?_⟩, rfl, rfl, rfl⟩
    simp only [sourceReport]
    rw [if_pos breached, is]
    exact List.mem_append_right _ (List.mem_singleton_self _)

/-- **No data** is a window without a snapshot. -/
theorem withoutData_of_isLatest (listed : id ∈ (listedSources db query).map Prod.fst)
    (none_ : db.IsLatest id (query.cutoff now) none) :
    WithoutData (freshnessResponse wholeSeconds db query now) id := by
  have latest : db.IsLatest id (query.cutoff now) (snapsOf (windowSnapshots db (query.cutoff now)
      ((listedSources db query).map Prod.fst)) id).getLast? := isLatest_getLast? listed
  have is := latest.unique none_
  obtain ⟨source, mem, rfl⟩ := List.mem_map.mp listed
  have reported := sourceReport_mem wholeSeconds now mem
  refine ⟨⟨_, mem_sources.mpr ⟨_, reported, rfl⟩, rfl, ?_, is⟩, fun incident mem own => ?_⟩
  · simp only [sourceReport, is, Option.map_none]
    rfl
  · obtain ⟨report, reported', here⟩ := mem_incidents.mp mem
    obtain ⟨source', -, rfl⟩ := mem_sourceReports.mp reported'
    rw [sourceReport_sourceId.2 _ here] at own
    by_contra isOpen
    obtain ⟨last, is', -, -⟩ := sourceReport_open here (Bool.eq_true_of_not_eq_false isOpen)
    rw [own, is] at is'
    cases is'

end Reported

/-! ### A breach that ages -/

section Ages

variable {wholeSeconds : Int → Int} {db db' : FreshnessDb} {query : FreshnessQuery} {now t t' : Int}
  {response : FreshnessSLAResponse} {id : Nat} {start : Int}

/-- Without a snapshot from the future the schemas admit the report. -/
theorem getFreshnessSla_of_past (mono : ∀ {a b}, a ≤ b → wholeSeconds a ≤ wholeSeconds b)
    (zero : wholeSeconds 0 = 0)
    (admitted : 1 ≤ query.days ∧ 1 ≤ query.slaThresholdHours)
    (past : ∀ sourceId createdAt, db.HasSnapshot sourceId createdAt → createdAt ≤ now) :
    getFreshnessSla wholeSeconds db query now = some (freshnessResponse wholeSeconds db query now) := by
  have threshold : 1 ≤ query.thresholdSeconds := by
    simp only [FreshnessQuery.thresholdSeconds]
    omega
  have rows : ∀ row ∈ (freshnessResponse wholeSeconds db query now).sources, row.valid = true := by
    intro row mem
    have latest := lastSnapshotAt_of_mem mem
    obtain ⟨report, reported, rfl⟩ := mem_sources.mp mem
    obtain ⟨source, -, rfl⟩ := mem_sourceReports.mp reported
    simp only [sourceReport, FreshnessSourceRow.valid, threshold, decide_true, Bool.and_true] at latest ⊢
    cases is : (snapsOf (windowSnapshots db (query.cutoff now)
        ((listedSources db query).map Prod.fst)) source.1).getLast? with
    | none => rfl
    | some last =>
      rw [is] at latest
      have age : wholeSeconds 0 ≤ wholeSeconds (now - last) :=
        mono (Int.sub_nonneg.mpr (past _ _ latest.1))
      rw [zero] at age
      simpa using age
  have incidents : ∀ incident ∈ (freshnessResponse wholeSeconds db query now).incidents,
      incident.valid = true := by
    intro incident mem
    obtain ⟨report, reported, here⟩ := mem_incidents.mp mem
    obtain ⟨source, -, rfl⟩ := mem_sourceReports.mp reported
    simp only [sourceReport, List.mem_append] at here
    refine decide_eq_true ?_
    rcases here with closed | here
    · obtain ⟨gap, -, is⟩ := List.mem_filterMap.mp closed
      simp only [Option.ite_none_right_eq_some, Option.some.injEq] at is
      rw [← is.2]
      simp only
      omega
    · split at here
      · rename_i breached
        obtain ⟨age, aged, late⟩ := freshnessStatus_eq_breached_iff.mp breached
        obtain ⟨last, is, rfl⟩ := Option.map_eq_some_iff.mp aged
        rw [List.mem_singleton.mp here, openIncident, is]
        simp only [Option.getD_some]
        omega
      · cases here
  have bounds : (freshnessResponse wholeSeconds db query now).valid = true := decide_eq_true admitted
  unfold getFreshnessSla
  simp only [List.all_eq_true.mpr rows, List.all_eq_true.mpr incidents, bounds, Bool.and_self, if_true]

/-- Time passes without a snapshot of a source that is listed before and after. -/
structure Ages (query : FreshnessQuery) (id : Nat) (t t' : Int) (db db' : FreshnessDb) : Prop where
  later : t ≤ t'
  same : ∀ createdAt, db'.HasSnapshot id createdAt ↔ db.HasSnapshot id createdAt
  listed : id ∈ (listedSources db' query).map Prod.fst
  past : ∀ sourceId createdAt, db'.HasSnapshot sourceId createdAt → createdAt ≤ t'

theorem listed_of_breachedFrom
    (breached : BreachedFrom (freshnessResponse wholeSeconds db query now) id start) :
    id ∈ (listedSources db query).map Prod.fst := by
  obtain ⟨row, mem, rfl, -⟩ := breached.row
  obtain ⟨report, reported, rfl⟩ := mem_sources.mp mem
  obtain ⟨source, listed, rfl⟩ := mem_sourceReports.mp reported
  exact List.mem_map_of_mem listed

/-- The snapshot that a breach starts at is the last one as long as it is in the window. -/
theorem Ages.isLatest (ages : Ages query id t t' db db')
    (latest : db.IsLatest id (query.cutoff t) (some start)) :
    (query.cutoff t' ≤ start → db'.IsLatest id (query.cutoff t') (some start)) ∧
      (start < query.cutoff t' → db'.IsLatest id (query.cutoff t') none) := by
  obtain ⟨stored, -, last⟩ := latest
  constructor
  · intro inWindow
    exact ⟨(ages.same start).mpr stored, inWindow, fun at_ has => last at_ ((ages.same at_).mp has)⟩
  · intro left at_ has
    exact (last at_ ((ages.same at_).mp has)).trans_lt left

/-- **A freshness breach** stays, from the same snapshot on, as the source ages, until the snapshot
leaves the window; then there is no data. What is reported as the last snapshot is the most recent
one, if that is in the window. -/
theorem freshness_breach_ages (mono : ∀ {a b}, a ≤ b → wholeSeconds a ≤ wholeSeconds b)
    (zero : wholeSeconds 0 = 0) (query : FreshnessQuery) :
    (∀ db db' t t' response id start, getFreshnessSla wholeSeconds db query t = some response →
        BreachedFrom response id start → Ages query id t t' db db' →
        ∃ response', getFreshnessSla wholeSeconds db' query t' = some response' ∧
          (query.cutoff t' ≤ start → BreachedFrom response' id start) ∧
          (start < query.cutoff t' → WithoutData response' id)) ∧
      ∀ db now response row, getFreshnessSla wholeSeconds db query now = some response →
        row ∈ response.sources → db.IsLatest row.sourceId (query.cutoff now) row.lastSnapshotAt := by
  constructor
  · intro db db' t t' response id start is breached ages
    obtain ⟨rfl, valid⟩ := response_of_getFreshnessSla is
    obtain ⟨latest, late⟩ := (breachedFrom_iff (listed_of_breachedFrom breached)).mp breached
    refine ⟨_, getFreshnessSla_of_past mono zero (of_decide_eq_true valid) ages.past, ?_, ?_⟩
    · intro inWindow
      have older : wholeSeconds (t - start) ≤ wholeSeconds (t' - start) :=
        mono (Int.sub_le_sub_right ages.later start)
      exact (breachedFrom_iff ages.listed).mpr
        ⟨(ages.isLatest latest).1 inWindow, late.trans_le older⟩
    · intro left
      exact withoutData_of_isLatest ages.listed ((ages.isLatest latest).2 left)
  · intro db now response row is mem
    obtain ⟨rfl, -⟩ := response_of_getFreshnessSla is
    exact lastSnapshotAt_of_mem mem

end Ages

/-! ### One snapshot -/

/-- A source whose one snapshot is from the time `0`. -/
def agedDb : FreshnessDb where
  sources := Rows.empty.insert { id := 1, name := "api", baseUrl := "https://example.com", tenantId := none }
  snapshots := Rows.empty.insert
    { sourceId := 1
      schemaVersion := none
      payloadSchema := []
      schemaFingerprint := ""
      compatibilityScore := 100
      snapshotNote := none
      createdAt := 0 }

/-- A window of one day, and a threshold of one hour. -/
def agedQuery : FreshnessQuery where
  days := 1
  limit := 10
  slaThresholdHours := 1

/-- Whole seconds of a span that is not negative. -/
def secondsOf (span : Int) : Int := span / 1000000

theorem secondsOf_mono {a b : Int} (le : a ≤ b) : secondsOf a ≤ secondsOf b :=
  Int.ediv_le_ediv (by decide) le

theorem agedDb_hasSnapshot {id : Nat} {createdAt : Int} (has : agedDb.HasSnapshot id createdAt) :
    createdAt = 0 := by
  obtain ⟨key, snapshot, stored, -, rfl⟩ := has
  rcases Rows.get_insert_cases stored with ⟨-, rfl⟩ | ⟨-, absent⟩
  · rfl
  · cases absent

theorem agedDb_ages {t t' : Int} (later : t ≤ t') (past : 0 ≤ t') : Ages agedQuery 1 t t' agedDb agedDb :=
  ⟨later, fun _ => Iff.rfl, by decide, fun _ _ has => (agedDb_hasSnapshot has).le.trans past⟩

theorem agedDb_breached : ∃ response,
    getFreshnessSla secondsOf agedDb agedQuery 7200000000 = some response ∧ BreachedFrom response 1 0 :=
  ⟨freshnessResponse secondsOf agedDb agedQuery 7200000000, by decide,
    (breachedFrom_iff (by decide)).mpr ⟨⟨⟨1, _, rfl, rfl, rfl⟩, by decide,
      fun _ has => (agedDb_hasSnapshot has).le⟩, by decide⟩⟩

/-- After three hours the breach is still there. -/
theorem freshness_breach_ages_hours : ∃ response,
    getFreshnessSla secondsOf agedDb agedQuery 10800000000 = some response ∧ BreachedFrom response 1 0 := by
  obtain ⟨response, is, breached⟩ := agedDb_breached
  obtain ⟨response', is', stays, -⟩ := (freshness_breach_ages secondsOf_mono rfl agedQuery).1 agedDb
    agedDb 7200000000 10800000000 response 1 0 is breached (agedDb_ages (by decide) (by decide))
  exact ⟨response', is', stays (by decide)⟩

/-- After two days it is gone, and so is the last snapshot. -/
theorem breach_heals : ∃ response response',
    getFreshnessSla secondsOf agedDb agedQuery 7200000000 = some response ∧ BreachedFrom response 1 0 ∧
      Ages agedQuery 1 7200000000 172800000000 agedDb agedDb ∧
      getFreshnessSla secondsOf agedDb agedQuery 172800000000 = some response' ∧
      response'.sources.map (fun row => (row.status, row.lastSnapshotAt)) = [(.noData, none)] ∧
      response'.incidents = [] := by
  obtain ⟨response, is, breached⟩ := agedDb_breached
  exact ⟨response, freshnessResponse secondsOf agedDb agedQuery 172800000000, is, breached,
    agedDb_ages (by decide) (by decide), by decide, by decide, by decide⟩

end ApiObservatory.Reporting
