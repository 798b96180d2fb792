import ApiObservatory.Repositories.Observations
import ApiObservatory.Time
import Mathlib.Algebra.GroupWithZero.Nat
import Mathlib.Data.String.Basic

/-
The analytics routes (`services/ingestor/api/routes/analytics.py`), with the
aggregations in Python of the routes that try a PostgreSQL statement first.

A datetime of an answer is kept as its value, a day as its number: the texts of two
days are ordered as the days are. Floats and Python's comparison of JSON values are a
parameter; an operation that may raise returns an `Option`.
-/

namespace ApiObservatory.Analytics

open Foundation

/-- What the aggregations do with numbers. -/
structure Numbers (F : Type) where
  /-- `float(value)`. -/
  float : Json → Option F
  /-- `round(sum(values) / len(values), 4)`. -/
  average : List F → F
  minimum : List F → F
  maximum : List F → F
  /-- `round(part / whole * 100, 2)`. -/
  percentage : Nat → Nat → F
  /-- `round(part / whole, 4)`. -/
  share : Nat → Nat → F
  zero : F
  equal : Json → Json → Bool
  /-- `a < b`. -/
  less : Json → Json → Option Bool

variable {F : Type}

/-- The rows that have one key, under each key, by first appearance. -/
def groupBy {α κ : Type} [DecidableEq κ] (key : α → κ) (rows : List α) : List (κ × List α) :=
  (rows.map key).eraseDups.map fun k => (k, rows.filter fun row => key row = k)

@[simp] theorem groupBy_nil {α κ : Type} [DecidableEq κ] (key : α → κ) :
    groupBy key ([] : List α) = [] := rfl

@[simp] theorem groupBy_singleton {α κ : Type} [DecidableEq κ] (key : α → κ) (row : α) :
    groupBy key [row] = [(key row, [row])] := by
  simp [groupBy, List.eraseDups_cons]

/-- `raw_data.get("value")` of a dictionary. -/
def valueOf (row : Observation) : Json :=
  match row.rawData with
  | .object fields => (fields.lookup "value").getD .null
  | _ => .null

/-- `timestamp.replace(minute=0, second=0, microsecond=0)`. -/
def hourOf (timestamp : Int) : Int := timestamp - timestamp % seconds 3600

def dayOf (timestamp : Int) : Int := timestamp / seconds 86400

/-- `timedelta(hours=n)`. -/
def hoursBefore (now hours : Int) : Int := now - hours * seconds 3600

/-- The undeleted rows since a time. -/
def recent (since : Int) (_ : Nat) (row : Observation) : Bool :=
  row.deletedAt.isNone && decide (since ≤ row.timestamp)

/-! ### Hours -/

structure HourSummary (F : Type) where
  hour : Int
  observationCount : Nat
  processedCount : Nat
  processedPct : Option F
  avgValue : Option F
  minValue : Option F
  maxValue : Option F
  uniqueSources : Nat

/-- A row of the materialized view, computed from the table. -/
structure HourStats (F : Type) extends HourSummary F where
  sourceList : String
  materializedAt : Int

section Hours

variable (numbers : Numbers F) (session : Session) (db : ObservationDb)
  (sources : Rows SourceProfile) (now : Int)

/-- The values of some rows as floats. -/
def readValues (rows : List (Nat × Observation)) : Option (List F) :=
  ((rows.map fun entry => valueOf entry.2).filter (· ≠ .null)).mapM numbers.float

/-- The names of the sources of some rows. -/
def sourceNames (rows : List (Nat × Observation)) : List String :=
  (rows.map fun entry => resolveSourceName sources entry.2.sourceId).eraseDups

/-- The groups of `hourly`, newest first. -/
def newestHours (rows : List (Nat × Observation)) : List (Int × List (Nat × Observation)) :=
  orderBy (fun group => OrderDual.toDual group.1) (groupBy (fun entry => hourOf entry.2.timestamp) rows)

/-- The body of the loop over the hours. -/
def hourSummary (group : Int × List (Nat × Observation)) : Option (HourSummary F) :=
  (readValues numbers group.2).map fun values =>
    let observationCount := group.2.length
    let processedCount := (group.2.filter fun entry => entry.2.processed).length
    { hour := group.1
      observationCount
      processedCount
      processedPct :=
        if observationCount = 0 then none
        else some (numbers.percentage processedCount observationCount)
      avgValue := if values.isEmpty then none else some (numbers.average values)
      minValue := if values.isEmpty then none else some (numbers.minimum values)
      maxValue := if values.isEmpty then none else some (numbers.maximum values)
      uniqueSources := (sourceNames sources group.2).length }

/-- `get_summary`. -/
def getSummary (hours : Int) : Option (List (HourSummary F)) :=
  let observations := orderBy (fun entry => entry.2.timestamp)
    (selectObservations session db (recent (hoursBefore now hours)))
  (newestHours observations).mapM (hourSummary numbers db.sources)

/-- `_compute_stats_from_base`. -/
def computeStatsFromBase (limit : Int) : Option (List (HourStats F)) :=
  let observations := orderBy (fun entry => entry.2.timestamp)
    (selectObservations session db fun _ row => row.deletedAt.isNone)
  ((newestHours observations).take limit.toNat).mapM fun group =>
    (hourSummary numbers db.sources group).map fun summary =>
      { summary with
        sourceList := String.intercalate "," (orderBy id (sourceNames db.sources group.2))
        materializedAt := now }

end Hours

/-! ### Ranks -/

structure RankedObservation (F : Type) where
  id : Nat
  timestamp : Int
  value : Json
  percentileRank : F

structure TopObservation where
  id : Nat
  timestamp : Int
  value : Json
  rank : Nat

section Ranks

variable (numbers : Numbers F) (session : Session) (db : ObservationDb) (now : Int)

/-- The rows `get_percentile` ranks. An unknown name does not restrict them; rows with
one timestamp come in the order of the index, the last one first. -/
def percentileRows (source : String) : List (Nat × Observation) :=
  (orderBy newestFirst (selectObservations session db fun _ row =>
    row.deletedAt.isNone && (resolveSourceIdByName db source).all (row.sourceId == ·))).take 100

/-- `get_percentile`. -/
def getPercentile (source : String) : List (RankedObservation F) :=
  let observations := percentileRows session db source
  let total := observations.length
  observations.zipIdx.map fun ((id, row), i) =>
    { id
      timestamp := row.timestamp
      value := valueOf row
      percentileRank := if total ≤ 1 then numbers.zero else numbers.share i (total - 1) }

/-- `value or 0`; a number that is zero compares like `0`. -/
def orZero : Json → Json
  | .string "" | .array [] | .object [] => .number "0"
  | value => value

/-- `<` of the keys `(value is not None, value or 0)`. -/
def keyLess (a b : Json) : Option Bool :=
  if a = .null ∨ b = .null then some (decide (a = .null ∧ b ≠ .null))
  else if numbers.equal (orZero a) (orZero b) then some false
  else numbers.less (orZero a) (orZero b)

def insertRanked (entry : Nat × Observation) :
    List (Nat × Observation) → Option (List (Nat × Observation))
  | [] => some [entry]
  | first :: rest => do
      if ← keyLess numbers (valueOf entry.2) (valueOf first.2) then
        return first :: (← insertRanked entry rest)
      else return entry :: first :: rest

/-- `sorted(..., reverse=True)`: values that are equal keep their places, and two values
that cannot be compared raise. -/
def sortRanked : List (Nat × Observation) → Option (List (Nat × Observation))
  | [] => some []
  | entry :: rest => (sortRanked rest).bind (insertRanked numbers entry)

/-- `get_top_by_source`. -/
def getTopBySource (limit hours : Int) : Option (List (String × List TopObservation)) :=
  let observations := orderBy newestFirst
    (selectObservations session db (recent (hoursBefore now hours)))
  (groupBy (fun entry => resolveSourceName db.sources entry.2.sourceId) observations).mapM
    fun (source, rows) => (sortRanked numbers rows).map fun sorted =>
      (source, (sorted.take limit.toNat).zipIdx.map fun ((id, row), i) =>
        { id, timestamp := row.timestamp, value := valueOf row, rank := i + 1 })

end Ranks

/-! ### Days -/

structure SourceCount where
  source : String
  count : Nat
  rank : Nat

structure DaySummary (F : Type) where
  day : Int
  dailyCount : Nat
  rolling7d : Nat
  prevDayCount : Option Nat := none
  dayOverDayPct : Option F := none
  p95LatencySecs : Option F := none
  topSources : List SourceCount

section Days

variable (session : Session) (db : ObservationDb) (sources : Rows SourceProfile) (now : Int)

/-- The five sources with most rows. -/
def topSources (rows : List (Nat × Observation)) : List SourceCount :=
  let counts := (groupBy (fun entry => resolveSourceName sources entry.2.sourceId) rows).map
    fun (source, rows) => (source, rows.length)
  ((orderBy (fun item => OrderDual.toDual item.2) counts).take 5).zipIdx.map fun ((source, count), i) =>
    { source, count, rank := i + 1 }

/-- The loop over the days, from the oldest, with the counts of `running_window`. -/
def daySummaries : List Nat → List (Int × List (Nat × Observation)) → List (DaySummary F)
  | _, [] => []
  | runningWindow, (day, rows) :: later =>
      let runningWindow := runningWindow ++ [rows.length]
      let runningWindow := if 7 < runningWindow.length then runningWindow.tail else runningWindow
      { day
        dailyCount := rows.length
        rolling7d := runningWindow.sum
        topSources := topSources sources rows } :: daySummaries runningWindow later

/-- `_compute_timeseries_fallback`. -/
def computeTimeseriesFallback (days : Int) : List (DaySummary F) :=
  let observations := selectObservations session db (recent (now - days * seconds 86400))
  let daily := orderBy Prod.fst (groupBy (fun entry => dayOf entry.2.timestamp) observations)
  (daySummaries db.sources [] daily).reverse

end Days

/-! ### Requests -/

structure TenantStatus where
  activeTenantId : Option Int
  observationCount : Nat
  isolationEnforced : Bool := true
  engine : String := "Application-level tenant filter (mirrors PostgreSQL RLS)"
  logic : String := "SELECT count(*) FROM observations WHERE tenant_id = current OR tenant_id IS NULL"

/-- `get_tenant_status`; deleted rows count. -/
def getTenantStatus (session : Session) (db : ObservationDb) : TenantStatus where
  activeTenantId := session.tenantId
  observationCount := (selectObservations session db fun _ row => session.tenantFilter row).length

inductive Request where
  | summary (hours : Int)
  | percentile (source : String)
  | topBySource (limit hours : Int)
  | materializedViewStats (limit : Int)
  | timeseries (days : Int)
  | tenantStatus

/-- The bounds of the query parameters. -/
def Request.admitted : Request → Bool
  | .summary hours => decide (1 ≤ hours ∧ hours ≤ 168)
  | .percentile _ => true
  | .topBySource limit hours => decide ((1 ≤ limit ∧ limit ≤ 50) ∧ 1 ≤ hours ∧ hours ≤ 2160)
  | .materializedViewStats limit => decide (1 ≤ limit ∧ limit ≤ 168)
  | .timeseries days => decide (1 ≤ days ∧ days ≤ 90)
  | .tenantStatus => true

inductive Body (F : Type) where
  | summary (summary : List (HourSummary F)) (hoursBack since : Int)
  | percentile (source : String) (count : Nat) (observations : List (RankedObservation F))
  | topBySource (bySource : List (String × List TopObservation)) (limitPerSource hoursBack : Int)
  | materializedViewStats (stats : List (HourStats F)) (limit : Int)
  | timeseries (timeseries : List (DaySummary F)) (days : Int)
  | tenantStatus (status : TenantStatus)

/-- A request is refused, its handler raises, or it has a body. -/
inductive Response (F : Type) where
  | unprocessable
  | raised
  | ok (body : Body F)

/-- The body of an admitted request. -/
def body (numbers : Numbers F) (session : Session) (db : ObservationDb) (now : Int) :
    Request → Option (Body F)
  | .summary hours => (getSummary numbers session db now hours).map fun summary =>
      .summary summary hours (hoursBefore now hours)
  | .percentile source =>
      let observations := getPercentile numbers session db source
      some (.percentile source observations.length observations)
  | .topBySource limit hours => (getTopBySource numbers session db now limit hours).map fun bySource =>
      .topBySource bySource limit hours
  | .materializedViewStats limit => (computeStatsFromBase numbers session db now limit).map fun stats =>
      .materializedViewStats stats limit
  | .timeseries days => some (.timeseries (computeTimeseriesFallback session db now days) days)
  | .tenantStatus => some (.tenantStatus (getTenantStatus session db))

def respond (numbers : Numbers F) (session : Session) (db : ObservationDb) (now : Int)
    (request : Request) : Response F :=
  if request.admitted then
    match body numbers session db now request with
    | some body => .ok body
    | none => .raised
  else .unprocessable

end ApiObservatory.Analytics
