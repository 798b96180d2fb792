import ApiObservatory.Analytics.Routes
import Mathlib.Algebra.Order.Field.Rat

/-
Tenant isolation of the analytics routes, as a property of two databases.

Only `get_tenant_status` filters its query. An answer depends on the rows its query
selects, so without row-level security each other route tells a caller about the rows
of other tenants (`isolated_iff_contained`).
-/

namespace ApiObservatory.Analytics

open Foundation

variable {F : Type}

/-- The constraints of the table: the foreign key and the unique index. -/
structure Valid (db : ObservationDb) : Prop where
  sources : ∀ {id row}, db.observations.get id = some row →
    ∃ profile, db.sources.get row.sourceId = some profile
  unique : ∀ {id other row row'}, db.observations.get id = some row →
    db.observations.get other = some row' → row.sourceId = row'.sourceId →
    row.timestamp = row'.timestamp → id = other

/-- Two databases with the same rows for a session. -/
def Agree (session : Session) (db db' : ObservationDb) : Prop :=
  ∀ id row, session.tenantFilter row = true →
    (db.observations.get id = some row ↔ db'.observations.get id = some row)

/-- The answer to a request is the same from any two databases with one registry that
have the same rows for the session. -/
def Isolated (numbers : Numbers F) (session : Session) (sources : Rows SourceProfile) (now : Int)
    (request : Request) : Prop :=
  ∀ db db' : ObservationDb, db.sources = sources → db'.sources = sources →
    Valid db → Valid db' → Agree session db db' →
    respond numbers session db now request = respond numbers session db' now request

/-- When it is: the request is refused or filters its query, the database or the role
of the caller makes the filter needless, or there is nothing to observe. -/
def Contained (session : Session) (sources : Rows SourceProfile) (request : Request) : Prop :=
  request = .tenantStatus ∨ request.admitted = false ∨ session.rlsEnabled = true ∨
    session.userRole = some "admin" ∨ ∀ id, sources.get id = none

/-! ### What an answer depends on -/

/-- The condition of the query of a request. -/
def condition (session : Session) (db : ObservationDb) (now : Int) :
    Request → Nat → Observation → Bool
  | .summary hours => recent (hoursBefore now hours)
  | .percentile source => fun _ row =>
      row.deletedAt.isNone && (resolveSourceIdByName db source).all (row.sourceId == ·)
  | .topBySource _ hours => recent (hoursBefore now hours)
  | .materializedViewStats _ => fun _ row => row.deletedAt.isNone
  | .timeseries days => recent (now - days * seconds 86400)
  | .tenantStatus => fun _ row => session.tenantFilter row

/-- The rows the query of a request selects. -/
def queried (session : Session) (db : ObservationDb) (now : Int) (request : Request) :
    List (Nat × Observation) :=
  selectObservations session db (condition session db now request)

section Answers

variable {numbers : Numbers F} {session : Session} {db db' : ObservationDb} {now : Int}
  {request : Request}

/-- **An answer** depends on the registry and on the rows its query selects. -/
theorem respond_of_queried (registry : db.sources = db'.sources)
    (same : queried session db now request = queried session db' now request) :
    respond numbers session db now request = respond numbers session db' now request := by
  obtain ⟨observations, sources⟩ := db
  obtain ⟨observations', sources'⟩ := db'
  cases registry
  unfold respond
  congr 2
  unfold queried condition at same
  cases request with
  | summary hours => simp only [body, getSummary]; rw [same]
  | percentile source =>
    have rows : percentileRows session ⟨observations, sources⟩ source =
        percentileRows session ⟨observations', sources⟩ source :=
      congrArg (fun rows => (orderBy newestFirst rows).take 100) same
    simp only [body, getPercentile, rows]
  | topBySource limit hours => simp only [body, getTopBySource]; rw [same]
  | materializedViewStats limit => simp only [body, computeStatsFromBase]; rw [same]
  | timeseries days => simp only [body, computeTimeseriesFallback]; rw [same]
  | tenantStatus => simp only [body, getTenantStatus]; rw [same]

theorem condition_of_registry (registry : db.sources = db'.sources) :
    condition session db now request = condition session db' now request := by
  cases request <;> simp only [condition, resolveSourceIdByName, registry]

/-- Rows of which those selected are the same are selected alike. -/
theorem queried_congr (registry : db.sources = db'.sources)
    (same : ∀ id row, session.policy row = true → condition session db now request id row = true →
      (db.observations.get id = some row ↔ db'.observations.get id = some row)) :
    queried session db now request = queried session db' now request := by
  unfold queried selectObservations
  refine Rows.select_congr fun id row => ?_
  rw [← condition_of_registry registry, Bool.and_eq_true]
  exact and_congr_left fun selected => same id row selected.1 selected.2

end Answers

/-! ### A row of another tenant -/

section Foreign

variable {numbers : Numbers F} {session : Session} {sources : Rows SourceProfile} {now : Int}
  {request : Request} {row : Observation}

/-- The registry without observations. -/
def noRows (sources : Rows SourceProfile) : ObservationDb := { observations := Rows.empty, sources }

def oneRow (sources : Rows SourceProfile) (row : Observation) : ObservationDb :=
  { observations := Rows.empty.insert row, sources }

theorem select_noRows (condition : Nat → Observation → Bool) :
    selectObservations session (noRows sources) condition = [] := rfl

theorem select_oneRow {condition : Nat → Observation → Bool} (unrestricted : session.rlsEnabled = false)
    (selected : condition 1 row = true) :
    selectObservations session (oneRow sources row) condition = [(1, row)] := by
  have passes : session.policy row = true := by simp [Session.policy, unrestricted]
  unfold selectObservations oneRow
  rw [Rows.select_insert]
  simp only [Rows.empty, passes, selected, Bool.and_self, if_true]
  rfl

/-- An answer that counts the row differs from the answer without it. -/
theorem respond_oneRow (unrestricted : session.rlsEnabled = false)
    (admitted : request.admitted = true) (unfiltered : request ≠ .tenantStatus)
    (valueless : valueOf row = .null)
    (selected : condition session (oneRow sources row) now request 1 row = true) :
    respond numbers session (noRows sources) now request ≠
      respond numbers session (oneRow sources row) now request := by
  unfold respond
  rw [if_pos admitted, if_pos admitted]
  cases request with
  | summary hours =>
    have found : selectObservations session (oneRow sources row) (recent (hoursBefore now hours)) =
        [(1, row)] := select_oneRow unrestricted selected
    simp [body, getSummary, found, select_noRows, newestHours, hourSummary, readValues, valueless]
  | percentile source =>
    have found : percentileRows session (oneRow sources row) source = [(1, row)] :=
      congrArg (fun rows => (orderBy newestFirst rows).take 100) (select_oneRow unrestricted selected)
    have nothing : percentileRows session (noRows sources) source = [] := rfl
    simp [body, getPercentile, found, nothing]
  | topBySource limit hours =>
    have found : selectObservations session (oneRow sources row) (recent (hoursBefore now hours)) =
        [(1, row)] := select_oneRow unrestricted selected
    simp [body, getTopBySource, found, select_noRows, sortRanked, insertRanked]
  | materializedViewStats limit =>
    have found : selectObservations session (oneRow sources row) (fun _ row => row.deletedAt.isNone) =
        [(1, row)] := select_oneRow unrestricted selected
    have positive : 1 ≤ limit ∧ limit ≤ 168 := of_decide_eq_true admitted
    obtain ⟨n, hn⟩ : ∃ n, limit.toNat = n + 1 := ⟨limit.toNat - 1, by omega⟩
    simp [body, computeStatsFromBase, found, select_noRows, newestHours, hourSummary, readValues,
      valueless, hn]
  | timeseries days =>
    have found : selectObservations session (oneRow sources row)
        (recent (now - days * seconds 86400)) = [(1, row)] := select_oneRow unrestricted selected
    simp [body, computeTimeseriesFallback, found, select_noRows, daySummaries]
  | tenantStatus => exact absurd rfl unfiltered

theorem noRows_valid (sources : Rows SourceProfile) : Valid (noRows sources) :=
  ⟨fun stored => (by cases stored), fun stored => (by cases stored)⟩

theorem oneRow_valid {profile : SourceProfile} (known : sources.get row.sourceId = some profile) :
    Valid (oneRow sources row) := by
  have only : ∀ {id other}, (oneRow sources row).observations.get id = some other →
      id = 1 ∧ other = row := by
    intro id other stored
    rcases Rows.get_insert_cases stored with ⟨here, same⟩ | ⟨-, absent⟩
    · exact ⟨here, same⟩
    · cases absent
  refine ⟨fun stored => ?_, fun stored stored' _ _ => (only stored).1.trans (only stored').1.symm⟩
  rw [(only stored).2]
  exact ⟨profile, known⟩

/-- The session does not tell a hidden row from none. -/
theorem agree_oneRow (hidden : session.tenantFilter row = false) :
    Agree session (noRows sources) (oneRow sources row) := by
  intro id other visible
  refine iff_of_false (fun stored => by cases stored) fun stored => ?_
  rcases Rows.get_insert_cases stored with ⟨-, rfl⟩ | ⟨-, absent⟩
  · rw [hidden] at visible
    cases visible
  · cases absent

/-- An observation of a tenant that is not the session's. -/
def foreignRow (session : Session) (sourceId : Nat) (now : Int) : Observation :=
  { sourceId
    timestamp := now
    rawData := .object []
    tenantId := some (session.tenantId.getD 0 + 1) }

theorem foreignRow_hidden {sourceId : Nat} (ordinary : session.userRole ≠ some "admin") :
    session.tenantFilter (foreignRow session sourceId now) = false := by
  unfold Session.tenantFilter foreignRow
  rw [if_neg ordinary]
  cases session.tenantId with
  | none => rfl
  | some tenantId =>
    have other : tenantId + 1 ≠ tenantId := by omega
    simp [other]

/-- The source whose rows a request selects, if there is any source. -/
theorem exists_source {id : Nat} {profile : SourceProfile} (known : sources.get id = some profile)
    (request : Request) :
    ∃ sourceId profile, sources.get sourceId = some profile ∧
      ∀ source, request = .percentile source →
        (resolveSourceIdByName (noRows sources) source).all (sourceId == ·) = true := by
  cases request with
  | percentile source =>
    cases found : resolveSourceIdByName (noRows sources) source with
    | none => exact ⟨id, profile, known, fun _ same => by cases same; rw [found]; rfl⟩
    | some sourceId =>
      obtain ⟨⟨sourceId, named⟩, first, rfl⟩ := Option.map_eq_some_iff.mp found
      refine ⟨sourceId, named, Rows.mem_toList.mp (List.mem_of_find?_eq_some first), ?_⟩
      intro _ same
      cases same
      rw [found]
      simp
  | summary | topBySource | materializedViewStats | timeseries | tenantStatus =>
    exact ⟨id, profile, known, fun _ same => by cases same⟩

/-- Every request that does not filter selects the foreign row. -/
theorem foreignRow_selected {sourceId : Nat} (admitted : request.admitted = true)
    (unfiltered : request ≠ .tenantStatus)
    (own : ∀ source, request = .percentile source →
      (resolveSourceIdByName (noRows sources) source).all (sourceId == ·) = true) :
    condition session (oneRow sources (foreignRow session sourceId now)) now request 1
      (foreignRow session sourceId now) = true := by
  cases request with
  | summary hours =>
    have bounds : 1 ≤ hours ∧ hours ≤ 168 := of_decide_eq_true admitted
    have before : hoursBefore now hours ≤ now := by simp only [hoursBefore, seconds]; omega
    simp [condition, recent, foreignRow, before]
  | percentile source =>
    simp only [condition, foreignRow, Option.isNone_none, Bool.true_and]
    exact own source rfl
  | topBySource limit hours =>
    have bounds : (1 ≤ limit ∧ limit ≤ 50) ∧ 1 ≤ hours ∧ hours ≤ 2160 := of_decide_eq_true admitted
    have before : hoursBefore now hours ≤ now := by simp only [hoursBefore, seconds]; omega
    simp [condition, recent, foreignRow, before]
  | materializedViewStats limit => rfl
  | timeseries days =>
    have bounds : 1 ≤ days ∧ days ≤ 90 := of_decide_eq_true admitted
    have before : now - days * seconds 86400 ≤ now := by simp only [seconds]; omega
    simp only [condition, recent, foreignRow, Option.isNone_none, Bool.true_and]
    exact decide_eq_true before
  | tenantStatus => exact absurd rfl unfiltered

/-- **A leak**: without row-level security a request that does not filter tells an ordinary
caller about the rows of other tenants, as soon as there is a source. -/
theorem not_isolated {id : Nat} {profile : SourceProfile} (known : sources.get id = some profile)
    (unrestricted : session.rlsEnabled = false) (ordinary : session.userRole ≠ some "admin")
    (admitted : request.admitted = true) (unfiltered : request ≠ .tenantStatus) :
    ¬ Isolated numbers session sources now request := by
  intro isolated
  obtain ⟨sourceId, own, stored, selects⟩ := exists_source known request
  have same := isolated (noRows sources) (oneRow sources (foreignRow session sourceId now)) rfl rfl
    (noRows_valid sources) (oneRow_valid stored) (agree_oneRow (foreignRow_hidden ordinary))
  exact respond_oneRow unrestricted admitted unfiltered rfl
    (foreignRow_selected admitted unfiltered selects) same

end Foreign

/-! ### Isolation -/

section Isolation

variable {numbers : Numbers F} {session : Session} {sources : Rows SourceProfile} {now : Int}
  {request : Request} {db db' : ObservationDb}

/-- The row-level policy has the rows of the filter, or fewer. -/
theorem visible_of_policy {row : Observation} (restricted : session.rlsEnabled = true)
    (passes : session.policy row = true) : session.tenantFilter row = true := by
  unfold Session.tenantFilter
  unfold Session.policy at passes
  rw [restricted] at passes
  split
  · rfl
  · cases context : session.tenantId with
    | none => simpa [context] using passes
    | some tenantId => simpa [context, or_comm] using passes

/-- Databases that agree, with queries that select visible rows only, give one answer. -/
theorem respond_of_visible (registry : db.sources = db'.sources) (agree : Agree session db db')
    (visible : ∀ entry ∈ queried session db now request, session.tenantFilter entry.2 = true)
    (visible' : ∀ entry ∈ queried session db' now request, session.tenantFilter entry.2 = true) :
    respond numbers session db now request = respond numbers session db' now request := by
  refine respond_of_queried registry (queried_congr registry fun id row passes selected => ?_)
  constructor
  · intro stored
    have mem := mem_selectObservations.mpr ⟨stored, passes, selected⟩
    exact (agree id row (visible (id, row) mem)).mp stored
  · intro stored
    rw [condition_of_registry registry] at selected
    have mem := mem_selectObservations.mpr ⟨stored, passes, selected⟩
    exact (agree id row (visible' (id, row) mem)).mpr stored

theorem isolated_of_contained (contained : Contained session sources request) :
    Isolated numbers session sources now request := by
  intro db db' own own' valid valid' agree
  have registry := own.trans own'.symm
  rcases contained with rfl | refused | restricted | admin | empty
  · exact respond_of_visible registry agree
      (fun entry mem => (mem_selectObservations.mp mem).2.2)
      fun entry mem => (mem_selectObservations.mp mem).2.2
  · simp [respond, refused]
  · exact respond_of_visible registry agree
      (fun entry mem => visible_of_policy restricted (mem_selectObservations.mp mem).2.1)
      fun entry mem => visible_of_policy restricted (mem_selectObservations.mp mem).2.1
  · exact respond_of_visible registry agree (fun _ _ => if_pos admin) fun _ _ => if_pos admin
  · have nothing : ∀ {db : ObservationDb}, db.sources = sources → Valid db →
        ∀ entry ∈ queried session db now request, session.tenantFilter entry.2 = true := by
      intro db own valid entry mem
      obtain ⟨profile, known⟩ := valid.sources (mem_selectObservations.mp mem).1
      rw [own, empty] at known
      cases known
    exact respond_of_visible registry agree (nothing own valid) (nothing own' valid')

/-- **Isolation** of the analytics: exactly the contained requests are isolated. -/
theorem isolated_iff_contained (numbers : Numbers F) (session : Session) (sources : Rows SourceProfile)
    (now : Int) (request : Request) :
    Isolated numbers session sources now request ↔ Contained session sources request := by
  constructor
  · intro isolated
    by_contra leaky
    simp only [Contained, not_or, not_forall] at leaky
    obtain ⟨unfiltered, admitted, unrestricted, ordinary, id, present⟩ := leaky
    obtain ⟨profile, known⟩ := Option.ne_none_iff_exists'.mp present
    exact not_isolated known (Bool.not_eq_true _ ▸ unrestricted) ordinary
      (Bool.not_eq_false _ ▸ admitted) unfiltered isolated
  · exact isolated_of_contained

end Isolation

/-! ### The source of a percentile answer -/

/-- The observation is one of a source with the name. -/
def OfSource (db : ObservationDb) (source : String) (row : Observation) : Prop :=
  ∃ profile, db.sources.get row.sourceId = some profile ∧ profile.name = source

/-- The answer for a source lists observations of that source only. -/
def OnlySource (numbers : Numbers F) (session : Session) (db : ObservationDb) (source : String) :
    Prop :=
  ∀ entry ∈ getPercentile numbers session db source,
    ∃ row, db.observations.get entry.id = some row ∧ OfSource db source row

/-- The name is one of a registered source, or the newest hundred observations are of
sources that had it. -/
def SourceKnown (session : Session) (db : ObservationDb) (source : String) : Prop :=
  let observations := selectObservations session db fun _ row => row.deletedAt.isNone
  (resolveSourceIdByName db source).isSome = true ∨
    ∀ entry ∈ observations,
      (observations.filter fun other => decide (newestFirst other < newestFirst entry)).length < 100 →
      OfSource db source entry.2

section Percentile

variable {numbers : Numbers F} {session : Session} {db : ObservationDb} {source : String}

theorem getPercentile_ids (numbers : Numbers F) (session : Session) (db : ObservationDb)
    (source : String) :
    (getPercentile numbers session db source).map (·.id) =
      (percentileRows session db source).map Prod.fst := by
  have ids : ∀ (rows : List (Nat × Observation)) (start : Nat),
      (rows.zipIdx start).map (fun entry => entry.1.1) = rows.map Prod.fst := by
    intro rows start
    induction rows generalizing start with
    | nil => rfl
    | cons row rest ih => simp [List.zipIdx_cons, ih]
  simpa [getPercentile, Function.comp_def] using ids (percentileRows session db source) 0

theorem stored_of_mem_percentileRows {entry : Nat × Observation}
    (mem : entry ∈ percentileRows session db source) :
    db.observations.get entry.1 = some entry.2 := by
  have selected := mem_orderBy.mp (List.mem_of_mem_take mem)
  exact (mem_selectObservations.mp selected).1

theorem onlySource_iff :
    OnlySource numbers session db source ↔
      ∀ entry ∈ percentileRows session db source, OfSource db source entry.2 := by
  constructor
  · intro only entry mem
    have listed : entry.1 ∈ (getPercentile numbers session db source).map (·.id) := by
      rw [getPercentile_ids]
      exact List.mem_map_of_mem mem
    obtain ⟨item, mem', same⟩ := List.mem_map.mp listed
    obtain ⟨row, stored, own⟩ := only item mem'
    rw [same, stored_of_mem_percentileRows mem] at stored
    exact Option.some.inj stored ▸ own
  · intro own item mem
    have listed : item.id ∈ (percentileRows session db source).map Prod.fst := by
      have ids := getPercentile_ids numbers session db source
      exact ids ▸ List.mem_map_of_mem mem
    obtain ⟨entry, mem', same⟩ := List.mem_map.mp listed
    exact ⟨entry.2, same ▸ stored_of_mem_percentileRows mem', own entry mem'⟩

/-- The observations of a resolved name are those of the source. -/
theorem ofSource_of_resolved {sourceId : Nat}
    (resolved : resolveSourceIdByName db source = some sourceId) {row : Observation}
    (own : row.sourceId = sourceId) : OfSource db source row := by
  obtain ⟨⟨id, profile⟩, found, rfl⟩ := Option.map_eq_some_iff.mp resolved
  have stored := Rows.mem_toList.mp (List.mem_of_find?_eq_some found)
  have named := List.find?_some found
  simp only [Bool.and_eq_true, beq_iff_eq] at named
  exact ⟨profile, own ▸ stored, named.1⟩

/-- **A percentile answer** lists the observations of its source only, exactly when the
source is known. -/
theorem onlySource_iff_known :
    OnlySource numbers session db source ↔ SourceKnown session db source := by
  rw [onlySource_iff]
  unfold SourceKnown
  cases resolved : resolveSourceIdByName db source with
  | some sourceId =>
    refine iff_of_true (fun entry mem => ?_) (Or.inl rfl)
    have selected := mem_selectObservations.mp (mem_orderBy.mp (List.mem_of_mem_take mem))
    simp only [resolved, Bool.and_eq_true, Option.all_some, beq_iff_eq] at selected
    exact ofSource_of_resolved resolved selected.2.2.2
  | none =>
    have distinct := selectObservations_distinct session db (fun _ row => row.deletedAt.isNone)
      newestFirst (fun key => (ofLex (OrderDual.ofDual key)).2) fun _ => rfl
    simp only [percentileRows, resolved, Option.all_none, Bool.and_true, Option.isSome_none,
      Bool.false_eq_true, false_or, mem_take_orderBy distinct, and_imp]

end Percentile

/-! ### The analytics -/

/-- **Tenant isolation of the analytics**: exactly the contained requests are isolated, two
databases whose queries select visible rows only give one answer to every request, and a
percentile answer is about its source exactly when the source is known. -/
theorem analytics_isolated_iff (numbers : Numbers F) (session : Session) (now : Int) :
    (∀ sources request,
      Isolated numbers session sources now request ↔ Contained session sources request) ∧
    (∀ db db' : ObservationDb, ∀ request, db.sources = db'.sources → Agree session db db' →
      (∀ entry ∈ queried session db now request, session.tenantFilter entry.2 = true) →
      (∀ entry ∈ queried session db' now request, session.tenantFilter entry.2 = true) →
      respond numbers session db now request = respond numbers session db' now request) ∧
    ∀ db source, OnlySource numbers session db source ↔ SourceKnown session db source :=
  ⟨fun sources request => isolated_iff_contained numbers session sources now request,
    fun _ _ _ registry agree visible visible' => respond_of_visible registry agree visible visible',
    fun _ _ => onlySource_iff_known⟩

/-! ### One row of another tenant -/

/-- Exact arithmetic on the numbers that are no literals. -/
def rationals : Numbers Rat where
  float
    | .bool value => some (if value then 1 else 0)
    | _ => none
  average values := values.sum / values.length
  minimum values := (values.min?).getD 0
  maximum values := (values.max?).getD 0
  percentage part whole := part / whole * 100
  share part whole := part / whole
  zero := 0
  equal a b := decide (a = b)
  less _ _ := none

def weather : SourceProfile :=
  { id := 1, name := "weather", baseUrl := "https://api.weather.io/", tenantId := some 2 }

def caller : Session := { tenantId := some 1, userRole := some "user" }

theorem caller_ordinary : caller.userRole ≠ some "admin" := by decide

/-- A caller of tenant 1 sees that tenant 2 has an observation, under any source name. -/
theorem foreign_row_counted :
    ¬ Isolated rationals caller (Rows.single 1 weather) 0 (.summary 24) ∧
      ¬ Isolated rationals caller (Rows.single 1 weather) 0 (.percentile "weather") ∧
      ¬ Isolated rationals caller (Rows.single 1 weather) 0 (.topBySource 5 168) ∧
      ¬ Isolated rationals caller (Rows.single 1 weather) 0 (.materializedViewStats 24) ∧
      ¬ Isolated rationals caller (Rows.single 1 weather) 0 (.timeseries 30) ∧
      ¬ OnlySource rationals caller (oneRow (Rows.single 1 weather) (foreignRow caller 1 0))
          "traffic" := by
  have leaks : ∀ request : Request, request.admitted = true → request ≠ .tenantStatus →
      ¬ Isolated rationals caller (Rows.single 1 weather) 0 request := fun request =>
    not_isolated (Rows.get_single 1 weather) rfl caller_ordinary
  refine ⟨leaks _ rfl nofun, leaks _ rfl nofun, leaks _ rfl nofun, leaks _ rfl nofun,
    leaks _ rfl nofun, fun only => ?_⟩
  obtain ⟨profile, stored, named⟩ := onlySource_iff.mp only (1, foreignRow caller 1 0) (by decide)
  cases (Rows.get_single 1 weather).symm.trans stored
  exact absurd named (by decide)

end ApiObservatory.Analytics
