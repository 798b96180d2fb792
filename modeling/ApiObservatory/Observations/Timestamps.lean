import ApiObservatory.Repositories.Observations
import ApiObservatory.Health.Reconcile

/-
Timestamps of requests: the validators of `ObservationRequest` and `UpdateObservationRequest`
(`services/ingestor/api_schemas/observations.py`) and the sample of `record_health_sample`
(`services/ingestor/incident_lifecycle.py`).

All of them store the wall clock of a timestamp and drop its offset. What is stored is the instant
only when the offset is zero. How a text is parsed is a parameter.
-/

namespace ApiObservatory

/-- A timestamp as a caller gives it. -/
inductive GivenTimestamp where
  | datetime (value : Datetime)
  | text (isoText : String)
deriving DecidableEq

inductive TimestampError where
  | parsing
  | value (text : String)
deriving DecidableEq

/-- `v.replace(tzinfo=None)` for a timezone-aware value. -/
def Datetime.naive (value : Datetime) : Datetime :=
  if value.utcOffset.isSome then ⟨value.withoutTzinfo, none⟩ else value

/-- `normalize_timestamp`, before the parsing. -/
def normalizeTimestamp : GivenTimestamp → GivenTimestamp
  | .datetime value => .datetime value.naive
  | .text isoText => .text isoText

/-- `not_in_future`, after the parsing. -/
def notInFuture (now : Int) (value : Datetime) : Except TimestampError Datetime :=
  let value := value.naive
  if now < value.wall then .error (.value "timestamp cannot be in the future") else .ok value

section Validation

variable (parse : String → Option Datetime) (now : Int)

/-- The `datetime` a given timestamp stands for. -/
def GivenTimestamp.read : GivenTimestamp → Option Datetime
  | .datetime value => some value
  | .text isoText => parse isoText

/-- The field with both validators. -/
def timestampField (given : GivenTimestamp) : Except TimestampError Int :=
  match (normalizeTimestamp given).read parse with
  | none => .error .parsing
  | some value => (notInFuture now value).map Datetime.wall

/-- `timestamp` of an `ObservationRequest`; the default is not validated. -/
def ObservationRequest.timestampField : Option GivenTimestamp → Except TimestampError Int
  | none => .ok now
  | some given => ApiObservatory.timestampField parse now given

/-- `timestamp` of an `UpdateObservationRequest`. -/
def UpdateObservationRequest.timestampField :
    Option GivenTimestamp → Except TimestampError (Option Int)
  | none => .ok none
  | some given => (ApiObservatory.timestampField parse now given).map some

end Validation

/-! ### What is stored -/

variable {parse : String → Option Datetime} {now : Int}

/-- A timezone-aware timestamp is judged and stored by its wall clock. -/
theorem timestampField_aware {given : GivenTimestamp} {value : Datetime}
    (read : given.read parse = some value) (aware : value.utcOffset.isSome = true) :
    timestampField parse now given =
      if now < value.wall then .error (.value "timestamp cannot be in the future")
      else .ok value.wall := by
  have judged : (notInFuture now value.naive).map Datetime.wall =
      if now < value.wall then .error (.value "timestamp cannot be in the future")
      else .ok value.wall := by
    simp only [notInFuture, Datetime.naive, aware, if_true, Option.isSome_none,
      Bool.false_eq_true, if_false, Datetime.withoutTzinfo]
    split <;> rfl
  cases given with
  | datetime given =>
    cases read
    rw [← judged]
    rfl
  | text isoText =>
    rw [← judged, timestampField, normalizeTimestamp, read]
    simp [notInFuture, Datetime.naive, aware]

/-- What is stored of a given timestamp is its instant, and it is refused when that is in the future. -/
structure InstantKept (parse : String → Option Datetime) (now : Int) (given : GivenTimestamp)
    (value : Datetime) : Prop where
  created : ∀ (request : ObservationRequest) (tenantId : Option Int) (createdAt : Int) (sourceId : Nat),
    ObservationRequest.timestampField parse now (some given) = .ok request.timestamp →
    (request.row tenantId createdAt sourceId).timestamp = value.instant
  updated : ∀ (db : ObservationDb) (request : UpdateObservationRequest) (row changed : Observation),
    UpdateObservationRequest.timestampField parse now (some given) = .ok request.timestamp →
    request.apply db row = .ok changed → changed.timestamp = value.instant
  refused : (∃ error, ObservationRequest.timestampField parse now (some given) = .error error) ↔
    now < value.instant
  updateRefused :
    (∃ error, UpdateObservationRequest.timestampField parse now (some given) = .error error) ↔
      now < value.instant

/-- Two given timestamps are one for the schemas when their instants are, and are stored in the order
of their instants. -/
structure OrderKept (parse : String → Option Datetime) (now : Int) (given given' : GivenTimestamp)
    (value value' : Datetime) : Prop where
  same : value.instant = value'.instant →
    ObservationRequest.timestampField parse now (some given) =
        ObservationRequest.timestampField parse now (some given') ∧
      UpdateObservationRequest.timestampField parse now (some given) =
        UpdateObservationRequest.timestampField parse now (some given')
  ordered : ∀ timestamp timestamp',
    ObservationRequest.timestampField parse now (some given) = .ok timestamp →
    ObservationRequest.timestampField parse now (some given') = .ok timestamp' →
    (timestamp < timestamp' ↔ value.instant < value'.instant)
  updateOrdered : ∀ timestamp timestamp',
    UpdateObservationRequest.timestampField parse now (some given) = .ok (some timestamp) →
    UpdateObservationRequest.timestampField parse now (some given') = .ok (some timestamp') →
    (timestamp < timestamp' ↔ value.instant < value'.instant)

/-- The offset is zero, or the wall clock and the instant are both in the future. -/
def Datetime.KeptAt (now : Int) (value : Datetime) : Prop :=
  value.utcOffset = some 0 ∨ now < value.wall ∧ now < value.instant

section Fields

variable {given given' : GivenTimestamp} {value value' : Datetime}

theorem instant_of_aware {offset : Int} (aware : value.utcOffset = some offset) :
    value.instant = value.wall - offset := by
  rw [Datetime.instant, aware, Option.getD_some]

/-- A timestamp that is kept is judged and stored by its instant. -/
theorem timestampField_kept (read : given.read parse = some value)
    (aware : value.utcOffset.isSome = true) (kept : value.KeptAt now) :
    timestampField parse now given =
      if now < value.instant then .error (.value "timestamp cannot be in the future")
      else .ok value.instant := by
  rw [timestampField_aware read aware]
  rcases kept with zero | ⟨wall, instant⟩
  · rw [instant_of_aware zero, sub_zero]
  · rw [if_pos wall, if_pos instant]

theorem instantKept_of_keptAt (read : given.read parse = some value)
    (aware : value.utcOffset.isSome = true) (kept : value.KeptAt now) :
    InstantKept parse now given value := by
  have field := timestampField_kept read aware kept
  refine ⟨?_, ?_, ?_, ?_⟩
  · intro request tenantId createdAt sourceId accepted
    rw [ObservationRequest.timestampField, field] at accepted
    split at accepted
    · cases accepted
    · exact (Except.ok.inj accepted).symm
  · intro db request row changed accepted applied
    rw [UpdateObservationRequest.timestampField, field] at accepted
    obtain ⟨sourceId, -, rfl⟩ := ok_of_map applied
    split at accepted
    · cases accepted
    · rw [← Except.ok.inj accepted, Option.getD_some]
  · rw [ObservationRequest.timestampField, field]
    split <;> simp [*]
  · rw [UpdateObservationRequest.timestampField, field]
    split <;> simp [*, Except.map]

/-- A timestamp that is not kept is stored as another instant or judged as one. -/
theorem keptAt_of_instantKept (read : given.read parse = some value) {offset : Int}
    (aware : value.utcOffset = some offset) (kept : InstantKept parse now given value) :
    value.KeptAt now := by
  have field := @timestampField_aware parse now given value read (by rw [aware]; rfl)
  by_cases future : now < value.wall
  · rw [if_pos future] at field
    exact .inr ⟨future, kept.refused.mp ⟨_, field⟩⟩
  · rw [if_neg future] at field
    have stored := kept.created ⟨"", value.wall, .null, []⟩ none 0 0 field
    rw [instant_of_aware aware] at stored
    have zero : offset = 0 := by
      change value.wall = value.wall - offset at stored
      omega
    exact .inl (zero ▸ aware)

theorem orderKept_of_keptAt (read : given.read parse = some value)
    (read' : given'.read parse = some value') (aware : value.utcOffset.isSome = true)
    (aware' : value'.utcOffset.isSome = true) (kept : value.KeptAt now) (kept' : value'.KeptAt now) :
    OrderKept parse now given given' value value' := by
  have field := timestampField_kept read aware kept
  have field' := timestampField_kept read' aware' kept'
  have ordered : ∀ timestamp timestamp', timestampField parse now given = .ok timestamp →
      timestampField parse now given' = .ok timestamp' →
      (timestamp < timestamp' ↔ value.instant < value'.instant) := by
    intro timestamp timestamp' accepted accepted'
    rw [field] at accepted
    rw [field'] at accepted'
    split at accepted
    · cases accepted
    split at accepted'
    · cases accepted'
    cases accepted
    cases accepted'
    exact Iff.rfl
  refine ⟨?_, ordered, ?_⟩
  · intro same
    have fields : timestampField parse now given = timestampField parse now given' := by
      rw [field, field', same]
    exact ⟨fields, congrArg (Except.map some) fields⟩
  · intro timestamp timestamp' accepted accepted'
    obtain ⟨_, first, is⟩ := ok_of_map accepted
    obtain ⟨_, second, is'⟩ := ok_of_map accepted'
    cases is
    cases is'
    exact ordered timestamp timestamp' first second

end Fields

/-- **Timestamps keep their instant** in the two schemas exactly when each offset is zero or the
timestamp is in the future by its wall clock and by its instant, and in a health sample exactly when
the offset is zero. -/
theorem timestamps_keep_instant_iff (now : Int) {given given' : GivenTimestamp}
    {value value' : Datetime} {offset offset' : Int} (read : given.read parse = some value)
    (read' : given'.read parse = some value') (aware : value.utcOffset = some offset)
    (aware' : value'.utcOffset = some offset') :
    (InstantKept parse now given value ∧ InstantKept parse now given' value' ∧
        OrderKept parse now given given' value value' ↔ value.KeptAt now ∧ value'.KeptAt now) ∧
      ∀ (source : SourceProfile) (payload : Health.HealthSampleCreate), payload.sampledAt = value →
        ((Health.newSample source payload).sampledAt = value.instant ↔ offset = 0) := by
  have some_offset : value.utcOffset.isSome = true := by rw [aware]; rfl
  have some_offset' : value'.utcOffset.isSome = true := by rw [aware']; rfl
  refine ⟨⟨?_, ?_⟩, ?_⟩
  · rintro ⟨kept, kept', -⟩
    exact ⟨keptAt_of_instantKept read aware kept, keptAt_of_instantKept read' aware' kept'⟩
  · rintro ⟨kept, kept'⟩
    exact ⟨instantKept_of_keptAt read some_offset kept, instantKept_of_keptAt read' some_offset' kept',
      orderKept_of_keptAt read read' some_offset some_offset' kept kept'⟩
  · rintro source payload rfl
    rw [instant_of_aware aware]
    change payload.sampledAt.wall = payload.sampledAt.wall - offset ↔ offset = 0
    omega

/-- A parser of the one text of the tests. -/
def parseTen (isoText : String) : Option Datetime :=
  if isoText = "2024-01-15T10:00:00Z" then some ⟨1705312800000000, some 0⟩ else none

theorem timestamps_keep_instant_iff_utc :
    InstantKept parseTen 1705316400000000 (.text "2024-01-15T10:00:00Z") ⟨1705312800000000, some 0⟩ :=
  ((@timestamps_keep_instant_iff parseTen 1705316400000000 (.text "2024-01-15T10:00:00Z")
    (.datetime ⟨0, some 0⟩) _ _ _ _ rfl rfl rfl rfl).1.mpr ⟨.inl rfl, .inl rfl⟩).1

/-- `2024-01-15T10:00:00+02:00`, which is eight o'clock, is stored as ten o'clock. -/
theorem offset_dropped :
    ¬ InstantKept parseTen 1705316400000000 (.datetime ⟨1705312800000000, some 7200000000⟩)
      ⟨1705312800000000, some 7200000000⟩ := by
  intro kept
  have stored := kept.created ⟨"", 1705312800000000, .null, []⟩ none 0 0 rfl
  exact absurd stored (by decide)

end ApiObservatory
