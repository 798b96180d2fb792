import ApiObservatory.Repositories.SourceRegistry
import ApiObservatory.Repositories.UrlValidation
import ApiObservatory.Sources.Routes
import Mathlib.Logic.Function.Basic

/-
`PATCH /sources/{source_id}` with all columns of a source profile: the schema
`SourceProfileUpdate`, the `setattr` loop of `update_source_profile` and the column constraints
(`services/ingestor/models/sources.py`).

The schema takes more than the columns do. What the columns refuse is no answer of the route: the
flush raises and the request ends with a server error.
-/

namespace ApiObservatory.SourcePatch

open Foundation

/-- The columns of `source_profiles` besides the key. -/
inductive Column where
  | name | baseUrl | healthCheckPath | probeIntervalSeconds | isActive | tenantId
  | latencyThresholdMs | incidentFailureThreshold | incidentCooldownSeconds
  | authType | apiKey | authHeaderName | authUsername | createdAt | updatedAt | deletedAt
deriving DecidableEq

def Column.all : List Column :=
  [.name, .baseUrl, .healthCheckPath, .probeIntervalSeconds, .isActive, .tenantId,
    .latencyThresholdMs, .incidentFailureThreshold, .incidentCooldownSeconds, .authType, .apiKey,
    .authHeaderName, .authUsername, .createdAt, .updatedAt, .deletedAt]

theorem Column.mem_all (column : Column) : column ∈ all := by
  cases column <;> decide

instance {p : Column → Prop} [DecidablePred p] : Decidable (∀ column, p column) :=
  decidable_of_iff (∀ column ∈ Column.all, p column)
    ⟨fun holds column => holds column column.mem_all, fun holds column _ => holds column⟩

/-- A float; JSON bodies are read with the names of the infinities. -/
inductive PyFloat where
  | finite (value : Rat)
  | infinity
  | negativeInfinity
  | nan
deriving DecidableEq

/-- `value > 0`. -/
def PyFloat.isPositive : PyFloat → Bool
  | .finite value => decide (0 < value)
  | .infinity => true
  | .negativeInfinity | .nan => false

/-- A value of an attribute. -/
inductive Value where
  | null
  | text (value : String)
  | url (value : AnyHttpUrl)
  | integer (value : Int)
  | boolean (value : Bool)
  | float (value : PyFloat)
  | datetime (value : Int)
deriving DecidableEq

/-! ### The columns -/

inductive SqlType where
  | string (maxLength : Nat)
  | integer
  | boolean
  | float
  | datetime
deriving DecidableEq

namespace Column

def sqlType : Column → SqlType
  | .name => .string 255
  | .baseUrl => .string 2048
  | .healthCheckPath => .string 255
  | .probeIntervalSeconds => .integer
  | .isActive => .boolean
  | .tenantId => .integer
  | .latencyThresholdMs => .float
  | .incidentFailureThreshold => .integer
  | .incidentCooldownSeconds => .integer
  | .authType => .string 16
  | .apiKey => .string 2048
  | .authHeaderName => .string 128
  | .authUsername => .string 255
  | .createdAt => .datetime
  | .updatedAt => .datetime
  | .deletedAt => .datetime

def nullable : Column → Bool
  | .tenantId | .latencyThresholdMs | .apiKey | .authUsername | .updatedAt | .deletedAt => true
  | _ => false

end Column

def integerMax : Int := 2147483647

/-- A value that a column of the type can hold; text has no zero character. -/
def SqlType.fits : SqlType → Value → Bool
  | .string maxLength, .text value => decide (value.length ≤ maxLength ∧ Char.ofNat 0 ∉ value.toList)
  | .integer, .integer value => decide (-integerMax - 1 ≤ value ∧ value ≤ integerMax)
  | .boolean, .boolean _ => true
  | .float, .float _ => true
  | .datetime, .datetime _ => true
  | _, _ => false

/-- A column can hold a value. -/
def Column.Holds (column : Column) (value : Value) : Prop :=
  (value ≠ .null → column.sqlType.fits value = true) ∧ (value = .null → column.nullable = true)

instance (column : Column) (value : Value) : Decidable (column.Holds value) :=
  inferInstanceAs (Decidable (_ ∧ _))

/-- A row of the table: its columns hold their values. -/
structure StoredRow where
  value : Column → Value
  holds : ∀ column : Column, column.Holds (value column)

/-- The flush of a row: first its values are bound, then the constraints are checked. -/
def flush (value : Column → Value) : Except DbError StoredRow :=
  if fits : ∀ column : Column, value column ≠ .null → column.sqlType.fits (value column) = true then
    if present : ∀ column : Column, value column = .null → column.nullable = true then
      .ok ⟨value, fun column => ⟨fits column, present column⟩⟩
    else .error .integrityError
  else .error .statementError

/-! ### The request -/

/-- `SourceProfileUpdate`: an unset field is `none`, a field sent as null is `some none`. -/
structure SourceProfileUpdate where
  baseUrl : Option (Option AnyHttpUrl) := none
  healthCheckPath : Option (Option String) := none
  probeIntervalSeconds : Option (Option Int) := none
  isActive : Option (Option Bool) := none
  latencyThresholdMs : Option (Option PyFloat) := none
  incidentFailureThreshold : Option (Option Int) := none
  incidentCooldownSeconds : Option (Option Int) := none
  authType : Option (Option String) := none
  apiKey : Option (Option String) := none
  authHeaderName : Option (Option String) := none
  authUsername : Option (Option String) := none
deriving DecidableEq

namespace SourceProfileUpdate

variable (patch : SourceProfileUpdate)

/-- The field constraints; null passes each of them. -/
def valid : Bool :=
  patch.baseUrl.join.all validBaseUrl && patch.healthCheckPath.join.all validHealthCheckPath &&
  patch.probeIntervalSeconds.join.all validProbeInterval &&
  patch.latencyThresholdMs.join.all PyFloat.isPositive &&
  patch.incidentFailureThreshold.join.all (fun threshold => decide (1 ≤ threshold ∧ threshold ≤ 20)) &&
  patch.incidentCooldownSeconds.join.all validCooldown &&
  patch.apiKey.join.all (fun key => decide (key.length ≤ 2048)) &&
  patch.authHeaderName.join.all (fun header => decide (header.length ≤ 128)) &&
  patch.authUsername.join.all (fun username => decide (username.length ≤ 255))

/-- The item of a field, if it is set. -/
def item {α : Type} (column : Column) (write : α → Value) : Option (Option α) → List (Column × Value)
  | none => []
  | some value => [(column, value.elim .null write)]

/-- `model_dump(exclude_unset=True)`: a URL stays one. -/
def modelDump : List (Column × Value) :=
  item .baseUrl .url patch.baseUrl ++ item .healthCheckPath .text patch.healthCheckPath ++
  item .probeIntervalSeconds .integer patch.probeIntervalSeconds ++
  item .isActive .boolean patch.isActive ++ item .latencyThresholdMs .float patch.latencyThresholdMs ++
  item .incidentFailureThreshold .integer patch.incidentFailureThreshold ++
  item .incidentCooldownSeconds .integer patch.incidentCooldownSeconds ++
  item .authType .text patch.authType ++ item .apiKey .text patch.apiKey ++
  item .authHeaderName .text patch.authHeaderName ++ item .authUsername .text patch.authUsername

end SourceProfileUpdate

/-- The `setattr` loop. -/
def setattrs (updateData : List (Column × Value)) (value : Column → Value) : Column → Value :=
  updateData.foldl (fun value (field, given) => Function.update value field given) value

/-- `update_source_profile`. -/
def updateSourceProfile (profile : StoredRow) (patch : SourceProfileUpdate) (now : Int) :
    Except DbError StoredRow :=
  flush (Function.update (setattrs patch.modelDump profile.value) .updatedAt (.datetime now))

/-- `get_source_profile`. -/
def getSourceProfile (sources : Rows StoredRow) (sourceId : Nat) : Option StoredRow :=
  (sources.get sourceId).filter fun profile => profile.value .deletedAt == .null

section Route

variable (unicode : UnicodeData) (settings : SsrfSettings) (getaddrinfo : Resolver)

/-- `patch_source` behind the validation of its body: the table afterwards, and the answer. -/
def patchSource (sources : Rows StoredRow) (sourceId : Nat) (patch : SourceProfileUpdate) (now : Int) :
    Rows StoredRow × Except RouteError StoredRow :=
  if patch.valid then
    match getSourceProfile sources sourceId with
    | none => (sources, .error Sources.sourceNotFound)
    | some profile =>
        match patch.baseUrl.join.map fun url =>
            validateSourceBaseUrl unicode settings getaddrinfo url.text with
        | some (.error detail) => (sources, .error (.httpException 422 detail))
        | _ =>
            match updateSourceProfile profile patch now with
            | .error error => (sources, .error (.database error))
            | .ok updated => (sources.modify sourceId fun _ => updated, .ok updated)
  else (sources, .error .requestValidation)

end Route

/-! ### The loop -/

theorem setattrs_of_not_mem {updateData : List (Column × Value)} {column : Column}
    (absent : column ∉ updateData.map Prod.fst) (value : Column → Value) :
    setattrs updateData value column = value column := by
  induction updateData generalizing value with
  | nil => rfl
  | cons item rest ih =>
    rw [List.map_cons, List.mem_cons, not_or] at absent
    rw [setattrs, List.foldl_cons]
    exact (ih absent.2 _).trans (Function.update_of_ne absent.1 _ _)

theorem setattrs_of_mem {updateData : List (Column × Value)}
    (distinct : (updateData.map Prod.fst).Nodup) {column : Column} {given : Value}
    (mem : (column, given) ∈ updateData) (value : Column → Value) :
    setattrs updateData value column = given := by
  induction updateData generalizing value with
  | nil => cases mem
  | cons item rest ih =>
    rw [List.map_cons, List.nodup_cons] at distinct
    rw [setattrs, List.foldl_cons]
    rcases List.mem_cons.mp mem with rfl | later
    · exact (setattrs_of_not_mem distinct.1 _).trans (Function.update_self _ _ _)
    · exact ih distinct.2 later _

theorem item_sublist {α : Type} (column : Column) (write : α → Value) (field : Option (Option α)) :
    ((SourceProfileUpdate.item column write field).map Prod.fst).Sublist [column] := by
  cases field with
  | none => exact List.nil_sublist _
  | some value => exact .refl _

/-- The fields of a body, in the order of the schema. -/
def fields : List Column :=
  [Column.baseUrl] ++ [Column.healthCheckPath] ++ [Column.probeIntervalSeconds] ++
  [Column.isActive] ++ [Column.latencyThresholdMs] ++ [Column.incidentFailureThreshold] ++
  [Column.incidentCooldownSeconds] ++ [Column.authType] ++ [Column.apiKey] ++
  [Column.authHeaderName] ++ [Column.authUsername]

theorem modelDump_sublist (patch : SourceProfileUpdate) :
    (patch.modelDump.map Prod.fst).Sublist fields := by
  simp only [SourceProfileUpdate.modelDump, List.map_append, fields]
  iterate 10 refine List.Sublist.append ?_ (item_sublist _ _ _)
  exact item_sublist _ _ _

theorem modelDump_nodup (patch : SourceProfileUpdate) : (patch.modelDump.map Prod.fst).Nodup :=
  (modelDump_sublist patch).nodup (by decide)

theorem updatedAt_not_mem (patch : SourceProfileUpdate) :
    Column.updatedAt ∉ patch.modelDump.map Prod.fst :=
  fun mem => absurd ((modelDump_sublist patch).subset mem) (by decide)

/-! ### The flush -/

/-- A flush goes through exactly when every column can hold its value, and changes none. -/
theorem flush_eq_ok {value : Column → Value} {row : StoredRow} :
    flush value = .ok row ↔ row.value = value := by
  unfold flush
  constructor
  · intro done
    split at done
    · split at done
      · cases done
        rfl
      · cases done
    · cases done
  · rintro rfl
    rw [dif_pos fun column => (row.holds column).1, dif_pos fun column => (row.holds column).2]

/-- The columns of a patched profile hold their values when the fields of the patch fit. -/
theorem holds_patched (profile : StoredRow) {patch : SourceProfileUpdate} (now : Int)
    (fit : ∀ entry ∈ patch.modelDump, entry.1.Holds entry.2) (column : Column) :
    column.Holds (Function.update (setattrs patch.modelDump profile.value) .updatedAt (.datetime now)
      column) := by
  by_cases stamp : column = .updatedAt
  · rw [stamp, Function.update_self]
    exact ⟨fun _ => rfl, nofun⟩
  rw [Function.update_of_ne stamp]
  by_cases sent : column ∈ patch.modelDump.map Prod.fst
  · obtain ⟨⟨_, given⟩, mem, rfl⟩ := List.mem_map.mp sent
    rw [setattrs_of_mem (modelDump_nodup patch) mem]
    exact fit _ mem
  · rw [setattrs_of_not_mem sent]
    exact profile.holds column

/-- What a stored profile is after its update. -/
structure Updated (patch : SourceProfileUpdate) (now : Int) (profile updated : StoredRow) : Prop where
  sent : ∀ entry ∈ patch.modelDump, updated.value entry.1 = entry.2
  unsent : ∀ column ∉ patch.modelDump.map Prod.fst, column ≠ .updatedAt →
    updated.value column = profile.value column
  renewed : updated.value .updatedAt = .datetime now

theorem updated_of_value {patch : SourceProfileUpdate} {now : Int} {profile updated : StoredRow}
    (is : updated.value =
      Function.update (setattrs patch.modelDump profile.value) .updatedAt (.datetime now)) :
    Updated patch now profile updated := by
  refine ⟨?_, ?_, ?_⟩
  · intro entry mem
    have other : entry.1 ≠ .updatedAt := fun stamp =>
      updatedAt_not_mem patch (stamp ▸ List.mem_map_of_mem mem)
    rw [is, Function.update_of_ne other]
    exact setattrs_of_mem (modelDump_nodup patch) mem _
  · intro column absent other
    rw [is, Function.update_of_ne other]
    exact setattrs_of_not_mem absent _
  · rw [is, Function.update_self]

/-- **An update** goes through exactly when each field sent fits its column. -/
theorem updateSourceProfile_ok {profile : StoredRow} {patch : SourceProfileUpdate} {now : Int} :
    (∃ updated, updateSourceProfile profile patch now = .ok updated) ↔
      ∀ entry ∈ patch.modelDump, entry.1.Holds entry.2 := by
  constructor
  · rintro ⟨updated, done⟩ entry mem
    have sent := (updated_of_value (flush_eq_ok.mp done)).sent entry mem
    rw [← sent]
    exact updated.holds entry.1
  · intro fit
    exact ⟨⟨_, holds_patched profile now fit⟩, flush_eq_ok.mpr rfl⟩

/-! ### What the route answers -/

/-- The value that a column should get: a URL as its text. -/
def Value.stored : Value → Value
  | .url value => .text value.text
  | value => value

/-- **All or nothing**: the row has the values sent and the rest as before, or the request is refused
and the table is as before. -/
inductive AppliesOrNothing (sources : Rows StoredRow) (sourceId : Nat) (profile : StoredRow)
    (patch : SourceProfileUpdate) (now : Int) : Rows StoredRow × Except RouteError StoredRow → Prop where
  | applied (updated : StoredRow)
      (sent : ∀ entry ∈ patch.modelDump, updated.value entry.1 = entry.2.stored)
      (unsent : ∀ column ∉ patch.modelDump.map Prod.fst, column ≠ .updatedAt →
        updated.value column = profile.value column)
      (renewed : updated.value .updatedAt = .datetime now)
      (present : ∀ column : Column, column.nullable = false → updated.value column ≠ .null) :
      AppliesOrNothing sources sourceId profile patch now
        (sources.modify sourceId fun _ => updated, .ok updated)
  | refused (error : RouteError) (client : error.IsClientError) :
      AppliesOrNothing sources sourceId profile patch now (sources, .error error)

theorem AppliesOrNothing.not_database {sources : Rows StoredRow} {sourceId : Nat} {profile : StoredRow}
    {patch : SourceProfileUpdate} {now : Int} {answer : Rows StoredRow × Except RouteError StoredRow}
    (law : AppliesOrNothing sources sourceId profile patch now answer) (error : DbError) :
    answer.2 ≠ .error (.database error) := by
  cases law with
  | applied updated => nofun
  | refused other client =>
    intro is
    cases is
    exact client

/-- What a body may hold for its columns. -/
structure Storable (patch : SourceProfileUpdate) : Prop where
  baseUrl : patch.baseUrl = none
  healthCheckPath : patch.healthCheckPath ≠ some none
  probeIntervalSeconds : patch.probeIntervalSeconds ≠ some none
  isActive : patch.isActive ≠ some none
  incidentFailureThreshold : patch.incidentFailureThreshold ≠ some none
  incidentCooldownSeconds : patch.incidentCooldownSeconds ≠ some none
  authType : patch.authType ≠ some none
  authHeaderName : patch.authHeaderName ≠ some none
  interval : ∀ value, patch.probeIntervalSeconds = some (some value) → value ≤ integerMax
  mode : ∀ value, patch.authType = some (some value) → value.length ≤ 16
  texts : ∀ value ∈ [patch.healthCheckPath, patch.authType, patch.apiKey, patch.authHeaderName,
    patch.authUsername], ∀ text, value = some (some text) → Char.ofNat 0 ∉ text.toList

/-- A field fits its column when it is not an unwanted null, and its value fits the type. -/
theorem item_holds_iff {α : Type} {column : Column} {write : α → Value} {field : Option (Option α)}
    (written : ∀ value, write value ≠ .null) :
    (∀ entry ∈ SourceProfileUpdate.item column write field, entry.1.Holds entry.2) ↔
      (column.nullable = false → field ≠ some none) ∧
        ∀ value, field = some (some value) → column.sqlType.fits (write value) = true := by
  cases field with
  | none => simp [SourceProfileUpdate.item]
  | some value =>
    cases value with
    | none => simp [SourceProfileUpdate.item, Column.Holds]
    | some value => simp [SourceProfileUpdate.item, Column.Holds, written]

theorem all_join_iff {α : Type} {field : Option (Option α)} {check : α → Bool} :
    field.join.all check = true ↔ ∀ value, field = some (some value) → check value = true := by
  simp [Option.all_eq_true, Option.join_eq_some_iff]

/-- **A valid body fits the columns** exactly when it is storable. -/
theorem storable_iff {patch : SourceProfileUpdate} (valid : patch.valid = true) :
    Storable patch ↔ ∀ entry ∈ patch.modelDump, entry.1.Holds entry.2 := by
  simp only [SourceProfileUpdate.valid, Bool.and_eq_true, all_join_iff] at valid
  obtain ⟨⟨⟨⟨⟨⟨⟨⟨-, path⟩, interval⟩, -⟩, threshold⟩, cooldown⟩, key⟩, header⟩, username⟩ := valid
  simp only [SourceProfileUpdate.modelDump, List.forall_mem_append]
  rw [item_holds_iff nofun, item_holds_iff nofun, item_holds_iff nofun, item_holds_iff nofun,
    item_holds_iff nofun, item_holds_iff nofun, item_holds_iff nofun, item_holds_iff nofun,
    item_holds_iff nofun, item_holds_iff nofun, item_holds_iff nofun]
  simp only [Column.nullable, Column.sqlType, SqlType.fits, forall_const, decide_eq_true_eq,
    reduceCtorEq, false_implies, implies_true, true_and, and_true]
  simp only [validHealthCheckPath, validProbeInterval, validCooldown, Bool.and_eq_true,
    decide_eq_true_eq] at path interval threshold cooldown key header username
  constructor
  · intro storable
    obtain ⟨pathText, modeText, keyText, headerText, usernameText, -⟩ : _ ∧ _ ∧ _ ∧ _ ∧ _ ∧ _ := by
      simpa only [List.forall_mem_cons] using storable.texts
    refine ⟨⟨⟨⟨⟨⟨⟨⟨⟨?_, ?_⟩, ?_⟩, storable.isActive⟩, ?_⟩, ?_⟩, ?_⟩, ?_⟩, ?_⟩, ?_⟩
    · rw [storable.baseUrl]
      exact ⟨nofun, nofun⟩
    · exact ⟨storable.healthCheckPath, fun value sent => ⟨(path value sent).1.2, pathText value sent⟩⟩
    · refine ⟨storable.probeIntervalSeconds, fun value sent => ⟨?_, storable.interval value sent⟩⟩
      have positive := interval value sent
      unfold integerMax
      omega
    · refine ⟨storable.incidentFailureThreshold, fun value sent => ?_⟩
      have bounds := threshold value sent
      unfold integerMax
      omega
    · refine ⟨storable.incidentCooldownSeconds, fun value sent => ?_⟩
      have bounds := cooldown value sent
      unfold integerMax
      omega
    · exact ⟨storable.authType, fun value sent => ⟨storable.mode value sent, modeText value sent⟩⟩
    · exact fun value sent => ⟨key value sent, keyText value sent⟩
    · exact ⟨storable.authHeaderName, fun value sent => ⟨header value sent, headerText value sent⟩⟩
    · exact fun value sent => ⟨username value sent, usernameText value sent⟩
  · rintro ⟨⟨⟨⟨⟨⟨⟨⟨⟨url, path⟩, interval⟩, isActive⟩, threshold⟩, cooldown⟩, mode⟩, key⟩, header⟩,
      username⟩
    refine ⟨?_, path.1, interval.1, isActive, threshold.1, cooldown.1, mode.1, header.1,
      fun value sent => (interval.2 value sent).2, fun value sent => (mode.2 value sent).1, ?_⟩
    · match sent : patch.baseUrl with
      | none => rfl
      | some none => exact absurd sent url.1
      | some (some value) => exact (url.2 value sent).elim
    · simp only [List.forall_mem_cons]
      exact ⟨fun value sent => (path.2 value sent).2, fun value sent => (mode.2 value sent).2,
        fun value sent => (key value sent).2, fun value sent => (header.2 value sent).2,
        fun value sent => (username value sent).2, nofun⟩

section Law

variable {unicode : UnicodeData} {settings : SsrfSettings} {getaddrinfo : Resolver}

/-- The route on a live profile, whose URL is not refused. -/
theorem patchSource_of_accepted {sources : Rows StoredRow} {sourceId : Nat} {profile : StoredRow}
    {patch : SourceProfileUpdate} {now : Int} (valid : patch.valid = true)
    (live : getSourceProfile sources sourceId = some profile)
    (accepted : ∀ url, patch.baseUrl = some (some url) →
      validateSourceBaseUrl unicode settings getaddrinfo url.text = .ok ()) :
    patchSource unicode settings getaddrinfo sources sourceId patch now =
      match updateSourceProfile profile patch now with
      | .error error => (sources, .error (.database error))
      | .ok updated => (sources.modify sourceId fun _ => updated, .ok updated) := by
  simp only [patchSource, valid, if_true, live]
  match sent : patch.baseUrl with
  | none => rfl
  | some none => rfl
  | some (some url) =>
    simp only [Option.join_some, Option.map_some, accepted url sent]

/-- **A PATCH applies exactly what was sent or nothing**, for every live profile, body and DNS answer,
exactly when the URL it sends is refused or the columns can hold what it sends. -/
theorem patch_applies_or_nothing_iff (sources : Rows StoredRow) (sourceId : Nat)
    {profile : StoredRow} {patch : SourceProfileUpdate} (now : Int)
    (live : getSourceProfile sources sourceId = some profile) (valid : patch.valid = true) :
    AppliesOrNothing sources sourceId profile patch now
        (patchSource unicode settings getaddrinfo sources sourceId patch now) ↔
      (∃ url detail, patch.baseUrl = some (some url) ∧
        validateSourceBaseUrl unicode settings getaddrinfo url.text = .error detail) ∨
      Storable patch := by
  by_cases refused : ∃ url detail, patch.baseUrl = some (some url) ∧
      validateSourceBaseUrl unicode settings getaddrinfo url.text = .error detail
  · refine iff_of_true ?_ (.inl refused)
    obtain ⟨url, detail, sent, error⟩ := refused
    simp only [patchSource, valid, if_true, live, sent, Option.join_some, Option.map_some, error]
    exact .refused _ ⟨by decide, by decide⟩
  rw [or_iff_right refused, storable_iff valid]
  have accepted : ∀ url, patch.baseUrl = some (some url) →
      validateSourceBaseUrl unicode settings getaddrinfo url.text = .ok () := by
    intro url sent
    cases outcome : validateSourceBaseUrl unicode settings getaddrinfo url.text with
    | error detail => exact absurd ⟨url, detail, sent, outcome⟩ refused
    | ok => rfl
  rw [patchSource_of_accepted valid live accepted, ← @updateSourceProfile_ok profile patch now]
  cases outcome : updateSourceProfile profile patch now with
  | error error =>
    refine iff_of_false (fun law => law.not_database error rfl) ?_
    rintro ⟨updated, done⟩
    cases done
  | ok updated =>
    refine iff_of_true ?_ ⟨updated, rfl⟩
    obtain ⟨sent, unsent, renewed⟩ := updated_of_value (flush_eq_ok.mp outcome)
    have holds := updateSourceProfile_ok.mp ⟨updated, outcome⟩
    refine .applied updated ?_ unsent renewed ?_
    · rintro ⟨column, given⟩ mem
      rw [sent _ mem]
      cases given with
      | url value =>
        have fits := (holds _ mem).1 nofun
        revert fits
        cases column <;> nofun
      | _ => rfl
    · intro column required null
      exact absurd ((updated.holds column).2 null) (by rw [required]; nofun)

end Law

/-! ### The profile of the other routes -/

/-- A row as the other routes read it. -/
structure Describes (row : StoredRow) (profile : SourceProfile) : Prop where
  baseUrl : row.value .baseUrl = .text profile.baseUrl
  healthCheckPath : row.value .healthCheckPath = .text profile.healthCheckPath
  probeIntervalSeconds : row.value .probeIntervalSeconds = .integer profile.probeIntervalSeconds
  isActive : row.value .isActive = .boolean profile.isActive
  latencyThresholdMs : row.value .latencyThresholdMs =
    profile.latencyThresholdMs.elim .null fun threshold => .float (.finite threshold)
  incidentFailureThreshold :
    row.value .incidentFailureThreshold = .integer profile.incidentFailureThreshold
  incidentCooldownSeconds :
    row.value .incidentCooldownSeconds = .integer profile.incidentCooldownSeconds
  deletedAt : row.value .deletedAt = profile.deletedAt.elim .null .datetime

/-- A body without credentials and with a finite latency. -/
def ofUpdate (patch : ApiObservatory.SourceProfileUpdate) : SourceProfileUpdate where
  baseUrl := patch.baseUrl
  healthCheckPath := patch.healthCheckPath
  probeIntervalSeconds := patch.probeIntervalSeconds
  isActive := patch.isActive
  latencyThresholdMs := patch.latencyThresholdMs.map (Option.map .finite)
  incidentFailureThreshold := patch.incidentFailureThreshold.map (Option.map Int.ofNat)
  incidentCooldownSeconds := patch.incidentCooldownSeconds

theorem setattrs_append (updateData updateData' : List (Column × Value)) (value : Column → Value) :
    setattrs (updateData ++ updateData') value = setattrs updateData' (setattrs updateData value) :=
  List.foldl_append

theorem setattrs_item {α : Type} (column : Column) (write : α → Value) (field : Option (Option α))
    (value : Column → Value) (other : Column) :
    setattrs (SourceProfileUpdate.item column write field) value other =
      if other = column then (field.map (·.elim .null write)).getD (value other) else value other := by
  cases field with
  | none => simp [setattrs, SourceProfileUpdate.item]
  | some given => simp [setattrs, SourceProfileUpdate.item, Function.update_apply]

/-- A field of a column that is not nullable goes through unless it is null. -/
theorem column_of_ne_null {α : Type} {current : α} {field : Option (Option α)}
    (present : field ≠ some none) : column current field = .ok (field.join.getD current) := by
  match field with
  | none => rfl
  | some (some value) => rfl
  | some none => exact absurd rfl present

theorem elim_of_ne_null {α : Type} {write : α → Value} {field : Option (Option α)}
    (present : field ≠ some none) (current : α) :
    (field.map (·.elim .null write)).getD (write current) = write (field.join.getD current) := by
  match field with
  | none => rfl
  | some (some value) => rfl
  | some none => exact absurd rfl present

/-- **An update of all columns** is one of the columns that the other routes read. -/
theorem updateSourceProfile_describes {row updated : StoredRow} {profile : SourceProfile}
    {patch : ApiObservatory.SourceProfileUpdate} {now : Int} (valid : (ofUpdate patch).valid = true)
    (describes : Describes row profile)
    (done : updateSourceProfile row (ofUpdate patch) now = .ok updated) :
    ∃ profile', patch.apply profile = .ok profile' ∧ Describes updated profile' := by
  have storable := (storable_iff valid).mpr (updateSourceProfile_ok.mp ⟨updated, done⟩)
  have url : patch.baseUrl = none := storable.baseUrl
  have path : patch.healthCheckPath ≠ some none := storable.healthCheckPath
  have interval : patch.probeIntervalSeconds ≠ some none := storable.probeIntervalSeconds
  have active : patch.isActive ≠ some none := storable.isActive
  have threshold : patch.incidentFailureThreshold ≠ some none := by
    intro null
    exact storable.incidentFailureThreshold (by rw [ofUpdate, null]; rfl)
  have cooldown : patch.incidentCooldownSeconds ≠ some none := storable.incidentCooldownSeconds
  have applied : patch.apply profile = .ok { profile with
      healthCheckPath := patch.healthCheckPath.join.getD profile.healthCheckPath
      probeIntervalSeconds := patch.probeIntervalSeconds.join.getD profile.probeIntervalSeconds
      isActive := patch.isActive.join.getD profile.isActive
      incidentFailureThreshold :=
        patch.incidentFailureThreshold.join.getD profile.incidentFailureThreshold
      incidentCooldownSeconds :=
        patch.incidentCooldownSeconds.join.getD profile.incidentCooldownSeconds
      latencyThresholdMs := patch.latencyThresholdMs.getD profile.latencyThresholdMs } := by
    rw [ApiObservatory.SourceProfileUpdate.apply, url, column_of_ne_null path,
      column_of_ne_null interval, column_of_ne_null active, column_of_ne_null threshold,
      column_of_ne_null cooldown]
    rfl
  refine ⟨_, applied, ?_⟩
  have value := flush_eq_ok.mp done
  simp only [SourceProfileUpdate.modelDump, setattrs_append] at value
  constructor
  all_goals
    simp only [value, Function.update_apply, setattrs_item, ofUpdate, reduceCtorEq, if_false, if_true]
  · rw [url]
    exact describes.baseUrl
  · rw [describes.healthCheckPath]
    exact elim_of_ne_null path _
  · rw [describes.probeIntervalSeconds]
    exact elim_of_ne_null interval _
  · rw [describes.isActive]
    exact elim_of_ne_null active _
  · rw [describes.latencyThresholdMs]
    cases patch.latencyThresholdMs with
    | none => rfl
    | some threshold => cases threshold <;> rfl
  · rw [describes.incidentFailureThreshold]
    match sent : patch.incidentFailureThreshold with
    | none => rfl
    | some (some value) => rfl
    | some none => exact absurd sent threshold
  · rw [describes.incidentCooldownSeconds]
    exact elim_of_ne_null cooldown _
  · exact describes.deletedAt

/-- A profile with the defaults of the columns. -/
def feed : StoredRow where
  value
    | .name => .text "feed"
    | .baseUrl => .text "https://feed.example.com/"
    | .healthCheckPath => .text "/health"
    | .probeIntervalSeconds => .integer 60
    | .isActive => .boolean true
    | .incidentFailureThreshold => .integer 2
    | .incidentCooldownSeconds => .integer 900
    | .authType => .text "none"
    | .authHeaderName => .text "Authorization"
    | .createdAt | .updatedAt => .datetime 0
    | _ => .null
  holds := by decide

def oneSource : Rows StoredRow := Rows.empty.insert feed

/-- A resolver that has one public address. -/
def publicAddress : Resolver := fun _ _ => .ok ["1.1.1.1"]

theorem patch_applies_or_nothing_iff_interval :
    AppliesOrNothing oneSource 1 feed { probeIntervalSeconds := some (some 300) } 5
      (patchSource ⟨id, id⟩ {} publicAddress oneSource 1 { probeIntervalSeconds := some (some 300) } 5) :=
  (patch_applies_or_nothing_iff oneSource 1 5 rfl rfl).mpr (.inr
    { baseUrl := rfl, healthCheckPath := nofun, probeIntervalSeconds := nofun, isActive := nofun
      incidentFailureThreshold := nofun, incidentCooldownSeconds := nofun, authType := nofun
      authHeaderName := nofun
      interval := by
        rintro _ ⟨⟩
        decide
      mode := nofun
      texts := by simp })

/-- A new base URL that is not refused ends with a server error. -/
theorem base_url_not_applied :
    ¬ AppliesOrNothing oneSource 1 feed { baseUrl := some (some ⟨"https://example.com/"⟩) } 5
      (patchSource ⟨id, id⟩ {} publicAddress oneSource 1
        { baseUrl := some (some ⟨"https://example.com/"⟩) } 5) :=
  fun law => law.not_database .statementError rfl

end ApiObservatory.SourcePatch
