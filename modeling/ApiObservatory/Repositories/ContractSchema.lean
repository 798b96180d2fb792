import ApiObservatory.Foundation.Json

/-
Flattened payload structures and their comparison
(`services/ingestor/repositories/contract_drift.py`).

A flat schema is a dictionary from paths to type unions. The source sorts what
it reads out of one, so a dictionary is modelled without its insertion order.
Penalties and scores are whole numbers, on which the floats of the source are
exact; rounding to two places leaves them alone.
-/

namespace ApiObservatory

open Foundation

abbrev FlatSchema := Std.ExtTreeMap String String

abbrev Payload := List (String × Json)

def contractCompatibilityMinScore : Int := 0

def contractCompatibilityMaxScore : Int := 100

def contractPenaltyAddedField : Int := 2

def contractPenaltyRemovedField : Int := 20

def contractPenaltyTypeChange : Int := 15

def contractBaselineConfirmationPolls : Nat := 3

/-- `_ARRAY_INSPECTION_LIMIT`. -/
def arrayInspectionLimit : Nat := 20

/-! ### Flattening -/

/-- `_value_type`. -/
def valueType : Json → String
  | .null => "null"
  | .bool _ => "boolean"
  | .number _ => "number"
  | .string _ => "string"
  | .array _ => "array"
  | .object _ => "object"

/-- `text.split(_TYPE_UNION_SEPARATOR)`. -/
def unionTypes (text : String) : List String :=
  (text.toList.splitOn '|').map String.ofList

/-- `_merge_value_types`. -/
def mergeValueTypes (existing observed : String) : String :=
  "|".intercalate ((unionTypes existing ++ unionTypes observed).dedup.insertionSort (· ≤ ·))

/-- The loop body of `_merge_flat_schema`. -/
def mergeEntry (target : FlatSchema) (entry : String × String) : FlatSchema :=
  match target[entry.1]? with
  | none => target.insert entry.1 entry.2
  | some existing =>
      if existing = "" then target.insert entry.1 entry.2
      else target.insert entry.1 (mergeValueTypes existing entry.2)

/-- `_merge_flat_schema`. -/
def mergeFlatSchema (target observed : FlatSchema) : FlatSchema :=
  observed.toList.foldl mergeEntry target

mutual

/-- `_flatten_value`. -/
def flattenValue : Json → String → FlatSchema
  | .object fields, path =>
      flattenFields fields path ((∅ : FlatSchema).insert path (valueType (.object fields)))
  | .array elements, path =>
      flattenElements elements arrayInspectionLimit (path ++ "[]")
        ((∅ : FlatSchema).insert path (valueType (.array elements)))
  | value, path => (∅ : FlatSchema).insert path (valueType value)

/-- The loop over the items of an object. -/
def flattenFields : List (String × Json) → String → FlatSchema → FlatSchema
  | [], _, flat => flat
  | (key, child) :: rest, path, flat =>
      flattenFields rest path (mergeFlatSchema flat (flattenValue child (path ++ "." ++ key)))

/-- The loop over the first `n` elements of an array. -/
def flattenElements : List Json → Nat → String → FlatSchema → FlatSchema
  | [], _, _, flat => flat
  | _ :: _, 0, _, flat => flat
  | element :: rest, n + 1, path, flat =>
      flattenElements rest n path (mergeFlatSchema flat (flattenValue element path))

end

/-- `_flatten_schema`. -/
def flattenSchema (payload : Payload) (pathPrefix : String) : FlatSchema :=
  payload.foldl (fun flat item =>
    let path := if pathPrefix = "" then item.1 else pathPrefix ++ "." ++ item.1
    mergeFlatSchema flat (flattenValue item.2 path)) ∅

/-! ### Fingerprints -/

/-- `_fingerprint`. -/
def payloadFingerprint (sha256 : String → String) (payload : Payload) : String :=
  sha256 (String.ofList (dumpsJson (.object payload)))

/-- `_structure_fingerprint`. -/
def structureFingerprint (sha256 : String → String) (flat : FlatSchema) : String :=
  sha256 (dumpsDict flat)

/-- Without collisions the fingerprint determines the structure. -/
theorem structureFingerprint_inj {sha256 : String → String}
    (collisionFree : Function.Injective sha256) {flat other : FlatSchema} :
    structureFingerprint sha256 flat = structureFingerprint sha256 other ↔ flat = other := by
  constructor
  · intro same
    exact dumpsDict_injective (collisionFree same)
  · rintro rfl
    rfl

/-! ### Comparison -/

structure DriftTypeChange where
  fromType : String
  toType : String
deriving DecidableEq

/-- The three results of `_diff_contract`. -/
structure ContractDiff where
  addedFields : List String
  removedFields : List String
  typeChangedFields : List (String × DriftTypeChange)
deriving DecidableEq

/-- `text.startswith(start)`. -/
def startsWith (text start : String) : Bool := start.toList.isPrefixOf text.toList

/-- `_is_below_inconclusive_array`. -/
def isBelowInconclusiveArray (path : String) (flat : FlatSchema) : Bool :=
  flat.toList.any fun entry =>
    (unionTypes entry.2).contains "array" &&
      !(flat.keys.any fun candidate => startsWith candidate (entry.1 ++ "[]")) &&
      startsWith path (entry.1 ++ "[]")

/-- The entry of `type_changed` for a path in both structures. -/
def typeChange (previous current : FlatSchema) (path : String) :
    Option (String × DriftTypeChange) :=
  match previous[path]?, current[path]? with
  | some fromType, some toType =>
      if fromType ≠ toType then some (path, ⟨fromType, toType⟩) else none
  | _, _ => none

/-- `_diff_contract`. The keys of a flat schema come sorted. -/
def diffContract (previous current : FlatSchema) : ContractDiff where
  addedFields := current.keys.filter fun key => !previous.contains key
  removedFields := previous.keys.filter fun key =>
    !current.contains key && !isBelowInconclusiveArray key current
  typeChangedFields := previous.keys.filterMap (typeChange previous current)

/-- `not added_fields and not removed_fields and not type_changed_fields`. -/
def ContractDiff.isEmpty (diff : ContractDiff) : Bool :=
  diff.addedFields.isEmpty && diff.removedFields.isEmpty && diff.typeChangedFields.isEmpty

/-- A structure does not differ from itself. -/
theorem diffContract_self (flat : FlatSchema) : (diffContract flat flat).isEmpty = true := by
  have same : ∀ path, typeChange flat flat path = none := by
    intro path
    unfold typeChange
    cases flat[path]? <;> simp
  have kept : ∀ key ∈ flat.keys, flat.contains key = true := fun key mem =>
    Std.ExtTreeMap.mem_iff_contains.mp (Std.ExtTreeMap.mem_keys.mp mem)
  simp only [ContractDiff.isEmpty, diffContract, Bool.and_eq_true, List.isEmpty_iff]
  refine ⟨⟨?_, ?_⟩, ?_⟩
  · rw [List.filter_eq_nil_iff]
    intro key mem
    simp [kept key mem]
  · rw [List.filter_eq_nil_iff]
    intro key mem
    simp [kept key mem]
  · rw [List.filterMap_eq_nil_iff]
    intro key _
    exact same key

/-! ### Scores and labels -/

/-- `_compatibility_score`. -/
def compatibilityScore (diff : ContractDiff) : Int :=
  let score := contractCompatibilityMaxScore
  let score := score - diff.addedFields.length * contractPenaltyAddedField
  let score := score - diff.removedFields.length * contractPenaltyRemovedField
  let score := score - diff.typeChangedFields.length * contractPenaltyTypeChange
  max contractCompatibilityMinScore score

inductive DriftEventType where
  | breaking | nonBreaking | none
deriving DecidableEq, Repr

def DriftEventType.text : DriftEventType → String
  | .breaking => "breaking"
  | .nonBreaking => "non_breaking"
  | .none => "none"

/-- `_event_type`. -/
def eventType (diff : ContractDiff) : DriftEventType :=
  if !diff.removedFields.isEmpty || !diff.typeChangedFields.isEmpty then .breaking
  else if !diff.addedFields.isEmpty then .nonBreaking
  else .none

/-- A structure that differs has an event type. -/
theorem eventType_eq_none (diff : ContractDiff) :
    eventType diff = .none ↔ diff.isEmpty = true := by
  unfold eventType ContractDiff.isEmpty
  cases diff.addedFields.isEmpty <;> cases diff.removedFields.isEmpty <;>
    cases diff.typeChangedFields.isEmpty <;> simp

inductive DriftSeverity where
  | none | low | medium | high | critical
deriving DecidableEq, Repr

/-- `_severity`. -/
def severity (eventType : DriftEventType) (score : Int) : DriftSeverity :=
  if eventType = .none then .none
  else if score ≥ 90 then .low
  else if score ≥ 75 then .medium
  else if score ≥ 50 then .high
  else .critical

/-- `_summary`. -/
def summary (eventType : DriftEventType) (diff : ContractDiff) : String :=
  if eventType = .none then "No schema drift detected."
  else
    let added := if diff.addedFields.isEmpty then [] else [s!"added={diff.addedFields.length}"]
    let removed :=
      if diff.removedFields.isEmpty then [] else [s!"removed={diff.removedFields.length}"]
    let typeChanged :=
      if diff.typeChangedFields.isEmpty then []
      else [s!"type_changed={diff.typeChangedFields.length}"]
    eventType.text ++ " drift detected (" ++
      ", ".intercalate (added ++ removed ++ typeChanged) ++ ")."

end ApiObservatory
