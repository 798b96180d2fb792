import ApiObservatory.Foundation.Json
import Mathlib.Algebra.Group.Nat.Defs

/-
The transformation pipelines of `services/ingestor/transformations`: the validation
strategies, the decorators and the factory that nests them.

An observation is a dict, and a decorator may change the dict of the caller. So `transform`
gives its answer, the dict as it is afterwards, and the chain with the state it then has. What
the code takes from Python without a definition here is in `Python`.
-/

namespace ApiObservatory.Transformations

open Foundation

/-- A `tzinfo`, with its offset from UTC at an instant. -/
structure Tzinfo where
  utcoffset : Int → Int

/-- The wall clock of `datetime.now(tz=tzinfo)`. -/
def Tzinfo.wallAt (tzinfo : Tzinfo) (now : Int) : Int := now + tzinfo.utcoffset now

/-- A `datetime` with its own time zone. -/
structure Timestamp where
  wall : Int
  tzinfo : Option Tzinfo

/-- A value of an observation. A float stands for its bits. -/
inductive Value where
  | null
  | bool (value : Bool)
  | int (value : Int)
  | float (bits : BitVec 64)
  | str (text : String)
  | datetime (value : Timestamp)
  | list (elements : List Value)
  | dict (fields : List (String × Value))

abbrev Dict := List (String × Value)

/-- `observation[key] = value`: a key that is there keeps its place. -/
def setItem (observation : Dict) (key : String) (value : Value) : Dict :=
  if observation.any fun item => item.1 == key then
    observation.map fun item => if item.1 = key then (key, value) else item
  else observation ++ [(key, value)]

structure Python where
  /-- `float(text)`; `none` is its `ValueError`. -/
  floatOfString : String → Option (BitVec 64)
  /-- The text of a float in JSON. -/
  floatRepr : BitVec 64 → String
  /-- `datetime.fromisoformat`, with the text of its `ValueError`. -/
  fromisoformat : String → Except String Timestamp
  /-- `isoformat()` of an instant in UTC. -/
  isoformat : Int → String
  /-- `str` of a `datetime`. -/
  strDatetime : Timestamp → String
  /-- `hashlib.sha256(text.encode()).hexdigest()` -/
  sha256 : String → String

/-- The exceptions that a validator lets pass. -/
inductive Raised where
  | overflowError
deriving DecidableEq

/-- The value without its sign. -/
def magnitude (bits : BitVec 64) : Nat := bits.toNat % 2 ^ 63

/-- `value < 0` of a float; not of a zero and not of a NaN. -/
def isNegative (bits : BitVec 64) : Bool :=
  bits.msb && decide (magnitude bits ≠ 0 ∧ magnitude bits ≤ 0x7ff0000000000000)

section Json

variable (python : Python)

mutual

/-- `json.dumps(value, sort_keys=True, default=str)` -/
def dumpsChars : Value → List Char
  | .null => "null".toList
  | .bool true => "true".toList
  | .bool false => "false".toList
  | .int n => (toString n).toList
  | .float bits => (python.floatRepr bits).toList
  | .str text => dumpsString text
  | .datetime value => dumpsString (python.strDatetime value)
  | .list elements => '[' :: ((dumpsElements elements).intersperse [',', ' ']).flatten ++ [']']
  | .dict fields =>
    let sorted := (dumpsFields fields).insertionSort fun a b => a.1 ≤ b.1
    let items := sorted.map fun item => dumpsString item.1 ++ ':' :: ' ' :: item.2
    '{' :: (items.intersperse [',', ' ']).flatten ++ ['}']

def dumpsElements : List Value → List (List Char)
  | [] => []
  | element :: rest => dumpsChars element :: dumpsElements rest

def dumpsFields : List (String × Value) → List (String × List Char)
  | [] => []
  | (key, value) :: rest => (key, dumpsChars value) :: dumpsFields rest

end

def dumps (observation : Dict) : String := String.ofList (dumpsChars python (.dict observation))

end Json

/-! ### Validation strategies -/

inductive Strategy where
  | csv
  | json
  | api
deriving DecidableEq

/-- `(is_valid, error)`, or the exception that `validate` raises. -/
abbrev Verdict := Except Raised (Bool × Option String)

def valid : Verdict := .ok (true, none)

def invalid (error : String) : Verdict := .ok (false, some error)

section Validators

variable (python : Python)

namespace CSVObservationValidator

def REQUIRED_FIELDS : List String := ["id", "price", "timestamp"]

/-- The field is there and not `None`. -/
def present (observation : Dict) (field : String) : Bool :=
  match observation.lookup field with
  | none | some .null => false
  | some _ => true

def validateId : Value → Bool
  | .str text => decide (0 < text.length)
  | _ => false

def notNumeric : Verdict := invalid "Price must be numeric (int/float/string)"

def checkSign (negative : Bool) : Verdict :=
  if negative then invalid "Price must be >= 0" else valid

/-- `_validate_price`. An integer that is no float raises an `OverflowError`, which is not
caught. -/
def validatePrice : Value → Verdict
  | .str text =>
    match python.floatOfString text with
    | none => notNumeric
    | some bits => checkSign (isNegative bits)
  | .bool _ => checkSign false
  | .int n =>
    if 2 ^ 1024 - 2 ^ 970 ≤ n.natAbs then .error .overflowError else checkSign (decide (n < 0))
  | .float bits => checkSign (isNegative bits)
  | _ => notNumeric

/-- The comparison with the clock: two values with one `tzinfo` are compared by their wall clocks.
The conditional expression binds weaker than `>`, so that a timestamp without a `tzinfo` gives
`datetime.now()`, which counts as true. -/
def checkPast (now : Int) (ts : Timestamp) : Verdict :=
  let future :=
    match ts.tzinfo with
    | some tzinfo => decide (tzinfo.wallAt now < ts.wall)
    | none => true
  if future then invalid "Timestamp cannot be in future" else valid

/-- `value.replace("Z", "+00:00")` -/
def replaceZ (text : String) : String :=
  String.ofList (text.toList.flatMap fun c => if c = 'Z' then "+00:00".toList else [c])

def validateTimestamp (now : Int) : Value → Verdict
  | .str text =>
    match python.fromisoformat (replaceZ text) with
    | .error e => invalid s!"Invalid timestamp format: {e}"
    | .ok ts => checkPast now ts
  | .datetime ts => checkPast now ts
  | _ => invalid "Timestamp must be ISO string or datetime"

def validate (now : Int) (observation : Dict) : Verdict :=
  match REQUIRED_FIELDS.find? fun field => !present observation field with
  | some field => invalid s!"Missing required field: {field}"
  | none =>
    if !validateId ((observation.lookup "id").getD .null) then
      invalid "Invalid 'id': must be non-empty string"
    else
      match validatePrice python ((observation.lookup "price").getD .null) with
      | .ok (true, _) =>
        match validateTimestamp python now ((observation.lookup "timestamp").getD .null) with
        | .ok (true, _) => valid
        | verdict => verdict
      | verdict => verdict

end CSVObservationValidator

def JSONObservationValidator.validate (observation : Dict) : Verdict :=
  if !CSVObservationValidator.present observation "id" then
    invalid "Missing required field: 'id'"
  else if observation.length = 0 then invalid "Observation cannot be empty"
  else valid

def APIObservationValidator.validate (observation : Dict) : Verdict :=
  if observation.length = 0 then invalid "Observation cannot be empty" else valid

/-- `strategy.validate`, with the clock at `now`. -/
def Strategy.validate (now : Int) (observation : Dict) : Strategy → Verdict
  | .csv => CSVObservationValidator.validate python now observation
  | .json => JSONObservationValidator.validate observation
  | .api => APIObservationValidator.validate observation

end Validators

/-! ### Decorators -/

/-- A chain, outermost decorator first. -/
inductive ObservationTransformer where
  | null
  | validator (nextTransformer : ObservationTransformer) (strategy : Strategy)
  | deduplicator (nextTransformer : ObservationTransformer) (seenHashes : List String)
  | enricher (nextTransformer : ObservationTransformer)

inductive Answer where
  | accepted (observation : Dict)
  /-- `None` -/
  | rejected
  | raised (error : Raised)

structure Transformed where
  answer : Answer
  /-- The dict of the caller afterwards. -/
  observation : Dict
  transformer : ObservationTransformer

/-- What the clock says when the enricher and when the validator asks. -/
structure Clock where
  enriched : Int
  validated : Int

section Transform

variable (python : Python) (clock : Clock)

/-- The fields that the enricher adds. -/
def enrich (observation : Dict) : Dict :=
  let observation := setItem observation "_ingested_at" (.str (python.isoformat clock.enriched))
  setItem observation "_source_hash" (.str (python.sha256 (dumps python observation)))

def transform : ObservationTransformer → Dict → Transformed
  | .null, observation => ⟨.accepted observation, observation, .null⟩
  | .validator nextTransformer strategy, observation =>
    match strategy.validate python clock.validated observation with
    | .error e => ⟨.raised e, observation, .validator nextTransformer strategy⟩
    | .ok (false, _) => ⟨.rejected, observation, .validator nextTransformer strategy⟩
    | .ok (true, _) =>
      let result := transform nextTransformer observation
      { result with transformer := .validator result.transformer strategy }
  | .deduplicator nextTransformer seenHashes, observation =>
    let hash := python.sha256 (dumps python observation)
    if hash ∈ seenHashes then
      ⟨.rejected, observation, .deduplicator nextTransformer seenHashes⟩
    else
      let result := transform nextTransformer observation
      { result with transformer := .deduplicator result.transformer (hash :: seenHashes) }
  | .enricher nextTransformer, observation =>
    let result := transform nextTransformer (enrich python clock observation)
    { result with transformer := .enricher result.transformer }

end Transform

/-! ### The factory -/

structure SyncConfig where
  strategyType : Option String := none
  enableDedup : Option Bool := none
  enrichmentRules : Option (List String) := none
deriving DecidableEq

/-- `_build_strategy`, with the text of its `ValueError`. -/
def buildStrategy (strategyType : String) : Except String Strategy :=
  if strategyType = "csv" then .ok .csv
  else if strategyType = "json" then .ok .json
  else if strategyType = "api" then .ok .api
  else .error s!"Unknown strategy_type: {strategyType}"

/-- `TransformationPipelineFactory.create` -/
def create (syncConfig : Option SyncConfig) : Except String ObservationTransformer := do
  let syncConfig := syncConfig.getD {}
  let strategyType := syncConfig.strategyType.getD "csv"
  let enableDedup := syncConfig.enableDedup.getD true
  let enrichmentRules := syncConfig.enrichmentRules.getD []
  let strategy ← buildStrategy strategyType
  let transformer := ObservationTransformer.validator .null strategy
  let transformer := if enableDedup then .deduplicator transformer [] else transformer
  return if enrichmentRules ≠ [] then .enricher transformer else transformer

end ApiObservatory.Transformations
