import ApiObservatory.Transformations.Deduplication

/-
What the CSV validator accepts, against what it documents.

The documented record has an id, a price that is a number and not below zero, and a timestamp
that is not in the future. The validator departs from it in four ways, each a case of `Misjudged`:
an integer that is no float raises, a NaN passes as a price, a timestamp without a `tzinfo` is
always refused, and a `Z` inside a text is replaced like one at its end.
-/

namespace ApiObservatory.Transformations

open CSVObservationValidator

/-! ### The documented records -/

/-- The bits of a NaN. -/
def isNaN (bits : BitVec 64) : Bool := decide (0x7ff0000000000000 < magnitude bits)

/-- A number that is not below zero. -/
def Nonnegative (bits : BitVec 64) : Prop := isNaN bits = false ∧ isNegative bits = false

section Documented

variable (python : Python) (now localNow : Int)

/-- A `str`, `int` or `float` whose numeric value is a number and not below zero. -/
def NumericPrice : Value → Prop
  | .str text => ∃ bits, python.floatOfString text = some bits ∧ Nonnegative bits
  | .bool _ => True
  | .int n => 0 ≤ n
  | .float bits => Nonnegative bits
  | _ => False

/-- A `Z` at the end of a text as an offset. -/
def trailingZ (text : String) : String :=
  match text.toList.reverse with
  | 'Z' :: rest => String.ofList (rest.reverse ++ "+00:00".toList)
  | _ => text

/-- The `datetime` that a value stands for. -/
def Value.timestamp : Value → Option Timestamp
  | .str text => (python.fromisoformat (trailingZ text)).toOption
  | .datetime ts => some ts
  | _ => none

/-- The `datetime` that the validator reads in a value. -/
def Value.read : Value → Option Timestamp
  | .str text => (python.fromisoformat (replaceZ text)).toOption
  | .datetime ts => some ts
  | _ => none

/-- Aware, and not later than now in its own zone. -/
def AwarePast (ts : Timestamp) : Prop := ∃ tzinfo, ts.tzinfo = some tzinfo ∧ ts.wall ≤ tzinfo.wallAt now

/-- Naive, and not later than the naive local time. -/
def NaivePast (ts : Timestamp) : Prop := ts.tzinfo = none ∧ ts.wall ≤ localNow

/-- The documented records. -/
structure Documented (observation : Dict) : Prop where
  id : ∃ text, observation.lookup "id" = some (.str text) ∧ text ≠ ""
  price : ∃ value, observation.lookup "price" = some value ∧ NumericPrice python value
  timestamp : ∃ value ts, observation.lookup "timestamp" = some value ∧
    value.timestamp python = some ts ∧ (AwarePast now ts ∨ NaivePast localNow ts)

/-! ### Where the validator departs from them -/

/-- The id is fine and nothing is missing, so that the price is looked at. -/
structure Reaches (observation : Dict) (given givenTime : Value) : Prop where
  id : ∃ text, observation.lookup "id" = some (.str text) ∧ text ≠ ""
  price : observation.lookup "price" = some given
  priceGiven : given ≠ .null
  timestamp : observation.lookup "timestamp" = some givenTime
  timestampGiven : givenTime ≠ .null

/-- An integer that no float is near. -/
def Unconvertible : Value → Prop
  | .int n => 2 ^ 1024 - 2 ^ 970 ≤ n.natAbs
  | _ => False

/-- A float, or a text of one, that is not a number. -/
def NaNPrice : Value → Prop
  | .str text => ∃ bits, python.floatOfString text = some bits ∧ isNaN bits = true
  | .float bits => isNaN bits = true
  | _ => False

/-- What the validator reads is aware and past. -/
def ReadAwarePast (value : Value) : Prop := ∃ ts, value.read python = some ts ∧ AwarePast now ts

def GivenAwarePast (value : Value) : Prop := ∃ ts, value.timestamp python = some ts ∧ AwarePast now ts

def GivenNaivePast (value : Value) : Prop :=
  ∃ ts, value.timestamp python = some ts ∧ NaivePast localNow ts

/-- The observations on which the validator does not do what it documents. -/
inductive Misjudged (observation : Dict) : Prop where
  /-- It raises an `OverflowError`. -/
  | hugePrice {price timestamp : Value} (reaches : Reaches observation price timestamp)
      (huge : Unconvertible price)
  /-- NaN is not below zero. -/
  | nanPrice {price timestamp : Value} (reaches : Reaches observation price timestamp)
      (nan : NaNPrice python price) (past : ReadAwarePast python now timestamp)
  /-- The clock counts as true. -/
  | naiveTimestamp {price timestamp : Value} (reaches : Reaches observation price timestamp)
      (fine : NumericPrice python price) (past : GivenNaivePast python localNow timestamp)
      (refused : ¬ ReadAwarePast python now timestamp)
  /-- Another `Z` than the last one becomes an offset. -/
  | innerZ {price timestamp : Value} (reaches : Reaches observation price timestamp)
      (fine : NumericPrice python price) (aware : ¬ GivenNaivePast python localNow timestamp)
      (differs : ¬ (ReadAwarePast python now timestamp ↔ GivenAwarePast python now timestamp))

end Documented

/-! ### The checks of the validator -/

section Checks

variable {python : Python} {now localNow : Int} {observation : Dict} {price timestamp : Value}

/-- A verdict that accepts exactly when `p` holds. -/
def Decides (verdict : Verdict) (p : Prop) : Prop :=
  ∃ accepted error, verdict = .ok (accepted, error) ∧ (accepted = true ↔ p)

theorem decides_valid {p : Prop} (holds : p) : Decides valid p :=
  ⟨true, none, rfl, iff_of_true rfl holds⟩

theorem decides_invalid {p : Prop} {error : String} (fails : ¬ p) : Decides (invalid error) p :=
  ⟨false, some error, rfl, iff_of_false (by simp) fails⟩

theorem Decides.congr {verdict : Verdict} {p q : Prop} (decides : Decides verdict p) (same : p ↔ q) :
    Decides verdict q := by
  obtain ⟨accepted, error, is, iff⟩ := decides
  exact ⟨accepted, error, is, iff.trans same⟩

/-- The next check runs when this one accepts. -/
theorem Decides.andThen {verdict next : Verdict} {p q : Prop} :
    Decides verdict p → Decides next q →
      Decides (match verdict with
        | .ok (true, _) => next
        | verdict => verdict) (p ∧ q) := by
  rintro ⟨accepted, error, rfl, iff⟩ second
  cases accepted with
  | true => exact second.congr ⟨fun holds => ⟨iff.mp rfl, holds⟩, And.right⟩
  | false =>
    have fails : ¬ p := fun holds => Bool.noConfusion (iff.mpr holds)
    exact ⟨false, error, rfl, iff_of_false (by simp) fun both => fails both.1⟩

theorem decides_checkSign {negative : Bool} : Decides (checkSign negative) (negative = false) := by
  cases negative with
  | true => exact decides_invalid (by simp)
  | false => exact decides_valid rfl

/-- A float that is not negative is a number that is not, or no number. -/
theorem isNegative_eq_false_iff {bits : BitVec 64} :
    isNegative bits = false ↔ Nonnegative bits ∨ isNaN bits = true := by
  unfold Nonnegative
  cases nan : isNaN bits with
  | false => simp
  | true =>
    have beyond : ¬ magnitude bits ≤ 0x7ff0000000000000 := not_le.mpr (of_decide_eq_true nan)
    simp [isNegative, beyond]

/-- **The price** is accepted when it is a number that is not negative, or is NaN. -/
theorem decides_validatePrice (convertible : ¬ Unconvertible price) :
    Decides (validatePrice python price) (NumericPrice python price ∨ NaNPrice python price) := by
  cases price with
  | str text =>
    simp only [validatePrice, NumericPrice, NaNPrice]
    cases parsed : python.floatOfString text with
    | none => exact decides_invalid (by simp)
    | some bits =>
      exact decides_checkSign.congr (isNegative_eq_false_iff.trans (by simp))
  | bool value => exact decides_valid (Or.inl trivial)
  | int n =>
    have small : ¬ 2 ^ 1024 - 2 ^ 970 ≤ n.natAbs := convertible
    simp only [validatePrice, small, if_false]
    exact decides_checkSign.congr (by simp [NumericPrice, NaNPrice])
  | float bits => exact decides_checkSign.congr isNegative_eq_false_iff
  | null | datetime | list | dict =>
    exact decides_invalid (by simp [NumericPrice, NaNPrice])

theorem validatePrice_of_unconvertible (huge : Unconvertible price) :
    validatePrice python price = .error .overflowError := by
  cases price with
  | int n =>
    have large : 2 ^ 1024 - 2 ^ 970 ≤ n.natAbs := huge
    simp only [validatePrice, large, if_true]
  | null | bool | float | str | datetime | list | dict => exact huge.elim

theorem decides_checkPast (ts : Timestamp) : Decides (checkPast now ts) (AwarePast now ts) := by
  unfold checkPast AwarePast
  cases ts.tzinfo with
  | none => exact decides_invalid (by simp)
  | some tzinfo =>
    by_cases future : tzinfo.wallAt now < ts.wall
    · simp only [future, decide_true, if_true]
      exact decides_invalid (by simpa using future)
    · simp only [future, decide_false, Bool.false_eq_true, if_false]
      exact decides_valid ⟨tzinfo, rfl, not_lt.mp future⟩

/-- **The timestamp** is accepted when what is read in it is aware and past. -/
theorem decides_validateTimestamp :
    Decides (validateTimestamp python now timestamp) (ReadAwarePast python now timestamp) := by
  unfold ReadAwarePast
  cases timestamp with
  | str text =>
    simp only [validateTimestamp, Value.read]
    cases parsed : python.fromisoformat (replaceZ text) with
    | error e => exact decides_invalid (by simp [Except.toOption])
    | ok ts => exact (decides_checkPast ts).congr (by simp [Except.toOption])
  | datetime ts => exact (decides_checkPast ts).congr (by simp [Value.read])
  | null | bool | int | float | list | dict => exact decides_invalid (by simp [Value.read])

theorem present_iff {field : String} :
    present observation field = true ↔ ∃ value, observation.lookup field = some value ∧ value ≠ .null := by
  unfold present
  split
  · rename_i absent
    simp [absent]
  · rename_i isNull
    simp [isNull]
  · rename_i value given found
    exact iff_of_true rfl ⟨value, found, given⟩

variable (python now observation) in
/-- **What is looked at**: nothing is missing and the id is fine, or the record is refused before. -/
theorem validate_cases :
    (∃ price timestamp, Reaches observation price timestamp ∧
        CSVObservationValidator.validate python now observation =
          match validatePrice python price with
          | .ok (true, _) =>
            match validateTimestamp python now timestamp with
            | .ok (true, _) => valid
            | verdict => verdict
          | verdict => verdict) ∨
      (∀ price timestamp, ¬ Reaches observation price timestamp) ∧
        ∃ error, CSVObservationValidator.validate python now observation = invalid error := by
  unfold CSVObservationValidator.validate
  cases missing : REQUIRED_FIELDS.find? fun field => !present observation field with
  | some field =>
    refine .inr ⟨fun price timestamp reaches => ?_, _, rfl⟩
    have absent := List.find?_some (p := fun field => !present observation field) missing
    have required := List.mem_of_find?_eq_some missing
    obtain ⟨text, id, -⟩ := reaches.id
    have there : present observation field = true := by
      simp only [REQUIRED_FIELDS, List.mem_cons, List.not_mem_nil, or_false] at required
      rcases required with rfl | rfl | rfl
      · exact present_iff.mpr ⟨_, id, by simp⟩
      · exact present_iff.mpr ⟨_, reaches.price, reaches.priceGiven⟩
      · exact present_iff.mpr ⟨_, reaches.timestamp, reaches.timestampGiven⟩
    simp [there] at absent
  | none =>
    have given : ∀ field ∈ REQUIRED_FIELDS, ∃ value, observation.lookup field = some value ∧
        value ≠ .null := fun field mem =>
      present_iff.mp (by simpa using List.find?_eq_none.mp missing field mem)
    obtain ⟨price, priced, priceGiven⟩ := given "price" (by decide)
    obtain ⟨timestamp, timed, timestampGiven⟩ := given "timestamp" (by decide)
    simp only [priced, timed, Option.getD_some]
    by_cases id : validateId ((observation.lookup "id").getD .null) = true
    · rw [if_neg (by simp [id])]
      refine .inl ⟨price, timestamp, ⟨?_, priced, priceGiven, timed, timestampGiven⟩, rfl⟩
      obtain ⟨value, found, -⟩ := given "id" (by decide)
      rw [found, Option.getD_some] at id
      cases value with
      | str text =>
        refine ⟨text, found, ?_⟩
        rintro rfl
        exact absurd id (by decide)
      | null | bool | int | float | datetime | list | dict => cases id
    · rw [if_pos (by simp [id])]
      refine .inr ⟨fun price timestamp reaches => id ?_, _, rfl⟩
      obtain ⟨text, found, nonempty⟩ := reaches.id
      rw [found, Option.getD_some]
      refine decide_eq_true (Nat.pos_of_ne_zero fun empty => nonempty ?_)
      exact String.length_eq_zero_iff.mp empty

theorem Documented.reaches (documented : Documented python now localNow observation) :
    ∃ price timestamp, Reaches observation price timestamp := by
  obtain ⟨price, priced, numeric⟩ := documented.price
  obtain ⟨timestamp, ts, timed, is, -⟩ := documented.timestamp
  refine ⟨price, timestamp, documented.id, priced, ?_, timed, ?_⟩
  · rintro rfl
    exact numeric
  · rintro rfl
    cases is

theorem Reaches.unique {price' timestamp' : Value} (reaches : Reaches observation price timestamp)
    (reaches' : Reaches observation price' timestamp') : price' = price ∧ timestamp' = timestamp :=
  ⟨Option.some.inj (reaches'.price.symm.trans reaches.price),
    Option.some.inj (reaches'.timestamp.symm.trans reaches.timestamp)⟩

/-- The documented records by their price and their timestamp. -/
theorem Reaches.documented_iff (reaches : Reaches observation price timestamp) :
    Documented python now localNow observation ↔
      NumericPrice python price ∧
        (GivenAwarePast python now timestamp ∨ GivenNaivePast python localNow timestamp) := by
  constructor
  · intro documented
    obtain ⟨value, priced, numeric⟩ := documented.price
    obtain ⟨value', ts, timed, is, past⟩ := documented.timestamp
    obtain rfl := Option.some.inj (priced.symm.trans reaches.price)
    obtain rfl := Option.some.inj (timed.symm.trans reaches.timestamp)
    exact ⟨numeric, past.imp (fun aware => ⟨ts, is, aware⟩) fun naive => ⟨ts, is, naive⟩⟩
  · rintro ⟨numeric, past⟩
    refine ⟨reaches.id, ⟨price, reaches.price, numeric⟩, ?_⟩
    rcases past with ⟨ts, is, aware⟩ | ⟨ts, is, naive⟩
    · exact ⟨timestamp, ts, reaches.timestamp, is, .inl aware⟩
    · exact ⟨timestamp, ts, reaches.timestamp, is, .inr naive⟩

end Checks

/-! ### Exactly the documented records -/

/-- The validator never raises and accepts the documented records only, and a validating
transformer hands these on, unchanged, and rejects the others. -/
structure AcceptsDocumented (python : Python) (clock : Clock) (localNow : Int) (observation : Dict) :
    Prop where
  answers : Decides (CSVObservationValidator.validate python clock.validated observation)
    (Documented python clock.validated localNow observation)
  passesOn : Documented python clock.validated localNow observation →
    ∀ nextTransformer, transform python clock (.validator nextTransformer .csv) observation =
      { transform python clock nextTransformer observation with
        transformer :=
          .validator (transform python clock nextTransformer observation).transformer .csv }
  rejects : ¬ Documented python clock.validated localNow observation →
    ∀ nextTransformer, transform python clock (.validator nextTransformer .csv) observation =
      ⟨.rejected, observation, .validator nextTransformer .csv⟩

section Accepts

variable {python : Python} {clock : Clock} {now localNow : Int} {observation : Dict}
  {price timestamp : Value}

/-- What the transformer does follows from what the validator answers. -/
theorem acceptsDocumented_iff_decides :
    AcceptsDocumented python clock localNow observation ↔
      Decides (CSVObservationValidator.validate python clock.validated observation)
        (Documented python clock.validated localNow observation) := by
  refine ⟨AcceptsDocumented.answers, fun decides => ⟨decides, ?_, ?_⟩⟩
  · intro documented nextTransformer
    obtain ⟨accepted, error, is, iff⟩ := decides
    obtain rfl := iff.mpr documented
    simp only [transform, Strategy.validate, is]
  · intro undocumented nextTransformer
    obtain ⟨accepted, error, is, iff⟩ := decides
    cases accepted with
    | true => exact absurd (iff.mp rfl) undocumented
    | false => simp only [transform, Strategy.validate, is]

theorem not_nan_of_numeric (numeric : NumericPrice python price) : ¬ NaNPrice python price := by
  intro nan
  cases price with
  | str text =>
    obtain ⟨bits, parsed, isNumber, -⟩ := numeric
    obtain ⟨bits', parsed', isNaN⟩ := nan
    obtain rfl := Option.some.inj (parsed.symm.trans parsed')
    rw [isNumber] at isNaN
    cases isNaN
  | float bits =>
    obtain ⟨isNumber, -⟩ := numeric
    rw [show isNaN bits = true from nan] at isNumber
    cases isNumber
  | null | bool | int | datetime | list | dict => exact nan

theorem Decides.iff {verdict : Verdict} {p q : Prop} (first : Decides verdict p)
    (second : Decides verdict q) : p ↔ q := by
  obtain ⟨accepted, error, is, iff⟩ := first
  obtain ⟨accepted', error', is', iff'⟩ := second
  cases is.symm.trans is'
  exact iff.symm.trans iff'

/-- What a record that is looked at has to have to be misjudged. -/
theorem Reaches.misjudged_iff (reaches : Reaches observation price timestamp) :
    Misjudged python now localNow observation ↔
      Unconvertible price ∨ (NaNPrice python price ∧ ReadAwarePast python now timestamp) ∨
        (NumericPrice python price ∧ GivenNaivePast python localNow timestamp ∧
          ¬ ReadAwarePast python now timestamp) ∨
        NumericPrice python price ∧ ¬ GivenNaivePast python localNow timestamp ∧
          ¬ (ReadAwarePast python now timestamp ↔ GivenAwarePast python now timestamp) := by
  constructor
  · intro misjudged
    cases misjudged with
    | hugePrice reaches' huge =>
      obtain ⟨rfl, rfl⟩ := reaches.unique reaches'
      exact .inl huge
    | nanPrice reaches' nan past =>
      obtain ⟨rfl, rfl⟩ := reaches.unique reaches'
      exact .inr (.inl ⟨nan, past⟩)
    | naiveTimestamp reaches' fine past refused =>
      obtain ⟨rfl, rfl⟩ := reaches.unique reaches'
      exact .inr (.inr (.inl ⟨fine, past, refused⟩))
    | innerZ reaches' fine aware differs =>
      obtain ⟨rfl, rfl⟩ := reaches.unique reaches'
      exact .inr (.inr (.inr ⟨fine, aware, differs⟩))
  · rintro (huge | ⟨nan, past⟩ | ⟨fine, past, refused⟩ | ⟨fine, aware, differs⟩)
    · exact .hugePrice reaches huge
    · exact .nanPrice reaches nan past
    · exact .naiveTimestamp reaches fine past refused
    · exact .innerZ reaches fine aware differs

/-- A price that is a float: the verdict is the documented one exactly outside the other cases. -/
theorem Reaches.decides_iff (reaches : Reaches observation price timestamp)
    (convertible : ¬ Unconvertible price)
    (verdict : CSVObservationValidator.validate python now observation =
      match validatePrice python price with
      | .ok (true, _) =>
        match validateTimestamp python now timestamp with
        | .ok (true, _) => valid
        | verdict => verdict
      | verdict => verdict) :
    Decides (CSVObservationValidator.validate python now observation)
        (Documented python now localNow observation) ↔
      ¬ Misjudged python now localNow observation := by
  have decided : Decides (CSVObservationValidator.validate python now observation)
      ((NumericPrice python price ∨ NaNPrice python price) ∧
        ReadAwarePast python now timestamp ∧ True) := by
    rw [verdict]
    exact (decides_validatePrice convertible).andThen
      (decides_validateTimestamp.andThen (decides_valid trivial))
  have same : Decides (CSVObservationValidator.validate python now observation)
        (Documented python now localNow observation) ↔
      ((NumericPrice python price ∨ NaNPrice python price) ∧ ReadAwarePast python now timestamp ∧
          True ↔ Documented python now localNow observation) :=
    ⟨decided.iff, decided.congr⟩
  rw [same, reaches.documented_iff, reaches.misjudged_iff]
  by_cases numeric : NumericPrice python price
  · have number := not_nan_of_numeric numeric
    by_cases naive : GivenNaivePast python localNow timestamp
    · simp [numeric, number, naive, convertible]
    · simp [numeric, number, naive, convertible]
  · simp [numeric, convertible]

/-- **The CSV validator** accepts exactly the documented records, and never raises, exactly outside
the four cases of `Misjudged`. -/
theorem csv_accepts_documented_iff (python : Python) (clock : Clock) (localNow : Int)
    (observation : Dict) :
    AcceptsDocumented python clock localNow observation ↔
      ¬ Misjudged python clock.validated localNow observation := by
  rw [acceptsDocumented_iff_decides]
  rcases validate_cases python clock.validated observation with
    ⟨price, timestamp, reaches, verdict⟩ | ⟨unreached, error, refused⟩
  · by_cases huge : Unconvertible price
    · refine iff_of_false ?_ (not_not.mpr (.hugePrice reaches huge))
      rintro ⟨accepted, error, is, -⟩
      rw [verdict, validatePrice_of_unconvertible huge] at is
      cases is
    · exact reaches.decides_iff huge verdict
  · refine iff_of_true ?_ ?_
    · rw [refused]
      refine decides_invalid fun documented => ?_
      obtain ⟨price, timestamp, reaches⟩ := documented.reaches
      exact unreached price timestamp reaches
    · intro misjudged
      cases misjudged with
      | hugePrice reaches | nanPrice reaches | naiveTimestamp reaches | innerZ reaches =>
        exact unreached _ _ reaches

/-- A text in which only the last character is a `Z` is read as it is given. -/
theorem replaceZ_of_last {front : List Char} (plain : 'Z' ∉ front) :
    replaceZ (String.ofList (front ++ ['Z'])) = trailingZ (String.ofList (front ++ ['Z'])) := by
  have kept : ∀ front : List Char, 'Z' ∉ front →
      front.flatMap (fun c => if c = 'Z' then "+00:00".toList else [c]) = front := by
    intro front plain
    induction front with
    | nil => rfl
    | cons c rest ih =>
      obtain ⟨differs, plain⟩ := not_or.mp (List.mem_cons.not.mp plain)
      rw [List.flatMap_cons, ih plain, if_neg (Ne.symm differs)]
      rfl
  simp only [replaceZ, trailingZ, String.toList_ofList, List.flatMap_append, kept front plain,
    List.reverse_append, List.reverse_singleton, List.singleton_append, List.reverse_reverse]
  rfl

/-- Ten o'clock without a time zone, one hour ago. -/
def naiveObservation : Dict :=
  [("id", .str "123"), ("price", .float 0x4024000000000000),
    ("timestamp", .datetime ⟨1705312800000000, none⟩)]

/-- The documented record is refused. -/
theorem naive_timestamp_refused :
    ¬ AcceptsDocumented pythonOfMessages ⟨1705316400000000, 1705316400000000⟩ 1705316400000000
      naiveObservation := by
  intro accepts
  have documented : Documented pythonOfMessages 1705316400000000 1705316400000000 naiveObservation :=
    ⟨⟨"123", rfl, by decide⟩, ⟨.float 0x4024000000000000, rfl, by decide, by decide⟩,
      ⟨_, _, rfl, rfl, .inr ⟨rfl, by decide⟩⟩⟩
  obtain ⟨accepted, error, is, iff⟩ := accepts.answers
  have refused : CSVObservationValidator.validate pythonOfMessages 1705316400000000 naiveObservation =
      invalid "Timestamp cannot be in future" := by
    rfl
  obtain rfl := iff.mpr documented
  cases is.symm.trans refused

end Accepts

end ApiObservatory.Transformations
