import ApiObservatory.Analytics.Routes
import ApiObservatory.Foundation.JsonOrder
import ApiObservatory.Foundation.Text
import Mathlib.Algebra.Ring.Int.Defs

/-
What the payloads do to the analytics routes.

A payload is any JSON object, and its `value` is converted with `float` and compared with `<`. Either
may raise, and then the whole answer is lost. `analytics_answer_iff` says for each of the three
aggregations which payloads that takes, and what the answer is otherwise.
-/

namespace ApiObservatory.Analytics

open Foundation

/-- What the aggregations take from Python: the values of literals, and floats. -/
structure Python (N F : Type) extends Magnitudes N where
  /-- `float` of an `int` or a `float`; `none` is the `OverflowError` of an `int` no float is near. -/
  floatOfNumber : String → Option F
  floatOfBool : Bool → F
  /-- `float(text)`; `none` is its `ValueError`. -/
  floatOfText : String → Option F
  average : List F → F
  minimum : List F → F
  maximum : List F → F
  percentage : Nat → Nat → F
  share : Nat → Nat → F
  zero : F

namespace Python

variable {N F : Type} [LinearOrder N] (python : Python N F)

/-- `float(value)`. -/
def float : Json → Option F
  | .number literal => python.floatOfNumber literal
  | .bool value => some (python.floatOfBool value)
  | .string text => python.floatOfText text
  | .null | .array _ | .object _ => none

def numbers : Numbers F where
  float := python.float
  average := python.average
  minimum := python.minimum
  maximum := python.maximum
  percentage := python.percentage
  share := python.share
  zero := python.zero
  equal := python.toMagnitudes.equal
  less := python.toMagnitudes.less

@[simp] theorem numbers_float : python.numbers.float = python.float := rfl

@[simp] theorem numbers_equal : python.numbers.equal = python.toMagnitudes.equal := rfl

@[simp] theorem numbers_less : python.numbers.less = python.toMagnitudes.less := rfl

/-- How the keys `(value is not None, value or 0)` of two values compare. -/
def keyOrder (a b : Json) : Option Ordering :=
  if a = .null ∨ b = .null then some (cmp (decide (a ≠ .null)) (decide (b ≠ .null)))
  else python.toMagnitudes.order (orZero a) (orZero b)

end Python

/-! ### Tables and answers -/

/-- Payloads are objects, and the profiles of their sources exist. -/
structure Stored (db : ObservationDb) : Prop where
  objects : ∀ {id row}, db.observations.get id = some row →
    Proper row.rawData ∧ ∃ fields, row.rawData = .object fields
  profiles : ∀ {id row}, db.observations.get id = some row →
    ∃ profile, getSourceProfile db.sources row.sourceId = some profile
  /-- The unique index on the names of profiles. -/
  names : ∀ {id id' profile profile'}, db.sources.get id = some profile →
    db.sources.get id' = some profile' → profile.name = profile'.name → id = id'

section Answers

variable {N F : Type} [LinearOrder N]

/-- The active observations since a time. -/
def window (session : Session) (db : ObservationDb) (now hours : Int) : List (Nat × Observation) :=
  selectObservations session db (recent (hoursBefore now hours))

/-- All active observations, oldest first. -/
def active (session : Session) (db : ObservationDb) : List (Nat × Observation) :=
  orderBy (fun entry => entry.2.timestamp)
    (selectObservations session db fun _ row => row.deletedAt.isNone)

/-- A summary has each hour once, newest first, with the counts of its observations. -/
structure CountsHours (rows : List (Nat × Observation)) (summary : List (HourSummary F)) : Prop where
  newestFirst : summary.Pairwise fun a b => b.hour < a.hour
  hours : ∀ hour, (∃ item ∈ summary, item.hour = hour) ↔
    ∃ entry ∈ rows, hourOf entry.2.timestamp = hour
  counts : ∀ item ∈ summary,
    item.observationCount =
        (rows.filter fun entry => hourOf entry.2.timestamp = item.hour).length ∧
      item.processedCount =
        (rows.filter fun entry => hourOf entry.2.timestamp = item.hour && entry.2.processed).length

/-- The best observations of each source. -/
structure ListsTop (python : Python N F) (sources : Rows SourceProfile)
    (rows : List (Nat × Observation)) (limit : Nat)
    (bySource : List (String × List TopObservation)) : Prop where
  names : (bySource.map Prod.fst).Nodup
  lengths : ∀ sourceId, (∃ entry ∈ rows, entry.2.sourceId = sourceId) →
    ∃ top, (resolveSourceName sources sourceId, top) ∈ bySource ∧
      top.length = min limit (rows.filter fun entry => entry.2.sourceId = sourceId).length
  own : ∀ group ∈ bySource, (group.2.map TopObservation.id).Nodup ∧ ∀ item ∈ group.2,
    ∃ entry ∈ rows, resolveSourceName sources entry.2.sourceId = group.1 ∧ item.id = entry.1 ∧
      item.timestamp = entry.2.timestamp ∧ item.value = valueOf entry.2
  valuesFirst : ∀ group ∈ bySource, group.2.Pairwise fun a b => a.value = .null → b.value = .null
  falling : ∀ group ∈ bySource, group.2.Pairwise fun a b =>
    ∀ x y, python.toMagnitudes.of a.value = some x → python.toMagnitudes.of b.value = some y → y ≤ x

/-- `float` takes the value, if there is one. -/
def Readable (python : Python N F) (row : Observation) : Prop :=
  valueOf row ≠ .null → (python.float (valueOf row)).isSome = true

/-- The hours after this one. -/
def laterHours (rows : List (Nat × Observation)) (hour : Int) : Nat :=
  ((rows.map fun entry => hourOf entry.2.timestamp).eraseDups.filter (hour < ·)).length

/-- The values compare, if both are there: empty texts, arrays and objects as zeros. -/
def Comparable (python : Python N F) (row row' : Observation) : Prop :=
  valueOf row ≠ .null → valueOf row' ≠ .null →
    (python.toMagnitudes.order (orZero (valueOf row)) (orZero (valueOf row'))).isSome = true

end Answers

/-! ### Lists that are computed with a function that may raise -/

section Raising

variable {α β : Type} {f : α → Option β}

theorem mapM_eq_some_iff {as : List α} {bs : List β} :
    as.mapM f = some bs ↔ as.map f = bs.map some := by
  induction as generalizing bs with
  | nil => cases bs <;> simp
  | cons a as ih =>
    rw [List.mapM_cons, List.map_cons]
    constructor
    · intro built
      obtain ⟨b, here, built⟩ := Option.bind_eq_some_iff.mp built
      obtain ⟨rest, later, built⟩ := Option.bind_eq_some_iff.mp built
      obtain rfl := Option.some.inj built
      rw [List.map_cons, here, ih.mp later]
    · intro same
      cases bs with
      | nil => cases same
      | cons b bs =>
        obtain ⟨here, later⟩ := List.cons.inj same
        simp [here, ih.mpr later]

/-- What is computed is the image of an element. -/
theorem exists_of_mem_mapM {as : List α} {bs : List β} (built : as.map f = bs.map some) {b : β}
    (isIn : b ∈ bs) : ∃ a ∈ as, f a = some b := by
  have image : some b ∈ as.map f := built ▸ List.mem_map_of_mem isIn
  exact List.mem_map.mp image

theorem exists_mem_mapM {as : List α} {bs : List β} (built : as.map f = bs.map some) {a : α}
    (isIn : a ∈ as) : ∃ b ∈ bs, f a = some b := by
  have image : f a ∈ bs.map some := built ▸ List.mem_map_of_mem isIn
  obtain ⟨b, isIn, same⟩ := List.mem_map.mp image
  exact ⟨b, isIn, same.symm⟩

/-- A part of the results that is a part of the arguments. -/
theorem map_of_mapM {γ : Type} {as : List α} {bs : List β} (built : as.map f = bs.map some)
    {part : β → γ} {part' : α → γ} (same : ∀ a b, f a = some b → part b = part' a) :
    bs.map part = as.map part' := by
  induction as generalizing bs with
  | nil => cases bs with
    | nil => rfl
    | cons => cases built
  | cons a as ih =>
    cases bs with
    | nil => cases built
    | cons b bs =>
      obtain ⟨here, later⟩ := List.cons.inj built
      rw [List.map_cons, List.map_cons, same a b here, ih later]

theorem mapM_isSome_iff {as : List α} :
    (as.mapM f).isSome = true ↔ ∀ a ∈ as, (f a).isSome = true := by
  induction as with
  | nil => simp
  | cons a as ih =>
    rw [List.forall_mem_cons, ← ih, List.mapM_cons]
    cases f a with
    | none => simp
    | some b => cases as.mapM f <;> simp

end Raising

/-! ### Groups -/

section Groups

variable {α κ : Type} [DecidableEq κ] {key : α → κ} {rows : List α}

theorem mem_groupBy {group : κ × List α} :
    group ∈ groupBy key rows ↔
      (∃ row ∈ rows, key row = group.1) ∧ group.2 = rows.filter fun row => key row = group.1 := by
  obtain ⟨k, members⟩ := group
  simp only [groupBy, List.mem_map, List.mem_eraseDups, Prod.mk.injEq]
  constructor
  · rintro ⟨_, ⟨row, isIn, rfl⟩, rfl, rfl⟩
    exact ⟨⟨row, isIn, rfl⟩, rfl⟩
  · rintro ⟨⟨row, isIn, same⟩, filtered⟩
    exact ⟨k, ⟨row, isIn, same⟩, rfl, filtered.symm⟩

theorem nodup_eraseDups (keys : List κ) : keys.eraseDups.Nodup := by
  match keys with
  | [] => simp
  | k :: keys =>
    have shorter := List.length_filter_le (fun other => !other == k) keys
    rw [List.eraseDups_cons, List.nodup_cons, List.mem_eraseDups]
    exact ⟨by simp, nodup_eraseDups _⟩
termination_by keys.length
decreasing_by
  simp only [List.length_cons]
  omega

theorem groupBy_keys : (groupBy key rows).map Prod.fst = (rows.map key).eraseDups := by
  simp [groupBy, Function.comp_def]

theorem groupBy_keys_nodup : ((groupBy key rows).map Prod.fst).Nodup := by
  rw [groupBy_keys]
  exact nodup_eraseDups _

/-- Every row is in the group of its key, and every row of a group is there. -/
theorem forall_groupBy_iff {P : α → Prop} :
    (∀ group ∈ groupBy key rows, ∀ row ∈ group.2, P row) ↔ ∀ row ∈ rows, P row := by
  constructor
  · intro all row isIn
    exact all (key row, rows.filter fun other => key other = key row)
      (mem_groupBy.mpr ⟨⟨row, isIn, rfl⟩, rfl⟩) row (by simp [isIn])
  · intro all group isGroup row isIn
    rw [(mem_groupBy.mp isGroup).2] at isIn
    exact all row (List.mem_filter.mp isIn).1

end Groups

/-! ### Hours -/

section Hours

variable {N F : Type} [LinearOrder N] {python : Python N F} {sources : Rows SourceProfile}
  {rows : List (Nat × Observation)}

theorem readValues_isSome_iff :
    (readValues python.numbers rows).isSome = true ↔ ∀ entry ∈ rows, Readable python entry.2 := by
  rw [readValues, mapM_isSome_iff]
  simp only [List.mem_filter, List.mem_map, decide_eq_true_eq, Readable]
  constructor
  · exact fun all entry isIn there => all _ ⟨⟨entry, isIn, rfl⟩, there⟩
  · rintro all _ ⟨⟨entry, isIn, rfl⟩, there⟩
    exact all entry isIn there

theorem hourSummary_isSome_iff {group : Int × List (Nat × Observation)} :
    (hourSummary python.numbers sources group).isSome = true ↔
      ∀ entry ∈ group.2, Readable python entry.2 := by
  rw [hourSummary, Option.isSome_map, readValues_isSome_iff]

theorem hourSummary_counts {group : Int × List (Nat × Observation)} {item : HourSummary F}
    (built : hourSummary python.numbers sources group = some item) :
    item.hour = group.1 ∧ item.observationCount = group.2.length ∧
      item.processedCount = (group.2.filter fun entry => entry.2.processed).length := by
  obtain ⟨values, -, rfl⟩ := Option.map_eq_some_iff.mp built
  exact ⟨rfl, rfl, rfl⟩

theorem hours_distinct : ((groupBy (fun entry : Nat × Observation => hourOf entry.2.timestamp)
    rows).map fun group => OrderDual.toDual group.1).Nodup := by
  have distinct : ((groupBy (fun entry : Nat × Observation => hourOf entry.2.timestamp)
      rows).map Prod.fst).Nodup := groupBy_keys_nodup
  have nodup := distinct.map OrderDual.toDual.injective
  rwa [List.map_map] at nodup

/-- The hours of the groups go down. -/
theorem newestHours_sorted : (newestHours rows).Pairwise fun a b => b.1 < a.1 :=
  orderBy_strict hours_distinct

theorem mem_newestHours {group : Int × List (Nat × Observation)} :
    group ∈ newestHours rows ↔ (∃ entry ∈ rows, hourOf entry.2.timestamp = group.1) ∧
      group.2 = rows.filter fun entry => hourOf entry.2.timestamp = group.1 := by
  rw [newestHours, mem_orderBy, mem_groupBy]

theorem newestHours_all_iff {P : Nat × Observation → Prop} :
    (∀ group ∈ newestHours rows, ∀ entry ∈ group.2, P entry) ↔ ∀ entry ∈ rows, P entry := by
  simp only [newestHours, mem_orderBy]
  exact forall_groupBy_iff

/-- The newest hours are those that few hours come after. -/
theorem mem_take_newestHours {group : Int × List (Nat × Observation)} {limit : Nat} :
    group ∈ (newestHours rows).take limit ↔
      group ∈ newestHours rows ∧ laterHours rows group.1 < limit := by
  have later : laterHours rows group.1 = ((groupBy (fun entry : Nat × Observation =>
      hourOf entry.2.timestamp) rows).filter fun other =>
        decide (OrderDual.toDual other.1 < OrderDual.toDual group.1)).length := by
    rw [laterHours, ← groupBy_keys, List.filter_map, List.length_map]
    rfl
  rw [newestHours, mem_take_orderBy hours_distinct, mem_orderBy, later]

/-- The items of a summary count the rows of the hours. -/
theorem countsHours_of_mapM {ordered : List (Nat × Observation)} {summary : List (HourSummary F)}
    (perm : ordered.Perm rows)
    (built : (newestHours ordered).map (hourSummary python.numbers sources) = summary.map some) :
    CountsHours rows summary := by
  have hours : summary.map HourSummary.hour = (newestHours ordered).map Prod.fst :=
    map_of_mapM built fun group item made => (hourSummary_counts made).1
  refine ⟨?_, fun hour => ?_, fun item isIn => ?_⟩
  · have sorted : ((newestHours ordered).map Prod.fst).Pairwise fun a b => b < a :=
      List.pairwise_map.mpr newestHours_sorted
    rw [← hours] at sorted
    exact List.pairwise_map.mp sorted
  · have isHour : (∃ item ∈ summary, item.hour = hour) ↔ hour ∈ summary.map HourSummary.hour :=
      List.mem_map.symm
    rw [isHour, hours, List.mem_map]
    simp only [mem_newestHours, ← perm.mem_iff]
    constructor
    · rintro ⟨group, ⟨present, -⟩, rfl⟩
      exact present
    · rintro present
      exact ⟨(hour, ordered.filter fun entry => hourOf entry.2.timestamp = hour), ⟨present, rfl⟩, rfl⟩
  · obtain ⟨group, isGroup, made⟩ := exists_of_mem_mapM built isIn
    obtain ⟨hour, observations, processed⟩ := hourSummary_counts made
    rw [observations, processed, hour, (mem_newestHours.mp isGroup).2, List.filter_filter]
    refine ⟨(perm.filter _).length_eq, (perm.filter _).length_eq.trans ?_⟩
    simp only [Bool.and_comm]

/-- **The summary** is computed iff every value in the window can be read, and its counts do not depend
on the payloads. -/
theorem getSummary_iff (session : Session) (db : ObservationDb) (now hours : Int) :
    (∃ summary, getSummary python.numbers session db now hours = some summary ∧
        CountsHours (window session db now hours) summary) ↔
      ∀ entry ∈ window session db now hours, Readable python entry.2 := by
  have readable : (getSummary python.numbers session db now hours).isSome = true ↔
      ∀ entry ∈ window session db now hours, Readable python entry.2 := by
    rw [getSummary, mapM_isSome_iff]
    simp only [hourSummary_isSome_iff]
    rw [newestHours_all_iff]
    simp only [mem_orderBy, window]
  rw [← readable, Option.isSome_iff_exists]
  constructor
  · rintro ⟨summary, built, -⟩
    exact ⟨summary, built⟩
  · rintro ⟨summary, built⟩
    exact ⟨summary, built, countsHours_of_mapM (orderBy_perm _ _) (mapM_eq_some_iff.mp built)⟩

theorem computeStatsFromBase_iff (session : Session) (db : ObservationDb) (now limit : Int) :
    (∃ stats, computeStatsFromBase python.numbers session db now limit = some stats) ↔
      ∀ entry ∈ active session db,
        laterHours (active session db) (hourOf entry.2.timestamp) < limit.toNat →
          Readable python entry.2 := by
  rw [← Option.isSome_iff_exists, computeStatsFromBase, mapM_isSome_iff]
  simp only [Option.isSome_map, hourSummary_isSome_iff, mem_take_newestHours, mem_newestHours]
  constructor
  · intro all entry isIn newest
    exact all (hourOf entry.2.timestamp, (active session db).filter fun other =>
      hourOf other.2.timestamp = hourOf entry.2.timestamp) ⟨⟨⟨entry, isIn, rfl⟩, rfl⟩, newest⟩ entry
      (List.mem_filter.mpr ⟨isIn, decide_eq_true rfl⟩)
  · rintro all group ⟨⟨-, members⟩, newest⟩ entry isIn
    rw [members] at isIn
    obtain ⟨isIn, same⟩ := List.mem_filter.mp isIn
    exact all entry isIn (of_decide_eq_true same ▸ newest)

end Hours

/-! ### The keys of the ranking -/

section Keys

variable {N F : Type} [LinearOrder N] (python : Python N F)

theorem orZero_proper {value : Json} (proper : Proper value) : Proper (orZero value) := by
  unfold orZero
  split
  · exact .number _
  · exact .number _
  · exact .number _
  · exact proper

/-- What is not there comes first. -/
theorem cmp_decide_beq_lt (p q : Prop) [Decidable p] [Decidable q] :
    (cmp (decide p) (decide q) == .lt) = decide (¬ p ∧ q) := by
  rw [Bool.decide_and, decide_not]
  cases decide p <;> cases decide q <;> rfl

theorem keyLess_eq (a b : Json) :
    keyLess python.numbers a b = (python.keyOrder a b).map (· == .lt) := by
  unfold keyLess Python.keyOrder
  by_cases none : a = .null ∨ b = .null
  · rw [if_pos none, if_pos none, Option.map_some, cmp_decide_beq_lt]
    simp
  · rw [if_neg none, if_neg none, Magnitudes.order, Python.numbers_equal, Python.numbers_less]
    cases python.equal (orZero a) (orZero b) with
    | true => rfl
    | false =>
      cases python.less (orZero a) (orZero b) with
      | none => rfl
      | some isLess => cases isLess <;> rfl

theorem keyOrder_swap {a b : Json} (proper : Proper a) (proper' : Proper b) :
    python.keyOrder b a = (python.keyOrder a b).map Ordering.swap := by
  unfold Python.keyOrder
  by_cases none : a = .null ∨ b = .null
  · rw [if_pos none, if_pos none.symm, Option.map_some, cmp_swap]
  · rw [if_neg none, if_neg fun other => none other.symm]
    exact python.order_swap (orZero_proper proper) (orZero_proper proper')

/-- No value stands above a value. -/
theorem ne_null_of_isLE {a b : Json} {o : Ordering} (compared : python.keyOrder a b = some o)
    (isLE : o.isLE = true) (there : a ≠ .null) : b ≠ .null := by
  rintro rfl
  rw [Python.keyOrder, if_pos (.inr rfl), Option.some.injEq] at compared
  subst compared
  rw [decide_eq_true there, decide_eq_false (by simp : ¬ Json.null ≠ .null)] at isLE
  cases isLE

/-- A value that compares with values above and below it lets them compare. -/
theorem keyOrder_trans {a b c : Json} {o o' : Ordering} (first : python.keyOrder a b = some o)
    (second : python.keyOrder b c = some o') (isLE : o.isLE = true) (isLE' : o'.isLE = true) :
    ∃ o'', python.keyOrder a c = some o'' ∧ o''.isLE = true := by
  by_cases a_null : a = .null
  · rw [Python.keyOrder, if_pos (.inl a_null)]
    refine ⟨_, rfl, ?_⟩
    rw [decide_eq_false (not_not.mpr a_null)]
    cases decide (c ≠ .null) <;> rfl
  · have b_there := ne_null_of_isLE python first isLE a_null
    have c_there := ne_null_of_isLE python second isLE' b_there
    rw [Python.keyOrder, if_neg (by simp [a_null, b_there])] at first
    rw [Python.keyOrder, if_neg (by simp [b_there, c_there])] at second
    rw [Python.keyOrder, if_neg (by simp [a_null, c_there])]
    exact ⟨_, python.order_trans first second isLE isLE',
      Ordering.isLE_then_iff_and.mpr ⟨isLE, .inr isLE'⟩⟩

theorem keyOrder_refl {a : Json} (proper : Proper a) : python.keyOrder a a = some .eq := by
  unfold Python.keyOrder
  by_cases none : a = .null
  · rw [if_pos (.inl none), cmp_self_eq_eq]
  · rw [if_neg (by simpa using none)]
    exact (python.equal_iff_order).mp (python.equal_refl (orZero_proper proper))

theorem keyOrder_isSome_iff {row row' : Observation} :
    (python.keyOrder (valueOf row) (valueOf row')).isSome = true ↔ Comparable python row row' := by
  unfold Python.keyOrder Comparable
  by_cases none : valueOf row = .null ∨ valueOf row' = .null
  · rw [if_pos none]
    refine iff_of_true rfl ?_
    rintro there there'
    exact absurd none (by simp [there, there'])
  · rw [if_neg none]
    rw [not_or] at none
    exact ⟨fun compared _ _ => compared, fun compared => compared none.1 none.2⟩

end Keys

/-! ### Ranks -/

section Ranking

variable {N F : Type} [LinearOrder N] (python : Python N F)

/-- The second observation does not stand above the first. -/
def Ranks (first second : Nat × Observation) : Prop :=
  ∃ o, python.keyOrder (valueOf second.2) (valueOf first.2) = some o ∧ o.isLE = true

variable {python} {entry first second third : Nat × Observation} {rows : List (Nat × Observation)}

theorem Ranks.trans (upper : Ranks python first second) (lower : Ranks python second third) :
    Ranks python first third := by
  obtain ⟨o, compared, isLE⟩ := upper
  obtain ⟨o', compared', isLE'⟩ := lower
  exact keyOrder_trans python compared' compared isLE' isLE

/-- What the order of two observations says about their values. -/
theorem Ranks.null_of_null (ranks : Ranks python first second) (null : valueOf first.2 = .null) :
    valueOf second.2 = .null := by
  obtain ⟨o, compared, isLE⟩ := ranks
  by_contra there
  exact ne_null_of_isLE python compared isLE there null

theorem Ranks.le (ranks : Ranks python first second) {x y : N}
    (isNumber : python.toMagnitudes.of (valueOf first.2) = some x)
    (isNumber' : python.toMagnitudes.of (valueOf second.2) = some y) : y ≤ x := by
  obtain ⟨o, compared, isLE⟩ := ranks
  have own : ∀ {value z}, python.toMagnitudes.of value = some z → value ≠ .null ∧ orZero value = value := by
    intro value z isNumber
    cases value with
    | bool => exact ⟨nofun, rfl⟩
    | number => exact ⟨nofun, rfl⟩
    | null | string | array | object => cases isNumber
  rw [Python.keyOrder, if_neg (by simp [(own isNumber).1, (own isNumber').1]), (own isNumber).2,
    (own isNumber').2, Magnitudes.order_of_number _ isNumber', isNumber, Option.map_some,
    Option.some.injEq] at compared
  subst compared
  rcases Ordering.isLE_iff_eq_lt_or_eq_eq.mp isLE with less | same
  · exact ((cmp_eq_lt_iff _ _).mp less).le
  · exact ((cmp_eq_eq_iff _ _).mp same).le

/-- An observation goes past the ones it stands below, or before them. -/
theorem insertRanked_cons :
    insertRanked python.numbers entry (first :: rows) =
      (python.keyOrder (valueOf entry.2) (valueOf first.2)).bind fun o =>
        if o = .lt then (insertRanked python.numbers entry rows).map (first :: ·)
        else some (entry :: first :: rows) := by
  rw [insertRanked, keyLess_eq]
  cases python.keyOrder (valueOf entry.2) (valueOf first.2) with
  | none => rfl
  | some o =>
    cases o with
    | lt => cases insertRanked python.numbers entry rows <;> rfl
    | eq | gt => rfl

/-- An insertion into ranked observations ranks the new one. -/
theorem insertRanked_sorted (properEntry : Proper (valueOf entry.2))
    (proper : ∀ entry ∈ rows, Proper (valueOf entry.2)) (sorted : rows.Pairwise (Ranks python))
    {inserted : List (Nat × Observation)}
    (built : insertRanked python.numbers entry rows = some inserted) :
    inserted.Perm (entry :: rows) ∧ inserted.Pairwise (Ranks python) := by
  induction rows generalizing inserted with
  | nil =>
    obtain rfl := Option.some.inj built
    exact ⟨.refl _, List.pairwise_singleton _ _⟩
  | cons first rest ih =>
    obtain ⟨below, sortedRest⟩ := List.pairwise_cons.mp sorted
    obtain ⟨properFirst, properRest⟩ := List.forall_mem_cons.mp proper
    rw [insertRanked_cons] at built
    obtain ⟨o, compared, built⟩ := Option.bind_eq_some_iff.mp built
    split at built
    · rename_i less
      subst less
      obtain ⟨later, builtLater, rfl⟩ := Option.map_eq_some_iff.mp built
      obtain ⟨perm, sortedLater⟩ := ih properRest sortedRest builtLater
      refine ⟨(perm.cons first).trans (.swap entry first rest), List.pairwise_cons.mpr ⟨?_, sortedLater⟩⟩
      intro other isIn
      rcases List.mem_cons.mp (perm.mem_iff.mp isIn) with rfl | isIn
      · exact ⟨.lt, compared, rfl⟩
      · exact below other isIn
    · rename_i notLess
      obtain rfl := Option.some.inj built
      have here : Ranks python entry first := by
        refine ⟨o.swap, by rw [keyOrder_swap python properEntry properFirst, compared]; rfl, ?_⟩
        cases o with
        | lt => exact absurd rfl notLess
        | eq | gt => rfl
      refine ⟨.refl _, List.pairwise_cons.mpr ⟨?_, sorted⟩⟩
      intro other isIn
      rcases List.mem_cons.mp isIn with rfl | isIn
      · exact here
      · exact here.trans (below other isIn)

theorem insertRanked_isSome
    (comparable : ∀ other ∈ rows, (python.keyOrder (valueOf entry.2) (valueOf other.2)).isSome = true) :
    (insertRanked python.numbers entry rows).isSome = true := by
  induction rows with
  | nil => rfl
  | cons first rest ih =>
    obtain ⟨here, later⟩ := List.forall_mem_cons.mp comparable
    obtain ⟨o, compared⟩ := Option.isSome_iff_exists.mp here
    rw [insertRanked_cons, compared, Option.bind_some]
    split
    · rw [Option.isSome_map]
      exact ih later
    · rfl

/-- **What is sorted is ranked.** -/
theorem sortRanked_sorted (proper : ∀ entry ∈ rows, Proper (valueOf entry.2))
    {sorted : List (Nat × Observation)} (built : sortRanked python.numbers rows = some sorted) :
    sorted.Perm rows ∧ sorted.Pairwise (Ranks python) := by
  induction rows generalizing sorted with
  | nil =>
    obtain rfl := Option.some.inj built
    exact ⟨.refl _, .nil⟩
  | cons entry rest ih =>
    obtain ⟨properEntry, properRest⟩ := List.forall_mem_cons.mp proper
    rw [sortRanked] at built
    obtain ⟨sortedRest, builtRest, built⟩ := Option.bind_eq_some_iff.mp built
    obtain ⟨perm, ranked⟩ := ih properRest builtRest
    obtain ⟨perm', ranked'⟩ := insertRanked_sorted properEntry
      (fun other isIn => properRest other (perm.mem_iff.mp isIn)) ranked built
    exact ⟨perm'.trans (perm.cons entry), ranked'⟩

/-- **The observations are sorted iff any two of them compare**: what lies between two of them in the
ranking lets them compare. -/
theorem sortRanked_isSome_iff (proper : ∀ entry ∈ rows, Proper (valueOf entry.2)) :
    (sortRanked python.numbers rows).isSome = true ↔
      ∀ entry ∈ rows, ∀ other ∈ rows, Comparable python entry.2 other.2 := by
  simp only [← keyOrder_isSome_iff]
  constructor
  · intro isSome
    obtain ⟨sorted, built⟩ := Option.isSome_iff_exists.mp isSome
    obtain ⟨perm, ranked⟩ := sortRanked_sorted proper built
    let Compare := fun a b : Nat × Observation =>
      (python.keyOrder (valueOf a.2) (valueOf b.2)).isSome = true ∧
        (python.keyOrder (valueOf b.2) (valueOf a.2)).isSome = true
    have symm : Std.Symm Compare := ⟨fun _ _ compare => ⟨compare.2, compare.1⟩⟩
    have pairs : sorted.Pairwise Compare := ranked.imp_of_mem fun {a b} isIn isIn' ranks => by
      obtain ⟨o, compared, -⟩ := ranks
      have swapped := keyOrder_swap python (proper b (perm.mem_iff.mp isIn'))
        (proper a (perm.mem_iff.mp isIn))
      exact ⟨by rw [swapped, compared]; rfl, by rw [compared]; rfl⟩
    have own : ∀ a ∈ sorted, Compare a a := fun a isIn => by
      have same := keyOrder_refl python (proper a (perm.mem_iff.mp isIn))
      exact ⟨by rw [same]; rfl, by rw [same]; rfl⟩
    intro entry isIn other isIn'
    exact (pairs.forall_of_forall own (perm.mem_iff.mpr isIn) (perm.mem_iff.mpr isIn')).1
  · intro comparable
    induction rows with
    | nil => rfl
    | cons entry rest ih =>
      obtain ⟨properEntry, properRest⟩ := List.forall_mem_cons.mp proper
      have before := ih properRest fun other isIn third isIn' =>
        comparable other (List.mem_cons_of_mem _ isIn) third (List.mem_cons_of_mem _ isIn')
      obtain ⟨sorted, built⟩ := Option.isSome_iff_exists.mp before
      rw [sortRanked, built, Option.bind_some]
      refine insertRanked_isSome fun other isIn => ?_
      exact comparable entry List.mem_cons_self other
        (List.mem_cons_of_mem _ ((sortRanked_sorted properRest built).1.mem_iff.mp isIn))

/-! ### The best of each source -/

/-- The first observations of a ranking, with their ranks. -/
def topOf (limit : Nat) (sorted : List (Nat × Observation)) : List TopObservation :=
  (sorted.take limit).zipIdx.map fun ((id, row), i) =>
    { id, timestamp := row.timestamp, value := valueOf row, rank := i + 1 }

theorem length_topOf (limit : Nat) (sorted : List (Nat × Observation)) :
    (topOf limit sorted).length = min limit sorted.length := by
  simp [topOf]

/-- What the items of the list keep of their observations. -/
theorem topOf_map {β : Type} {part : TopObservation → β} {part' : Nat × Observation → β}
    (same : ∀ id row i, part ⟨id, row.timestamp, valueOf row, i⟩ = part' (id, row)) (limit : Nat)
    (sorted : List (Nat × Observation)) :
    (topOf limit sorted).map part = (sorted.take limit).map part' := by
  have first := List.zipIdx_map_fst 0 (sorted.take limit)
  rw [topOf, List.map_map, ← first, List.map_map, first]
  exact List.map_congr_left fun entry _ => same _ _ _

theorem mem_topOf {limit : Nat} {sorted : List (Nat × Observation)} {item : TopObservation}
    (isItem : item ∈ topOf limit sorted) : ∃ entry ∈ sorted, item.id = entry.1 ∧
      item.timestamp = entry.2.timestamp ∧ item.value = valueOf entry.2 := by
  obtain ⟨⟨entry, i⟩, isIn, rfl⟩ := List.mem_map.mp isItem
  have taken : entry ∈ sorted.take limit := by
    rw [← List.zipIdx_map_fst 0 (sorted.take limit)]
    exact List.mem_map.mpr ⟨_, isIn, rfl⟩
  exact ⟨entry, List.mem_of_mem_take taken, rfl, rfl, rfl⟩

/-- A property of the values of ranked observations holds of the list. -/
theorem topOf_pairwise {limit : Nat} {sorted : List (Nat × Observation)} {R : Json → Json → Prop}
    (pairs : sorted.Pairwise fun a b => R (valueOf a.2) (valueOf b.2)) :
    (topOf limit sorted).Pairwise fun a b => R a.value b.value := by
  have values : (topOf limit sorted).map TopObservation.value =
      (sorted.take limit).map fun entry => valueOf entry.2 := topOf_map (fun _ _ _ => rfl) _ _
  have taken : ((sorted.take limit).map fun entry => valueOf entry.2).Pairwise R :=
    List.pairwise_map.mpr (pairs.sublist (List.take_sublist _ _))
  rw [← values] at taken
  exact List.pairwise_map.mp taken

variable {session : Session} {db : ObservationDb}

/-- The value of a stored payload. -/
theorem valueOf_proper {row : Observation} (proper : Proper row.rawData) : Proper (valueOf row) := by
  unfold valueOf
  cases payload : row.rawData with
  | object fields =>
    rw [payload] at proper
    cases proper with
    | object _ values =>
      show Proper ((fields.lookup "value").getD .null)
      cases found : fields.lookup "value" with
      | none => exact .null
      | some value => exact values _ (mem_of_lookup found)
  | null | bool | number | string | array => exact .null

/-- Existing profiles have different names. -/
theorem Stored.source_of_name (stored : Stored db) {id id' : Nat} {row row' : Observation}
    (isRow : db.observations.get id = some row) (isRow' : db.observations.get id' = some row')
    (same : resolveSourceName db.sources row.sourceId = resolveSourceName db.sources row'.sourceId) :
    row.sourceId = row'.sourceId := by
  obtain ⟨profile, found⟩ := stored.profiles isRow
  obtain ⟨profile', found'⟩ := stored.profiles isRow'
  rw [resolveSourceName, resolveSourceName, found, found'] at same
  exact stored.names (Option.filter_eq_some_iff.mp found).1 (Option.filter_eq_some_iff.mp found').1 same

theorem window_ids_nodup (session : Session) (db : ObservationDb) (now hours : Int) :
    ((window session db now hours).map Prod.fst).Nodup := by
  unfold window selectObservations
  exact Rows.select_ids_nodup _ _

theorem mem_window {now hours : Int} {entry : Nat × Observation}
    (isIn : entry ∈ window session db now hours) : db.observations.get entry.1 = some entry.2 := by
  obtain ⟨id, row⟩ := entry
  unfold window selectObservations at isIn
  exact (Rows.mem_select.mp isIn).1

section Groups

variable {now hours : Int} {ordered : List (Nat × Observation)}

/-- The groups of the observations in the window. -/
def sourceGroups (sources : Rows SourceProfile) (ordered : List (Nat × Observation)) :
    List (String × List (Nat × Observation)) :=
  groupBy (fun entry => resolveSourceName sources entry.2.sourceId) ordered

/-- The body of the loop over the groups. -/
def rankGroup (python : Python N F) (limit : Nat) (group : String × List (Nat × Observation)) :
    Option (String × List TopObservation) :=
  (sortRanked python.numbers group.2).map fun sorted => (group.1, topOf limit sorted)

theorem getTopBySource_eq (limit : Int) :
    getTopBySource python.numbers session db now limit hours =
      (sourceGroups db.sources (orderBy newestFirst (window session db now hours))).mapM
        (rankGroup python limit.toNat) := rfl

variable (stored : Stored db) (perm : ordered.Perm (window session db now hours))

include stored perm

/-- The members of a group come from one source. -/
theorem mem_group_iff {source : String} {entry other : Nat × Observation} (isIn : entry ∈ ordered)
    (named : resolveSourceName db.sources entry.2.sourceId = source) :
    other ∈ ordered.filter (fun other =>
        resolveSourceName db.sources other.2.sourceId = source) ↔
      other ∈ ordered ∧ other.2.sourceId = entry.2.sourceId := by
  rw [List.mem_filter, decide_eq_true_eq]
  refine and_congr_right fun isIn' => ⟨fun named' => ?_, fun same => same ▸ named⟩
  exact stored.source_of_name (mem_window (perm.mem_iff.mp isIn'))
    (mem_window (perm.mem_iff.mp isIn)) (named'.trans named.symm)

variable (python) in
theorem rankGroups_isSome_iff (limit : Nat) :
    ((sourceGroups db.sources ordered).mapM (rankGroup python limit)).isSome = true ↔
      ∀ entry ∈ ordered, ∀ other ∈ ordered, entry.2.sourceId = other.2.sourceId →
        Comparable python entry.2 other.2 := by
  have proper : ∀ entry ∈ ordered, Proper (valueOf entry.2) := fun entry isIn =>
    valueOf_proper (stored.objects (mem_window (perm.mem_iff.mp isIn))).1
  rw [mapM_isSome_iff]
  simp only [rankGroup, Option.isSome_map]
  constructor
  · intro all entry isIn other isIn' same
    have isGroup : (resolveSourceName db.sources entry.2.sourceId, ordered.filter fun other =>
        resolveSourceName db.sources other.2.sourceId =
          resolveSourceName db.sources entry.2.sourceId) ∈ sourceGroups db.sources ordered :=
      mem_groupBy.mpr ⟨⟨entry, isIn, rfl⟩, rfl⟩
    have ranked := (sortRanked_isSome_iff fun member isMember =>
      proper member (List.mem_filter.mp isMember).1).mp (all _ isGroup)
    exact ranked entry ((mem_group_iff stored perm isIn rfl).mpr ⟨isIn, rfl⟩) other
      ((mem_group_iff stored perm isIn rfl).mpr ⟨isIn', same.symm⟩)
  · rintro all ⟨source, members⟩ isGroup
    obtain ⟨⟨entry, isIn, named⟩, filtered⟩ := mem_groupBy.mp isGroup
    dsimp only at named filtered ⊢
    rw [filtered]
    refine (sortRanked_isSome_iff fun member isMember =>
      proper member (List.mem_filter.mp isMember).1).mpr fun first isFirst second isSecond => ?_
    obtain ⟨isFirst, same⟩ := (mem_group_iff stored perm isIn named).mp isFirst
    obtain ⟨isSecond, same'⟩ := (mem_group_iff stored perm isIn named).mp isSecond
    exact all first isFirst second isSecond (same.trans same'.symm)

/-- What the groups are ranked to. -/
theorem listsTop_of_mapM {limit : Nat} {bySource : List (String × List TopObservation)}
    (built : (sourceGroups db.sources ordered).map (rankGroup python limit) = bySource.map some) :
    ListsTop python db.sources (window session db now hours) limit bySource := by
  have proper : ∀ entry ∈ ordered, Proper (valueOf entry.2) := fun entry isIn =>
    valueOf_proper (stored.objects (mem_window (perm.mem_iff.mp isIn))).1
  have names : bySource.map Prod.fst = (sourceGroups db.sources ordered).map Prod.fst :=
    map_of_mapM built fun group listed made => by
      obtain ⟨sorted, -, rfl⟩ := Option.map_eq_some_iff.mp made
      rfl
  -- Each list is the head of a ranking of the observations of its source.
  have ranking : ∀ listed ∈ bySource, ∃ sorted : List (Nat × Observation),
      listed.2 = topOf limit sorted ∧ sorted.Pairwise (Ranks python) ∧
        sorted.Perm (ordered.filter fun entry =>
          resolveSourceName db.sources entry.2.sourceId = listed.1) := by
    intro listed isListed
    obtain ⟨group, isGroup, made⟩ := exists_of_mem_mapM built isListed
    obtain ⟨sorted, ranked, rfl⟩ := Option.map_eq_some_iff.mp made
    rw [(mem_groupBy.mp isGroup).2] at ranked
    obtain ⟨perm', pairs⟩ := sortRanked_sorted
      (fun entry isIn => proper entry (List.mem_filter.mp isIn).1) ranked
    exact ⟨sorted, rfl, pairs, perm'⟩
  refine ⟨?_, ?_, ?_, ?_, ?_⟩
  · rw [names]
    exact groupBy_keys_nodup
  · rintro sourceId ⟨entry, isIn, rfl⟩
    have isIn' := perm.mem_iff.mpr isIn
    have isGroup : (resolveSourceName db.sources entry.2.sourceId, ordered.filter fun other =>
        resolveSourceName db.sources other.2.sourceId =
          resolveSourceName db.sources entry.2.sourceId) ∈ sourceGroups db.sources ordered :=
      mem_groupBy.mpr ⟨⟨entry, isIn', rfl⟩, rfl⟩
    obtain ⟨listed, isListed, made⟩ := exists_mem_mapM built isGroup
    obtain ⟨sorted, ranked, rfl⟩ := Option.map_eq_some_iff.mp made
    obtain ⟨perm', -⟩ := sortRanked_sorted
      (fun entry isIn => proper entry (List.mem_filter.mp isIn).1) ranked
    have members : ordered.filter (fun other => resolveSourceName db.sources other.2.sourceId =
        resolveSourceName db.sources entry.2.sourceId) =
          ordered.filter fun other => other.2.sourceId = entry.2.sourceId := by
      refine List.filter_congr fun other isOther => decide_eq_decide.mpr ⟨fun named => ?_, fun same => ?_⟩
      · exact stored.source_of_name (mem_window (perm.mem_iff.mp isOther)) (mem_window isIn) named
      · rw [same]
    refine ⟨_, isListed, ?_⟩
    rw [length_topOf, perm'.length_eq, members, (perm.filter _).length_eq]
  · intro listed isListed
    obtain ⟨sorted, top, -, perm'⟩ := ranking listed isListed
    have ids : (sorted.map Prod.fst).Nodup := by
      have all : (ordered.map Prod.fst).Nodup :=
        (perm.map Prod.fst).nodup_iff.mpr (window_ids_nodup _ _ _ _)
      exact (perm'.map Prod.fst).nodup_iff.mpr (all.sublist (List.filter_sublist.map _))
    rw [top]
    refine ⟨?_, fun item isItem => ?_⟩
    · have ranked : (topOf limit sorted).map TopObservation.id = (sorted.take limit).map Prod.fst :=
        topOf_map (fun _ _ _ => rfl) limit sorted
      rw [ranked]
      exact ids.sublist ((List.take_sublist _ _).map _)
    · obtain ⟨entry, isIn, kept⟩ := mem_topOf isItem
      obtain ⟨isIn, named⟩ := List.mem_filter.mp (perm'.mem_iff.mp isIn)
      exact ⟨entry, perm.mem_iff.mp isIn, of_decide_eq_true named, kept⟩
  · intro listed isListed
    obtain ⟨sorted, top, pairs, -⟩ := ranking listed isListed
    rw [top]
    exact topOf_pairwise (R := fun a b => a = .null → b = .null) (pairs.imp Ranks.null_of_null)
  · intro listed isListed
    obtain ⟨sorted, top, pairs, -⟩ := ranking listed isListed
    rw [top]
    exact topOf_pairwise (R := fun a b => ∀ x y, python.toMagnitudes.of a = some x →
      python.toMagnitudes.of b = some y → y ≤ x) (pairs.imp fun ranks _ _ => ranks.le)

end Groups

/-- **Top by source** is computed iff the values of each source compare, and then it lists the best ones
of each source. -/
theorem getTopBySource_iff (stored : Stored db) (now limit hours : Int) :
    (∃ bySource, getTopBySource python.numbers session db now limit hours = some bySource ∧
        ListsTop python db.sources (window session db now hours) limit.toNat bySource) ↔
      ∀ entry ∈ window session db now hours, ∀ other ∈ window session db now hours,
        entry.2.sourceId = other.2.sourceId → Comparable python entry.2 other.2 := by
  have perm := orderBy_perm newestFirst (window session db now hours)
  have comparable := rankGroups_isSome_iff python stored perm limit.toNat
  simp only [perm.mem_iff] at comparable
  rw [← comparable, ← getTopBySource_eq, Option.isSome_iff_exists]
  constructor
  · rintro ⟨bySource, built, -⟩
    exact ⟨bySource, built⟩
  · rintro ⟨bySource, built⟩
    rw [getTopBySource_eq] at built
    exact ⟨bySource, built, listsTop_of_mapM stored perm (mapM_eq_some_iff.mp built)⟩

end Ranking

/-- **What the payloads have to be.** The summary and the statistics are lost iff `float` does not take a
value of their hours, the ranking iff two values of one source do not compare; otherwise the counts
and the lists are right. -/
theorem analytics_answer_iff {N F : Type} [LinearOrder N] (python : Python N F) (session : Session)
    {db : ObservationDb} (stored : Stored db) (now hours limit hoursBack statsLimit : Int) :
    ((∃ summary, getSummary python.numbers session db now hours = some summary ∧
        CountsHours (window session db now hours) summary) ↔
      ∀ entry ∈ window session db now hours, Readable python entry.2) ∧
    ((∃ bySource, getTopBySource python.numbers session db now limit hoursBack = some bySource ∧
        ListsTop python db.sources (window session db now hoursBack) limit.toNat bySource) ↔
      ∀ entry ∈ window session db now hoursBack, ∀ other ∈ window session db now hoursBack,
        entry.2.sourceId = other.2.sourceId → Comparable python entry.2 other.2) ∧
    ((∃ stats, computeStatsFromBase python.numbers session db now statsLimit = some stats) ↔
      ∀ entry ∈ active session db,
        laterHours (active session db) (hourOf entry.2.timestamp) < statsLimit.toNat →
          Readable python entry.2) :=
  ⟨getSummary_iff session db now hours, getTopBySource_iff stored now limit hoursBack,
    computeStatsFromBase_iff session db now statsLimit⟩

/-! ### One odd row -/

/-- Decimal digits as numbers. -/
def decimals : Python Int Int where
  number literal := decimalNumber literal.toList
  bool value := if value then 1 else 0
  floatOfNumber literal := some (decimalNumber literal.toList)
  floatOfBool value := if value then 1 else 0
  floatOfText text :=
    if text ≠ "" ∧ text.toList.all Char.isDigit then some (decimalNumber text.toList) else none
  average values := values.sum / values.length
  minimum values := values.foldl min (values.headD 0)
  maximum values := values.foldl max (values.headD 0)
  percentage part whole := part * 100 / whole
  share part whole := part / whole
  zero := 0

def valueRow (value : Json) : Observation where
  sourceId := 1
  timestamp := 0
  rawData := .object [("value", value)]
  tenantId := none

/-- A profile, and one observation with this value. -/
def oneValue (value : Json) : ObservationDb where
  observations := Rows.empty.insert (valueRow value)
  sources := Rows.single 1 { id := 1, name := "s", baseUrl := "https://s", tenantId := none }

theorem oneValue_row {value : Json} {id : Nat} {row : Observation}
    (isRow : (oneValue value).observations.get id = some row) : row = valueRow value := by
  rcases Rows.get_insert_cases isRow with ⟨-, same⟩ | ⟨-, none⟩
  · exact same
  · cases none

theorem oneValue_stored {value : Json} (proper : Proper value) : Stored (oneValue value) where
  objects isRow := by
    rw [oneValue_row isRow]
    exact ⟨.object (by simp) (by simpa using proper), _, rfl⟩
  profiles isRow := by
    rw [oneValue_row isRow]
    exact ⟨_, rfl⟩
  names := by
    have only : ∀ {id profile}, (oneValue value).sources.get id = some profile → id = 1 := by
      intro id profile found
      by_contra other
      rw [oneValue, Rows.get_single_of_ne other] at found
      cases found
    intro id id' profile profile' found found' _
    exact (only found).trans (only found').symm

theorem analytics_answer_number : ∃ summary,
    getSummary decimals.numbers { tenantId := none } (oneValue (.number "5")) 0 24 = some summary ∧
      CountsHours (window { tenantId := none } (oneValue (.number "5")) 0 24) summary := by
  refine (analytics_answer_iff decimals { tenantId := none } (oneValue_stored (.number "5")) 0 24 5 168
    24).1.mpr fun entry isIn => ?_
  rw [oneValue_row (mem_window isIn)]
  exact fun _ => rfl

/-- `float` does not take the text of one observation, and the whole summary is lost. -/
theorem text_fails_summary : Stored (oneValue (.string "abc")) ∧
    getSummary decimals.numbers { tenantId := none } (oneValue (.string "abc")) 0 24 = none :=
  ⟨oneValue_stored (.string "abc"), by decide⟩

end ApiObservatory.Analytics
