import ApiObservatory.Foundation.Json
import Mathlib.Data.String.Basic
import Mathlib.Order.Compare

/-
The order of JSON values in a language without an order between kinds.

Numbers and booleans are compared by their value, texts and arrays lexicographically, and objects only
by `==`. A comparison of other values with `<` raises. `order` puts `==` and `<` together; where it is
defined it is transitive (`order_trans`) and reverses with its arguments (`order_swap`).
-/

namespace ApiObservatory.Foundation

/-! ### Values -/

/-- The elements of an array, and the values of the fields of an object. -/
def Json.parts : Json → List Json
  | .array elements => elements
  | .object fields => fields.map Prod.snd
  | _ => []

theorem Json.sizeOf_lt_of_mem_parts {part value : Json} (isPart : part ∈ value.parts) :
    sizeOf part < sizeOf value := by
  cases value with
  | array elements =>
    have : sizeOf part < sizeOf elements := List.sizeOf_lt_of_mem isPart
    simp only [Json.array.sizeOf_spec]
    omega
  | object fields =>
    obtain ⟨⟨key, part⟩, isIn, rfl⟩ := List.mem_map.mp isPart
    have := List.sizeOf_lt_of_mem isIn
    simp only [Prod.mk.sizeOf_spec] at this
    simp only [Json.object.sizeOf_spec]
    omega
  | null | bool | number | string => cases isPart

/-- Induction over the parts of a value. -/
theorem Json.inductionParts {P : Json → Prop}
    (step : ∀ value : Json, (∀ part ∈ value.parts, P part) → P value) (value : Json) : P value :=
  step value fun part isPart =>
    have := Json.sizeOf_lt_of_mem_parts isPart
    Json.inductionParts step part
termination_by sizeOf value

/-- The keys of an object are distinct, at every depth. -/
inductive Proper : Json → Prop where
  | null : Proper .null
  | bool (value : Bool) : Proper (.bool value)
  | number (literal : String) : Proper (.number literal)
  | string (text : String) : Proper (.string text)
  | array {elements : List Json} : (∀ value ∈ elements, Proper value) → Proper (.array elements)
  | object {fields : List (String × Json)} : (fields.map Prod.fst).Nodup →
      (∀ field ∈ fields, Proper field.2) → Proper (.object fields)

/-- A field of an object with distinct keys is found by its key. -/
theorem lookup_of_mem {fields : List (String × Json)} (distinct : (fields.map Prod.fst).Nodup)
    {field : String × Json} (isIn : field ∈ fields) : fields.lookup field.1 = some field.2 := by
  induction fields with
  | nil => cases isIn
  | cons first fields ih =>
    obtain ⟨fresh, distinct⟩ := List.nodup_cons.mp distinct
    rcases List.mem_cons.mp isIn with rfl | isIn
    · exact List.lookup_cons_self
    · have other : field.1 ≠ first.1 := fun same =>
        fresh (same ▸ List.mem_map_of_mem isIn)
      rw [List.lookup_cons, beq_eq_false_iff_ne.mpr other]
      exact ih distinct isIn

theorem mem_of_lookup {fields : List (String × Json)} {key : String} {value : Json}
    (found : fields.lookup key = some value) : (key, value) ∈ fields := by
  obtain ⟨before, after, rfl, -⟩ := List.lookup_eq_some_iff.mp found
  simp

/-- The values of the literals of numbers, and of the booleans. -/
structure Magnitudes (N : Type) where
  number : String → N
  bool : Bool → N

namespace Magnitudes

variable {N : Type} [LinearOrder N] (magnitudes : Magnitudes N)

/-- The number that a value is. -/
def of : Json → Option N
  | .number literal => some (magnitudes.number literal)
  | .bool value => some (magnitudes.bool value)
  | _ => none

mutual

/-- `a == b`. -/
def equal : Json → Json → Bool
  | .null, .null => true
  | .bool a, b => magnitudes.of b == some (magnitudes.bool a)
  | .number a, b => magnitudes.of b == some (magnitudes.number a)
  | .string a, .string b => a == b
  | .array a, .array b => equalElements a b
  | .object a, .object b => a.length == b.length && equalFields a b
  | _, _ => false

def equalElements : List Json → List Json → Bool
  | [], [] => true
  | a :: as, b :: bs => equal a b && equalElements as bs
  | _, _ => false

def equalFields : List (String × Json) → List (String × Json) → Bool
  | [], _ => true
  | (key, a) :: fields, other =>
      (match other.lookup key with
        | some b => equal a b
        | none => false) && equalFields fields other

end

mutual

/-- `a < b`; `none` is a `TypeError`. -/
def less : Json → Json → Option Bool
  | .bool a, b => (magnitudes.of b).map fun y => decide (magnitudes.bool a < y)
  | .number a, b => (magnitudes.of b).map fun y => decide (magnitudes.number a < y)
  | .string a, .string b => some (decide (a < b))
  | .array a, .array b => lessElements a b
  | _, _ => none

/-- The first elements that differ decide, and then the lengths. -/
def lessElements : List Json → List Json → Option Bool
  | [], b => some (!b.isEmpty)
  | _ :: _, [] => some false
  | a :: as, b :: bs => if magnitudes.equal a b then lessElements as bs else less a b

end

/-- How two values compare, if they do. -/
def order (a b : Json) : Option Ordering :=
  if magnitudes.equal a b then some .eq
  else (magnitudes.less a b).map fun isLess => if isLess then .lt else .gt

/-! ### Kind by kind -/

section KindByKind

attribute [local simp] equal equalElements equalFields less lessElements

theorem ite_cmp {α : Type} [LinearOrder α] (x y : α) :
    (if x = y then some Ordering.eq else some (if x < y then .lt else .gt)) = some (cmp x y) := by
  rcases lt_trichotomy x y with less | same | greater
  · rw [if_neg less.ne, if_pos less, less.cmp_eq_lt]
  · rw [if_pos same, same.cmp_eq_eq]
  · rw [if_neg greater.ne', if_neg greater.not_gt, greater.cmp_eq_gt]

theorem order_of_number {a : Json} {x : N} (isNumber : magnitudes.of a = some x) (b : Json) :
    magnitudes.order a b = (magnitudes.of b).map (cmp x) := by
  have values : magnitudes.equal a b = (magnitudes.of b == some x) ∧
      magnitudes.less a b = (magnitudes.of b).map fun y => decide (x < y) := by
    cases a with
    | bool value => cases isNumber; exact ⟨by rw [equal], by rw [less]⟩
    | number literal => cases isNumber; exact ⟨by rw [equal], by rw [less]⟩
    | null | string | array | object => cases isNumber
  rw [order, values.1, values.2]
  cases magnitudes.of b with
  | none => rfl
  | some y =>
    rw [Option.map_some (f := cmp x), ← ite_cmp]
    by_cases same : x = y
    · simp [same]
    · simp [same, Ne.symm same]

theorem order_string (a b : String) : magnitudes.order (.string a) (.string b) = some (cmp a b) := by
  rw [← ite_cmp, order]
  simp

theorem order_object (a b : List (String × Json)) :
    magnitudes.order (.object a) (.object b) =
      if magnitudes.equal (.object a) (.object b) then some .eq else none := by
  simp [order]

theorem order_null (b : Json) : magnitudes.order .null b = if b = .null then some .eq else none := by
  cases b <;> simp [order]

theorem order_array_nil (b : List Json) :
    magnitudes.order (.array []) (.array b) = some (if b.isEmpty then .eq else .lt) := by
  cases b <;> simp [order]

theorem order_array_cons (a : Json) (as : List Json) :
    magnitudes.order (.array (a :: as)) (.array []) = some .gt := by
  simp [order]

theorem order_array_cons_cons (a b : Json) (as bs : List Json) :
    magnitudes.order (.array (a :: as)) (.array (b :: bs)) =
      (magnitudes.order a b).bind fun first =>
        if first = .eq then magnitudes.order (.array as) (.array bs) else some first := by
  cases same : magnitudes.equal a b with
  | true =>
    simp only [order, equal, equalElements, less, lessElements, same, Bool.true_and, if_true,
      Option.bind_some]
    rfl
  | false =>
    simp only [order, equal, equalElements, less, lessElements, same, Bool.false_and,
      Bool.false_eq_true, if_false]
    cases magnitudes.less a b with
    | none => rfl
    | some isLess => cases isLess <;> rfl

/-- Objects are equal iff they have the same number of fields, and those of one are in the other. -/
theorem equal_object {a b : List (String × Json)} :
    magnitudes.equal (.object a) (.object b) = true ↔ a.length = b.length ∧
      ∀ field ∈ a, ∃ value, b.lookup field.1 = some value ∧
        magnitudes.equal field.2 value = true := by
  have fields : ∀ fields : List (String × Json), magnitudes.equalFields fields b = true ↔
      ∀ field ∈ fields, ∃ value, b.lookup field.1 = some value ∧
        magnitudes.equal field.2 value = true := by
    intro fields
    induction fields with
    | nil => simp
    | cons field fields ih =>
      obtain ⟨key, a⟩ := field
      rw [equalFields, Bool.and_eq_true, ih, List.forall_mem_cons]
      cases b.lookup key <;> simp
  rw [equal, Bool.and_eq_true, beq_iff_eq, fields]

theorem equal_iff_order {a b : Json} :
    magnitudes.equal a b = true ↔ magnitudes.order a b = some .eq := by
  rw [order]
  split
  · exact iff_of_true ‹_› rfl
  · refine iff_of_false ‹_› ?_
    cases magnitudes.less a b with
    | none => simp
    | some isLess => cases isLess <;> simp

/-- A value that compares with a value is of its kind. -/
inductive SameKind : Json → Json → Prop where
  | null : SameKind .null .null
  | number {a b : Json} {x y : N} : magnitudes.of a = some x → magnitudes.of b = some y → SameKind a b
  | string (a b : String) : SameKind (.string a) (.string b)
  | array (a b : List Json) : SameKind (.array a) (.array b)
  | object (a b : List (String × Json)) : SameKind (.object a) (.object b)

theorem sameKind_of_order {a b : Json} {o : Ordering} (compared : magnitudes.order a b = some o) :
    magnitudes.SameKind a b := by
  cases a with
  | null =>
    rw [order_null] at compared
    split at compared
    · rename_i same
      subst same
      exact .null
    · cases compared
  | bool value =>
    rw [magnitudes.order_of_number (a := .bool value) rfl] at compared
    obtain ⟨y, isNumber, -⟩ := Option.map_eq_some_iff.mp compared
    exact .number (a := .bool value) rfl isNumber
  | number literal =>
    rw [magnitudes.order_of_number (a := .number literal) rfl] at compared
    obtain ⟨y, isNumber, -⟩ := Option.map_eq_some_iff.mp compared
    exact .number (a := .number literal) rfl isNumber
  | string text =>
    cases b with
    | string other => exact .string text other
    | null | bool | number | array | object => simp [order] at compared
  | array elements =>
    cases b with
    | array others => exact .array elements others
    | null | bool | number | string | object => simp [order] at compared
  | object fields =>
    cases b with
    | object others => exact .object fields others
    | null | bool | number | string | array => simp [order] at compared

end KindByKind

/-! ### Equality -/

theorem equal_of_number {a b : Json} {x y : N} (isNumber : magnitudes.of a = some x)
    (isNumber' : magnitudes.of b = some y) : magnitudes.equal a b = true ↔ x = y := by
  rw [equal_iff_order, magnitudes.order_of_number isNumber, isNumber', Option.map_some,
    Option.some.injEq, cmp_eq_eq_iff]

theorem equal_string {a b : String} : magnitudes.equal (.string a) (.string b) = true ↔ a = b := by
  rw [equal, beq_iff_eq]

/-- Arrays are equal element by element. -/
theorem equal_array {a b : List Json} : magnitudes.equal (.array a) (.array b) = true ↔
    List.Forall₂ (fun value other => magnitudes.equal value other = true) a b := by
  rw [equal]
  induction a generalizing b with
  | nil => cases b <;> simp [equalElements]
  | cons value a ih => cases b <;> simp [equalElements, ih]

theorem equal_refl {a : Json} (proper : Proper a) : magnitudes.equal a a = true := by
  induction a using Json.inductionParts with
  | step a ih =>
    cases proper with
    | null => rw [equal]
    | bool value => exact (magnitudes.equal_of_number (a := .bool value) rfl rfl).mpr rfl
    | number literal => exact (magnitudes.equal_of_number (a := .number literal) rfl rfl).mpr rfl
    | string text => exact magnitudes.equal_string.mpr rfl
    | array proper =>
      exact magnitudes.equal_array.mpr (List.forall₂_same.mpr fun value isIn =>
        ih value isIn (proper value isIn))
    | object distinct proper =>
      exact magnitudes.equal_object.mpr ⟨rfl, fun field isIn =>
        ⟨field.2, lookup_of_mem distinct isIn, ih field.2 (List.mem_map_of_mem isIn) (proper field isIn)⟩⟩

/-! ### The order -/

omit [LinearOrder N] in
theorem SameKind.symm {a b : Json} (same : magnitudes.SameKind a b) : magnitudes.SameKind b a := by
  cases same with
  | null => exact .null
  | number first second => exact .number second first
  | string => exact .string _ _
  | array => exact .array _ _
  | object => exact .object _ _

/-- The keys of an object are those of an equal one. -/
theorem mem_keys_of_equal {a b : List (String × Json)} (distinct : (a.map Prod.fst).Nodup)
    (same : magnitudes.equal (.object a) (.object b) = true) {key : String}
    (isKey : key ∈ b.map Prod.fst) : key ∈ a.map Prod.fst := by
  obtain ⟨length, fields⟩ := magnitudes.equal_object.mp same
  have within : a.map Prod.fst ⊆ b.map Prod.fst := by
    intro key isKey
    obtain ⟨field, isIn, rfl⟩ := List.mem_map.mp isKey
    obtain ⟨value, found, -⟩ := fields field isIn
    exact List.mem_map.mpr ⟨_, mem_of_lookup found, rfl⟩
  have perm := (List.subperm_of_subset distinct within).perm_of_length_le (by simp [length])
  exact perm.mem_iff.mpr isKey

/-- The first elements that differ decide in both directions. -/
theorem order_swap_array {a b : List Json}
    (elements : ∀ value ∈ a, ∀ other ∈ b,
      magnitudes.order other value = (magnitudes.order value other).map Ordering.swap) :
    magnitudes.order (.array b) (.array a) =
      (magnitudes.order (.array a) (.array b)).map Ordering.swap := by
  induction a generalizing b with
  | nil =>
    cases b with
    | nil => rw [order_array_nil]; rfl
    | cons other b => rw [order_array_nil, order_array_cons]; rfl
  | cons value a ih =>
    cases b with
    | nil => rw [order_array_nil, order_array_cons]; rfl
    | cons other b =>
      have rest := ih fun value isIn other isIn' =>
        elements value (List.mem_cons_of_mem _ isIn) other (List.mem_cons_of_mem _ isIn')
      rw [order_array_cons_cons, order_array_cons_cons,
        elements value List.mem_cons_self other List.mem_cons_self]
      cases magnitudes.order value other with
      | none => rfl
      | some o =>
        cases o with
        | eq => simpa using rest
        | lt | gt => rfl

theorem equal_swap_object {a b : List (String × Json)} (distinct : (a.map Prod.fst).Nodup)
    (distinct' : (b.map Prod.fst).Nodup)
    (values : ∀ field ∈ a, ∀ field' ∈ b,
      magnitudes.order field'.2 field.2 = (magnitudes.order field.2 field'.2).map Ordering.swap)
    (same : magnitudes.equal (.object a) (.object b) = true) :
    magnitudes.equal (.object b) (.object a) = true := by
  obtain ⟨length, fields⟩ := magnitudes.equal_object.mp same
  refine magnitudes.equal_object.mpr ⟨length.symm, ?_⟩
  rintro ⟨key, other⟩ isIn
  obtain ⟨⟨key, value⟩, isIn', rfl⟩ :=
    List.mem_map.mp (magnitudes.mem_keys_of_equal distinct same (List.mem_map_of_mem isIn))
  obtain ⟨other', found, equal⟩ := fields _ isIn'
  obtain rfl : other' = other := Option.some.inj (found.symm.trans (lookup_of_mem distinct' isIn))
  refine ⟨value, lookup_of_mem distinct isIn', magnitudes.equal_iff_order.mpr ?_⟩
  rw [values _ isIn' _ isIn, magnitudes.equal_iff_order.mp equal]
  rfl

theorem order_swap {a b : Json} (proper : Proper a) (proper' : Proper b) :
    magnitudes.order b a = (magnitudes.order a b).map Ordering.swap := by
  induction a using Json.inductionParts generalizing b with
  | step a ih =>
    by_cases kind : magnitudes.SameKind a b
    · cases kind with
      | null => rw [order_null]; rfl
      | number first second =>
        rw [magnitudes.order_of_number first, magnitudes.order_of_number second, first, second,
          Option.map_some, Option.map_some, Option.map_some, cmp_swap]
      | string a b => rw [order_string, order_string, Option.map_some, cmp_swap]
      | array a b =>
        cases proper with
        | array proper =>
          cases proper' with
          | array proper' =>
            exact magnitudes.order_swap_array fun value isIn other isIn' =>
              ih value isIn (proper value isIn) (proper' other isIn')
      | object a b =>
        cases proper with
        | object distinct proper =>
          cases proper' with
          | object distinct' proper' =>
            have values : ∀ field ∈ a, ∀ field' ∈ b, magnitudes.order field'.2 field.2 =
                (magnitudes.order field.2 field'.2).map Ordering.swap := fun field isIn field' isIn' =>
              ih field.2 (List.mem_map_of_mem isIn) (proper field isIn) (proper' field' isIn')
            have values' : ∀ field' ∈ b, ∀ field ∈ a, magnitudes.order field.2 field'.2 =
                (magnitudes.order field'.2 field.2).map Ordering.swap := by
              intro field' isIn' field isIn
              rw [values field isIn field' isIn', Option.map_map]
              simp [Function.comp_def]
            have both : magnitudes.equal (.object b) (.object a) =
                magnitudes.equal (.object a) (.object b) := Bool.eq_iff_iff.mpr
              ⟨magnitudes.equal_swap_object distinct' distinct values',
                magnitudes.equal_swap_object distinct distinct' values⟩
            rw [order_object, order_object, both]
            split <;> rfl
    · have none : ∀ a b, ¬ magnitudes.SameKind a b → magnitudes.order a b = none :=
        fun a b other => Option.eq_none_iff_forall_ne_some.mpr fun o compared =>
          other (magnitudes.sameKind_of_order compared)
      rw [none a b kind, none b a fun same => kind (SameKind.symm magnitudes same)]
      rfl

/-! ### Chains -/

theorem cmp_then {α : Type} [LinearOrder α] {x y z : α} (isLE : (cmp x y).isLE = true)
    (isLE' : (cmp y z).isLE = true) : cmp x z = (cmp x y).then (cmp y z) := by
  rcases lt_trichotomy x y with less | rfl | greater
  · have least : x < z := by
      rcases lt_trichotomy y z with less' | rfl | greater'
      · exact less.trans less'
      · exact less
      · rw [greater'.cmp_eq_gt] at isLE'
        cases isLE'
    rw [least.cmp_eq_lt, less.cmp_eq_lt]
    rfl
  · rw [cmp_self_eq_eq]
    rfl
  · rw [greater.cmp_eq_gt] at isLE
    cases isLE

theorem order_trans_array {a b c : List Json} {o o' : Ordering}
    (elements : ∀ value ∈ a, ∀ {other third o o'}, magnitudes.order value other = some o →
      magnitudes.order other third = some o' → o.isLE = true → o'.isLE = true →
      magnitudes.order value third = some (o.then o'))
    (first : magnitudes.order (.array a) (.array b) = some o)
    (second : magnitudes.order (.array b) (.array c) = some o') (isLE : o.isLE = true)
    (isLE' : o'.isLE = true) : magnitudes.order (.array a) (.array c) = some (o.then o') := by
  induction a generalizing b c o o' with
  | nil =>
    rw [order_array_nil] at first ⊢
    obtain rfl := Option.some.inj first
    cases b with
    | nil =>
      rw [order_array_nil] at second
      exact second
    | cons other b =>
      cases c with
      | nil =>
        rw [order_array_cons] at second
        cases second
        cases isLE'
      | cons third c => rfl
  | cons value a ih =>
    cases b with
    | nil =>
      rw [order_array_cons] at first
      cases first
      cases isLE
    | cons other b =>
      cases c with
      | nil =>
        rw [order_array_cons] at second
        cases second
        cases isLE'
      | cons third c =>
        rw [order_array_cons_cons] at first second ⊢
        obtain ⟨p, head, first⟩ := Option.bind_eq_some_iff.mp first
        obtain ⟨q, head', second⟩ := Option.bind_eq_some_iff.mp second
        have here := elements value List.mem_cons_self head head'
        by_cases p_eq : p = .eq
        · subst p_eq
          rw [if_pos rfl] at first
          by_cases q_eq : q = .eq
          · subst q_eq
            rw [if_pos rfl] at second
            rw [here rfl rfl]
            exact ih (fun value isIn => elements value (List.mem_cons_of_mem _ isIn)) first second
              isLE isLE'
          · rw [if_neg q_eq] at second
            cases second
            obtain rfl := (Ordering.isLE_iff_eq_lt_or_eq_eq.mp isLE').resolve_right q_eq
            rw [here rfl isLE']
            rcases Ordering.isLE_iff_eq_lt_or_eq_eq.mp isLE with rfl | rfl <;> rfl
        · rw [if_neg p_eq] at first
          cases first
          have isLE'' : q.isLE = true := by
            by_cases q_eq : q = .eq
            · rw [q_eq]
              rfl
            · rw [if_neg q_eq] at second
              cases second
              exact isLE'
          obtain rfl := (Ordering.isLE_iff_eq_lt_or_eq_eq.mp isLE).resolve_right p_eq
          rw [here isLE isLE'']
          rfl

/-- **The order is transitive** where it is defined, and what lies between two values that compare with
it lets them compare. -/
theorem order_trans {a b c : Json} {o o' : Ordering} (first : magnitudes.order a b = some o)
    (second : magnitudes.order b c = some o') (isLE : o.isLE = true) (isLE' : o'.isLE = true) :
    magnitudes.order a c = some (o.then o') := by
  induction a using Json.inductionParts generalizing b c o o' with
  | step a ih =>
    cases magnitudes.sameKind_of_order first with
    | null =>
      rw [order_null] at first
      cases first
      exact second
    | number isNumber isNumber' =>
      rw [magnitudes.order_of_number isNumber'] at second
      obtain ⟨z, isNumber'', rfl⟩ := Option.map_eq_some_iff.mp second
      rw [magnitudes.order_of_number isNumber, isNumber', Option.map_some, Option.some.injEq] at first
      subst first
      rw [magnitudes.order_of_number isNumber, isNumber'', Option.map_some, cmp_then isLE isLE']
    | string a b =>
      cases magnitudes.sameKind_of_order second with
      | number none => cases none
      | string _ c =>
        rw [order_string, Option.some.injEq] at first second ⊢
        subst first second
        exact cmp_then isLE isLE'
    | array a b =>
      cases magnitudes.sameKind_of_order second with
      | number none => cases none
      | array _ c =>
        exact magnitudes.order_trans_array (fun value isIn _ _ _ _ => ih value isIn) first second isLE
          isLE'
    | object a b =>
      cases magnitudes.sameKind_of_order second with
      | number none => cases none
      | object _ c =>
        have isEq : ∀ {a b : List (String × Json)} {o : Ordering},
            magnitudes.order (.object a) (.object b) = some o → o = .eq := by
          intro a b o compared
          rw [order_object] at compared
          split at compared <;> cases compared
          rfl
        obtain rfl := isEq first
        obtain rfl := isEq second
        obtain ⟨length, fields⟩ := magnitudes.equal_object.mp (magnitudes.equal_iff_order.mpr first)
        obtain ⟨length', fields'⟩ := magnitudes.equal_object.mp (magnitudes.equal_iff_order.mpr second)
        refine magnitudes.equal_iff_order.mp (magnitudes.equal_object.mpr
          ⟨length.trans length', fun field isIn => ?_⟩)
        obtain ⟨other, found, same⟩ := fields field isIn
        obtain ⟨third, found', same'⟩ := fields' _ (mem_of_lookup found)
        refine ⟨third, found', magnitudes.equal_iff_order.mpr ?_⟩
        exact ih field.2 (List.mem_map_of_mem isIn) (magnitudes.equal_iff_order.mp same)
          (magnitudes.equal_iff_order.mp same') rfl rfl

end Magnitudes

end ApiObservatory.Foundation
