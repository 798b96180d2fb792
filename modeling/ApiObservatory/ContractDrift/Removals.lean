import ApiObservatory.ContractDrift.Flattening
import ApiObservatory.Foundation.Text

/-
Removed paths (`_diff_contract` and `_is_below_inconclusive_array` in
`services/ingestor/repositories/contract_drift.py`).

A removal is not reported below an array without inspected elements, which the code decides by
prefixes of flattened paths. When no key holds a dot or a bracket, a path can be read back as its
steps: an array path followed by `[]` is a prefix of a path exactly when the path leads through the
elements of the array. The decision is then one about the tree of the payload.
-/

namespace ApiObservatory.ContractPaths

open Foundation

/-! ### Paths that can be read back -/

def plainKey (key : String) : Bool := key.toList.all fun c => c != '.' && c != '[' && c != ']'

mutual

/-- No key of the value holds a dot or a bracket. -/
def plainKeys : Json → Bool
  | .array elements => plainElements elements
  | .object fields => plainFields fields
  | _ => true

def plainElements : List Json → Bool
  | [] => true
  | element :: rest => plainKeys element && plainElements rest

def plainFields : List (String × Json) → Bool
  | [] => true
  | (key, child) :: rest => plainKey key && plainKeys child && plainFields rest

end

/-- The characters that steps begin with, and the closing bracket. -/
def IsMark (c : Char) : Prop := c = '.' ∨ c = '[' ∨ c = ']'

def PlainSteps (steps : List PathStep) : Prop := ∀ key, .member key ∈ steps → plainKey key = true

/-- The characters of steps. -/
def stepChars (steps : List PathStep) : List Char := steps.flatMap fun step => step.text.toList

section Plain

variable {key key' : String} {steps steps' : List PathStep}

theorem unmarked_of_plainKey (plain : plainKey key = true) : ∀ c ∈ key.toList, ¬ IsMark c := by
  intro c mem mark
  have unmarked := List.all_eq_true.mp plain c mem
  rcases mark with rfl | rfl | rfl <;> simp at unmarked

theorem toList_pathFrom (path : String) (steps : List PathStep) :
    (pathFrom path steps).toList = path.toList ++ stepChars steps := by
  induction steps generalizing path with
  | nil => simp [pathFrom, stepChars]
  | cons step rest ih =>
    rw [pathFrom, ih, String.toList_append, List.append_assoc]
    rfl

theorem stepChars_member (key : String) (rest : List PathStep) :
    stepChars (.member key :: rest) = '.' :: (key.toList ++ stepChars rest) := by
  simp [stepChars, PathStep.text]

theorem stepChars_element (rest : List PathStep) :
    stepChars (.element :: rest) = '[' :: ']' :: stepChars rest := rfl

theorem beginsWith_stepChars (steps : List PathStep) :
    stepChars steps = [] ∨ BeginsWith IsMark (stepChars steps) := by
  match steps with
  | [] => exact .inl rfl
  | .member key :: rest =>
    rw [stepChars_member]
    exact .inr (.inl rfl)
  | .element :: rest => exact .inr (.inr (.inl rfl))

theorem beginsWith_element (steps : List PathStep) :
    BeginsWith IsMark (stepChars (steps ++ [.element])) := by
  refine (beginsWith_stepChars _).resolve_left fun empty => ?_
  simp [stepChars, PathStep.text] at empty

/-- Steps to the elements of an array are a prefix when their characters are. -/
theorem prefix_of_stepChars (plain : PlainSteps steps) (plain' : PlainSteps steps')
    (isPrefix : stepChars (steps ++ [.element]) <+: stepChars steps') : steps ++ [.element] <+: steps' := by
  induction steps generalizing steps' with
  | nil =>
    match steps' with
    | [] => cases List.prefix_nil.mp isPrefix
    | .element :: rest => exact List.prefix_append [.element] rest
    | .member key :: rest =>
      rw [stepChars_member] at isPrefix
      cases (List.cons_prefix_cons.mp isPrefix).1
  | cons step steps ih =>
    have later : PlainSteps steps := fun key mem => plain key (List.mem_cons_of_mem _ mem)
    rw [List.cons_append] at isPrefix
    match step, steps' with
    | .element, [] => cases List.prefix_nil.mp isPrefix
    | .element, .member key :: rest =>
      rw [stepChars_element, stepChars_member] at isPrefix
      cases (List.cons_prefix_cons.mp isPrefix).1
    | .element, .element :: rest =>
      rw [stepChars_element, stepChars_element, List.cons_prefix_cons, List.cons_prefix_cons] at isPrefix
      have later' : PlainSteps rest := fun key mem => plain' key (List.mem_cons_of_mem _ mem)
      exact List.cons_prefix_cons.mpr ⟨rfl, ih later later' isPrefix.2.2⟩
    | .member key, [] =>
      rw [stepChars_member] at isPrefix
      cases List.prefix_nil.mp isPrefix
    | .member key, .element :: rest =>
      rw [stepChars_member, stepChars_element] at isPrefix
      cases (List.cons_prefix_cons.mp isPrefix).1
    | .member key, .member key' :: rest =>
      rw [stepChars_member, stepChars_member, List.cons_prefix_cons] at isPrefix
      have later' : PlainSteps rest := fun key mem => plain' key (List.mem_cons_of_mem _ mem)
      obtain ⟨same, tails⟩ := word_eq_of_prefix (unmarked_of_plainKey (plain key List.mem_cons_self))
        (unmarked_of_plainKey (plain' key' List.mem_cons_self)) (beginsWith_element steps)
        (beginsWith_stepChars rest) isPrefix.2
      rw [String.toList_injective same]
      exact List.cons_prefix_cons.mpr ⟨rfl, ih later later' tails⟩

/-- **A path is below an array** when it begins with the path of its elements. -/
theorem prefix_of_pathFrom (plainFirst : plainKey key = true) (plain : PlainSteps steps)
    (plainFirst' : plainKey key' = true) (plain' : PlainSteps steps')
    (isPrefix : startsWith (pathFrom key' steps') (pathFrom key steps ++ "[]") = true) :
    key = key' ∧ steps ++ [.element] <+: steps' := by
  have elements : pathFrom key steps ++ "[]" = pathFrom key (steps ++ [.element]) :=
    (pathFrom_append key steps [.element]).symm
  rw [startsWith, List.isPrefixOf_iff_prefix, elements, toList_pathFrom, toList_pathFrom] at isPrefix
  obtain ⟨same, tails⟩ := word_eq_of_prefix (unmarked_of_plainKey plainFirst)
    (unmarked_of_plainKey plainFirst') (beginsWith_element steps) (beginsWith_stepChars steps') isPrefix
  exact ⟨String.toList_injective same, prefix_of_stepChars plain plain' tails⟩

end Plain

/-! ### Plain payloads -/

theorem plainFields_iff {fields : List (String × Json)} :
    plainFields fields = true ↔ ∀ item ∈ fields, plainKey item.1 = true ∧ plainKeys item.2 = true := by
  induction fields with
  | nil => simp [plainFields]
  | cons item rest ih => simp [plainFields, ih]

theorem plainElements_iff {elements : List Json} :
    plainElements elements = true ↔ ∀ element ∈ elements, plainKeys element = true := by
  induction elements with
  | nil => simp [plainElements]
  | cons element rest ih => simp [plainElements, ih]

theorem Occurs.plainSteps {value reached : Json} {steps : List PathStep}
    (occurs : Occurs value steps reached) (plain : plainKeys value = true) : PlainSteps steps := by
  induction occurs with
  | here => intro key mem; cases mem
  | @member key fields child value rest mem occurs ih =>
    obtain ⟨plainKey, plainChild⟩ := plainFields_iff.mp plain _ mem
    intro other isIn
    rcases List.mem_cons.mp isIn with same | later
    · cases same
      exact plainKey
    · exact ih plainChild other later
  | element mem occurs ih =>
    intro other isIn
    rcases List.mem_cons.mp isIn with same | later
    · cases same
    · exact ih (plainElements_iff.mp plain _ (List.mem_of_mem_take mem)) other later

/-! ### Inspected elements -/

/-- The path is below an array path of the payload at which every inspected array is empty. -/
def BelowEmptyArrays (payload : Payload) (path : String) : Prop :=
  ∃ arrayPath, (∃ elements, Visits payload arrayPath (.array elements)) ∧
    (∀ elements, Visits payload arrayPath (.array elements) → elements = []) ∧
    startsWith path (arrayPath ++ "[]") = true

section Inspected

variable {payload : Payload} {path arrayPath : String}

theorem startsWith_self (text : String) : startsWith text text = true :=
  List.isPrefixOf_iff_prefix.mpr (List.prefix_refl _)

theorem startsWith_append {text start : String} (begins : startsWith text start = true) (more : String) :
    startsWith (text ++ more) start = true := by
  rw [startsWith, List.isPrefixOf_iff_prefix] at begins ⊢
  rw [String.toList_append]
  exact begins.trans (List.prefix_append _ _)

theorem not_startsWith_longer (text : String) : startsWith text (text ++ "[]") = false := by
  rw [startsWith, ← Bool.not_eq_true, List.isPrefixOf_iff_prefix]
  intro isPrefix
  have lengths := isPrefix.length_le
  simp at lengths

theorem Occurs.split {value reached : Json} {steps rest : List PathStep}
    (occurs : Occurs value (steps ++ rest) reached) :
    ∃ middle, Occurs value steps middle ∧ Occurs middle rest reached := by
  induction steps generalizing value with
  | nil => exact ⟨value, .here value, occurs⟩
  | cons step steps ih =>
    rw [List.cons_append] at occurs
    cases occurs with
    | member mem occurs =>
      obtain ⟨middle, first, second⟩ := ih occurs
      exact ⟨middle, .member mem first, second⟩
    | element mem occurs =>
      obtain ⟨middle, first, second⟩ := ih occurs
      exact ⟨middle, .element mem first, second⟩

/-- Below an array path is a path exactly when one of the arrays there has elements. -/
theorem inspected_iff (plain : plainFields payload = true) {elements : List Json}
    (isArray : Visits payload arrayPath (.array elements)) :
    (∃ candidate value, Visits payload candidate value ∧ startsWith candidate (arrayPath ++ "[]") = true) ↔
      ∃ elements, Visits payload arrayPath (.array elements) ∧ elements ≠ [] := by
  have plainObject : plainKeys (.object payload) = true := plain
  constructor
  · rintro ⟨candidate, value, visited, below⟩
    obtain ⟨key, steps, occurs, rfl⟩ := visits_iff.mp isArray
    obtain ⟨key', steps', occurs', rfl⟩ := visits_iff.mp visited
    have plainSteps := occurs.plainSteps plainObject
    have plainSteps' := occurs'.plainSteps plainObject
    obtain ⟨rfl, rest, rfl⟩ := prefix_of_pathFrom (plainSteps key List.mem_cons_self)
      (fun other mem => plainSteps other (List.mem_cons_of_mem _ mem))
      (plainSteps' key' List.mem_cons_self)
      (fun other mem => plainSteps' other (List.mem_cons_of_mem _ mem)) below
    rw [List.append_assoc, ← List.cons_append] at occurs'
    obtain ⟨middle, first, second⟩ := occurs'.split
    cases second with
    | element mem _ =>
      refine ⟨_, visits_iff.mpr ⟨key, steps, first, rfl⟩, ?_⟩
      exact List.ne_nil_of_mem (List.mem_of_mem_take mem)
  · rintro ⟨elements, visited, nonempty⟩
    obtain ⟨first, rest, rfl⟩ := List.exists_cons_of_ne_nil nonempty
    exact ⟨_, first, .element visited List.mem_cons_self, startsWith_self _⟩

/-- A path has an array among its values when its union names one. -/
theorem contains_array_iff {text : String} (stored : (flattenSchema payload "")[path]? = some text) :
    (unionTypes text).contains "array" = true ↔ ∃ elements, Visits payload path (.array elements) := by
  have rep := represents_flattenSchema payload
  obtain ⟨nonempty, join⟩ := rep.found stored
  have words : "array" ∈ unionTypes text ↔ "array" ∈ visitedTypes payload path :=
    join.words_iff nonempty fun name mem => (rep.proper path name mem).2
  rw [List.contains_iff_mem, words]
  constructor
  · rintro ⟨value, visited, isArray⟩
    cases value with
    | array elements => exact ⟨elements, visited⟩
    | null | bool | number | string | object => simp [valueType] at isArray
  · rintro ⟨elements, visited⟩
    exact ⟨_, visited, rfl⟩

theorem mem_keys_iff : path ∈ (flattenSchema payload "").keys ↔ ∃ value, Visits payload path value := by
  rw [Std.ExtTreeMap.mem_keys, (represents_flattenSchema payload).mem_iff]
  constructor
  · rintro ⟨name, value, visited, -⟩
    exact ⟨value, visited⟩
  · rintro ⟨value, visited⟩
    exact ⟨_, value, visited, rfl⟩

/-- **The suppression of removals** is one below arrays whose inspected ones are all empty. -/
theorem isBelowInconclusiveArray_iff (plain : plainFields payload = true) :
    isBelowInconclusiveArray path (flattenSchema payload "") = true ↔ BelowEmptyArrays payload path := by
  have inspected : ∀ arrayPath, ((flattenSchema payload "").keys.any fun candidate =>
      startsWith candidate (arrayPath ++ "[]")) = true ↔
      ∃ candidate value, Visits payload candidate value ∧ startsWith candidate (arrayPath ++ "[]") = true := by
    intro arrayPath
    simp only [List.any_eq_true, mem_keys_iff, exists_and_right]
  unfold isBelowInconclusiveArray BelowEmptyArrays
  rw [List.any_eq_true]
  constructor
  · rintro ⟨⟨arrayPath, text⟩, mem, conditions⟩
    have stored := Std.ExtTreeMap.mem_toList_iff_getElem?_eq_some.mp mem
    rw [Bool.and_eq_true, Bool.and_eq_true, contains_array_iff stored, Bool.not_eq_true',
      ← Bool.not_eq_true, inspected] at conditions
    obtain ⟨⟨⟨elements, isArray⟩, none⟩, below⟩ := conditions
    rw [inspected_iff plain isArray] at none
    push Not at none
    exact ⟨arrayPath, ⟨elements, isArray⟩, none, below⟩
  · rintro ⟨arrayPath, ⟨elements, isArray⟩, none, below⟩
    have found := mem_keys_iff.mpr ⟨_, isArray⟩
    rw [Std.ExtTreeMap.mem_keys, Std.ExtTreeMap.mem_iff_isSome_getElem?, Option.isSome_iff_exists] at found
    obtain ⟨text, stored⟩ := found
    refine ⟨(arrayPath, text), Std.ExtTreeMap.mem_toList_iff_getElem?_eq_some.mpr stored, ?_⟩
    rw [Bool.and_eq_true, Bool.and_eq_true, contains_array_iff stored, Bool.not_eq_true',
      ← Bool.not_eq_true, inspected, inspected_iff plain isArray]
    refine ⟨⟨⟨elements, isArray⟩, ?_⟩, below⟩
    rintro ⟨others, visited, nonempty⟩
    exact nonempty (none others visited)

end Inspected

/-! ### Emptied arrays -/

mutual

/-- The value at `path`, with `[]` for all arrays at the path `target`. -/
def emptied (target : String) : Json → String → Json
  | .array elements, path =>
      if path = target then .array [] else .array (emptiedElements target elements (path ++ "[]"))
  | .object fields, path => .object (emptiedFields target fields path)
  | value, _ => value

def emptiedElements (target : String) : List Json → String → List Json
  | [], _ => []
  | element :: rest, path => emptied target element path :: emptiedElements target rest path

def emptiedFields (target : String) : List (String × Json) → String → List (String × Json)
  | [], _ => []
  | (key, child) :: rest, path =>
      (key, emptied target child (path ++ "." ++ key)) :: emptiedFields target rest path

end

/-- The payload with `[]` for all arrays at the path `target`. -/
def emptiedPayload (target : String) (payload : Payload) : Payload :=
  payload.map fun item => (item.1, emptied target item.2 item.1)

section Emptied

variable {target path : String} {payload : Payload}

theorem emptiedElements_eq (elements : List Json) (path : String) :
    emptiedElements target elements path = elements.map (emptied target · path) := by
  induction elements with
  | nil => rfl
  | cons element rest ih => rw [emptiedElements, ih, List.map_cons]

theorem emptiedFields_eq (fields : List (String × Json)) (path : String) :
    emptiedFields target fields path =
      fields.map fun item => (item.1, emptied target item.2 (path ++ "." ++ item.1)) := by
  induction fields with
  | nil => rfl
  | cons item rest ih => rw [emptiedFields, ih, List.map_cons]

@[simp] theorem valueType_emptied (value : Json) : valueType (emptied target value path) = valueType value := by
  cases value with
  | array elements =>
    rw [emptied]
    split <;> rfl
  | null | bool | number | string | object => rfl

mutual

theorem plainKeys_emptied : ∀ (value : Json) (path : String), plainKeys value = true →
    plainKeys (emptied target value path) = true
  | .null, _, plain => plain
  | .bool _, _, plain => plain
  | .number _, _, plain => plain
  | .string _, _, plain => plain
  | .array elements, path, plain => by
      rw [emptied]
      split
      · rfl
      · exact plainElements_emptied elements _ plain
  | .object fields, path, plain => plainFields_emptied fields path plain

theorem plainElements_emptied : ∀ (elements : List Json) (path : String),
    plainElements elements = true → plainElements (emptiedElements target elements path) = true
  | [], _, _ => rfl
  | element :: rest, path, plain => by
      rw [plainElements, Bool.and_eq_true] at plain
      rw [emptiedElements, plainElements, plainKeys_emptied element path plain.1,
        plainElements_emptied rest path plain.2]
      rfl

theorem plainFields_emptied : ∀ (fields : List (String × Json)) (path : String),
    plainFields fields = true → plainFields (emptiedFields target fields path) = true
  | [], _, _ => rfl
  | (key, child) :: rest, path, plain => by
      rw [plainFields, Bool.and_eq_true, Bool.and_eq_true] at plain
      rw [emptiedFields, plainFields, plain.1.1, plainKeys_emptied child _ plain.1.2,
        plainFields_emptied rest path plain.2]
      rfl

end

theorem plainFields_emptiedPayload (plain : plainFields payload = true) :
    plainFields (emptiedPayload target payload) = true := by
  rw [plainFields_iff] at plain ⊢
  intro item mem
  obtain ⟨source, isIn, rfl⟩ := List.mem_map.mp mem
  exact ⟨(plain source isIn).1, plainKeys_emptied _ _ (plain source isIn).2⟩

/-- What the emptied payload visits is there before, too. -/
theorem Visits.of_emptied {value' : Json} (visited : Visits (emptiedPayload target payload) path value') :
    ∃ value, Visits payload path value ∧ value' = emptied target value path := by
  induction visited with
  | @field key value mem =>
    obtain ⟨item, isIn, same⟩ := List.mem_map.mp mem
    cases same
    exact ⟨item.2, .field isIn, rfl⟩
  | @member path key fields child _ mem ih =>
    obtain ⟨value, visited, same⟩ := ih
    cases value with
    | object before =>
      rw [emptied, emptiedFields_eq] at same
      cases same
      obtain ⟨item, isIn, same⟩ := List.mem_map.mp mem
      cases same
      exact ⟨item.2, .member visited isIn, rfl⟩
    | array elements =>
      rw [emptied] at same
      split at same <;> cases same
    | null | bool | number | string => cases same
  | @element path elements child _ mem ih =>
    obtain ⟨value, visited, same⟩ := ih
    cases value with
    | array before =>
      rw [emptied] at same
      split at same
      · cases same
        cases mem
      · rw [emptiedElements_eq] at same
        cases same
        rw [← List.map_take] at mem
        obtain ⟨element, isIn, rfl⟩ := List.mem_map.mp mem
        exact ⟨element, .element visited isIn, rfl⟩
    | null | bool | number | string | object => cases same

/-- What is not below the emptied arrays stays. -/
theorem Visits.emptied {value : Json} (visited : Visits payload path value)
    (kept : startsWith path (target ++ "[]") = false ∨
      ∀ elements, ¬ Visits payload target (.array elements)) :
    Visits (emptiedPayload target payload) path (emptied target value path) := by
  induction visited with
  | field mem => exact .field (List.mem_map.mpr ⟨_, mem, rfl⟩)
  | @member path key fields child _ mem ih =>
    have object := ih (kept.imp_left fun other => ?_)
    · refine .member object ?_
      rw [emptiedFields_eq]
      exact List.mem_map.mpr ⟨_, mem, rfl⟩
    · rw [← Bool.not_eq_true] at other ⊢
      rw [String.append_assoc] at other
      exact fun below => other (startsWith_append below _)
  | @element path elements child visited mem ih =>
    have array := ih (kept.imp_left fun other => ?_)
    · have elsewhere : path ≠ target := by
        rintro rfl
        rcases kept with other | none
        · rw [startsWith_self] at other
          cases other
        · exact none elements visited
      rw [ApiObservatory.ContractPaths.emptied, if_neg elsewhere, emptiedElements_eq] at array
      refine .element array ?_
      rw [← List.map_take]
      exact List.mem_map_of_mem mem
    · rw [← Bool.not_eq_true] at other ⊢
      exact fun below => other (startsWith_append below _)

/-- The emptied arrays are there. -/
theorem Visits.emptied_array {elements : List Json} (isArray : Visits payload target (.array elements)) :
    Visits (emptiedPayload target payload) target (.array []) := by
  have still := isArray.emptied (.inl (not_startsWith_longer target))
  rwa [ApiObservatory.ContractPaths.emptied, if_pos rfl] at still

/-- All arrays at the path are empty. -/
theorem Visits.eq_nil_of_emptied {elements : List Json}
    (isArray : Visits (emptiedPayload target payload) target (.array elements)) : elements = [] := by
  obtain ⟨value, -, same⟩ := isArray.of_emptied
  cases value with
  | array before =>
    rw [ApiObservatory.ContractPaths.emptied, if_pos rfl] at same
    exact Json.array.inj same
  | null | bool | number | string | object => cases same

/-- **Emptying the arrays at a path keeps the types** at the paths that stay. -/
theorem visitedTypes_emptied (plain : plainFields payload = true) {value : Json}
    (stays : Visits (emptiedPayload target payload) path value) :
    visitedTypes (emptiedPayload target payload) path = visitedTypes payload path := by
  ext name
  constructor
  · rintro ⟨reached, visited, rfl⟩
    obtain ⟨before, there, rfl⟩ := visited.of_emptied
    exact ⟨before, there, (valueType_emptied before).symm⟩
  · rintro ⟨reached, visited, rfl⟩
    suffices kept : startsWith path (target ++ "[]") = false ∨
        ∀ elements, ¬ Visits payload target (.array elements) from
      ⟨_, visited.emptied kept, valueType_emptied reached⟩
    rw [← Bool.not_eq_true, ← not_exists, ← not_and_or]
    rintro ⟨below, elements, isArray⟩
    -- a path that stays below an emptied array would lead through one that is not empty
    obtain ⟨others, visited, nonempty⟩ := (inspected_iff (plainFields_emptiedPayload plain)
      isArray.emptied_array).mp ⟨path, value, stays, below⟩
    exact nonempty visited.eq_nil_of_emptied

end Emptied

/-! ### The comparison -/

section Comparison

variable {p c payload : Payload} {path : String}

theorem contains_iff : (flattenSchema payload "").contains path = true ↔ ∃ value, Visits payload path value := by
  rw [← Std.ExtTreeMap.mem_iff_contains, ← Std.ExtTreeMap.mem_keys, mem_keys_iff]

theorem mem_addedFields_iff :
    path ∈ (diffContract (flattenSchema p "") (flattenSchema c "")).addedFields ↔
      (∃ value, Visits c path value) ∧ ¬ ∃ value, Visits p path value := by
  rw [diffContract, List.mem_filter, mem_keys_iff, Bool.not_eq_true', ← Bool.not_eq_true, contains_iff]

theorem mem_removedFields_iff (plain : plainFields c = true) :
    path ∈ (diffContract (flattenSchema p "") (flattenSchema c "")).removedFields ↔
      (∃ value, Visits p path value) ∧ (¬ ∃ value, Visits c path value) ∧ ¬ BelowEmptyArrays c path := by
  rw [diffContract, List.mem_filter, mem_keys_iff, Bool.and_eq_true, Bool.not_eq_true', Bool.not_eq_true',
    ← Bool.not_eq_true, ← Bool.not_eq_true, contains_iff, isBelowInconclusiveArray_iff plain]

/-- The removed paths come sorted. -/
theorem removedFields_sorted (previous current : FlatSchema) :
    (diffContract previous current).removedFields.Pairwise (· < ·) := by
  refine List.Pairwise.filter _ ((Std.ExtTreeMap.ordered_keys).imp fun {a b} less => ?_)
  exact compare_lt_iff_lt.mp less

/-- No type changes when the texts at shared paths agree. -/
theorem typeChangedFields_eq_nil {previous current : FlatSchema}
    (same : ∀ path text text' : String, previous[path]? = some text → current[path]? = some text' →
      text = text') :
    (diffContract previous current).typeChangedFields = [] := by
  rw [diffContract, List.filterMap_eq_nil_iff]
  intro path _
  unfold typeChange
  cases before : previous[path]? with
  | none => rfl
  | some text =>
    cases after : current[path]? with
    | none => rfl
    | some text' =>
      rw [same path text text' before after]
      simp

/-- **Emptied arrays are inconclusive**: the payload does not differ from the one with `[]` for all
arrays at a path. -/
theorem diffContract_emptied (target : String) (plain : plainFields p = true) :
    (diffContract (flattenSchema p "") (flattenSchema (emptiedPayload target p) "")).isEmpty = true := by
  have plain' : plainFields (emptiedPayload target p) = true := plainFields_emptiedPayload plain
  simp only [ContractDiff.isEmpty, Bool.and_eq_true, List.isEmpty_iff]
  refine ⟨⟨List.eq_nil_iff_forall_not_mem.mpr fun path => ?_,
    List.eq_nil_iff_forall_not_mem.mpr fun path => ?_⟩, typeChangedFields_eq_nil ?_⟩
  · rw [mem_addedFields_iff]
    rintro ⟨⟨value, visited⟩, absent⟩
    obtain ⟨before, there, -⟩ := visited.of_emptied
    exact absent ⟨before, there⟩
  · rw [mem_removedFields_iff plain']
    rintro ⟨⟨value, visited⟩, absent, uncovered⟩
    have notKept : ¬ (startsWith path (target ++ "[]") = false ∨
        ∀ elements, ¬ Visits p target (.array elements)) := fun kept =>
      absent ⟨_, visited.emptied kept⟩
    rw [← Bool.not_eq_true, ← not_exists, ← not_and_or, not_not] at notKept
    obtain ⟨below, elements, isArray⟩ := notKept
    exact uncovered ⟨target, ⟨[], isArray.emptied_array⟩, fun _ there => there.eq_nil_of_emptied, below⟩
  · intro path text text' before after
    have found := (represents_flattenSchema p).found before
    have found' := (represents_flattenSchema (emptiedPayload target p)).found after
    obtain ⟨name, value, stays, -⟩ := found'.1
    rw [visitedTypes_emptied plain stays] at found'
    exact found.2.unique found'.2

end Comparison

/-- **Removals are reported exactly**, except below arrays without inspected elements: they are, in
order, the paths of the baseline that the current payload does not visit, and that are not below an
array path of it at which every inspected array is empty. So emptying the arrays at any one path makes
no difference. -/
theorem removals_exact {p c : Payload} (plain : plainFields p = true) (plain' : plainFields c = true) :
    (diffContract (flattenSchema p "") (flattenSchema c "")).removedFields.Pairwise (· < ·) ∧
      (∀ path, path ∈ (diffContract (flattenSchema p "") (flattenSchema c "")).removedFields ↔
        (∃ value, Visits p path value) ∧ (¬ ∃ value, Visits c path value) ∧ ¬ BelowEmptyArrays c path) ∧
      ∀ target, (diffContract (flattenSchema p "")
        (flattenSchema (emptiedPayload target p) "")).isEmpty = true :=
  ⟨removedFields_sorted _ _, fun _ => mem_removedFields_iff plain', fun target =>
    diffContract_emptied target plain⟩

/-- A baseline, and a payload without its note and without any items. -/
def orders : Payload :=
  [("items", .array [.object [("price", .number "1")]]), ("note", .string "paid")]

def noOrders : Payload := [("items", .array [])]

theorem visits_noOrders {path : String} {value : Json} (visited : Visits noOrders path value) :
    (∃ rest, path.toList = 'i' :: rest) ∧ value = .array [] := by
  obtain ⟨key, steps, occurs, rfl⟩ := visits_iff.mp visited
  obtain ⟨child, mem, occurs⟩ := occurs_object_iff.mp occurs
  cases List.mem_singleton.mp mem
  refine ⟨⟨_, toList_pathFrom "items" steps⟩, ?_⟩
  cases occurs with
  | here => rfl
  | element mem _ => cases mem

/-- The note is reported, the prices are not. -/
theorem removals_exact_orders : plainFields orders = true ∧ plainFields noOrders = true ∧
    "note" ∈ (diffContract (flattenSchema orders "") (flattenSchema noOrders "")).removedFields ∧
    "items[].price" ∉ (diffContract (flattenSchema orders "") (flattenSchema noOrders "")).removedFields := by
  have plain : plainFields orders = true ∧ plainFields noOrders = true := by decide
  have reported := (removals_exact plain.1 plain.2).2.1
  refine ⟨plain.1, plain.2, (reported "note").mpr ⟨?_, ?_, ?_⟩, fun removed => ?_⟩
  · exact ⟨_, .field (List.mem_cons_of_mem _ List.mem_cons_self)⟩
  · rintro ⟨value, visited⟩
    obtain ⟨⟨rest, chars⟩, -⟩ := visits_noOrders visited
    simp at chars
  · rintro ⟨arrayPath, ⟨elements, isArray⟩, -, below⟩
    obtain ⟨⟨rest, chars⟩, -⟩ := visits_noOrders isArray
    rw [startsWith, String.toList_append, chars] at below
    simp at below
  · refine ((reported "items[].price").mp removed).2.2 ⟨"items", ⟨[], .field List.mem_cons_self⟩, ?_, by decide⟩
    exact fun elements visited => Json.array.inj (visits_noOrders visited).2

end ApiObservatory.ContractPaths
