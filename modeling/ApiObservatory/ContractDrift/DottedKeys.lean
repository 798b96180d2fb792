import ApiObservatory.ContractDrift.Rearranging
import ApiObservatory.ContractDrift.Removals

/-
Payloads that the comparison cannot tell apart (`_flatten_value` and `_diff_contract` in
`services/ingestor/repositories/contract_drift.py`).

The path of a member is the path of its object, a dot and its key, and a dot in a key is not escaped.
So a path may stand for different keys, and two payloads that split the same paths differently have
the same flat schema. Without arrays nothing else is lost.
-/

namespace ApiObservatory.ContractPaths

open Foundation

/-! ### Payloads without arrays -/

mutual

/-- The value is built of scalars and objects, whose keys are distinct. -/
def arrayFree : Json → Bool
  | .array _ => false
  | .object fields => arrayFreeFields fields
  | _ => true

def arrayFreeFields : List (String × Json) → Bool
  | [] => true
  | (key, child) :: rest => arrayFree child && !(rest.map Prod.fst).contains key && arrayFreeFields rest

end

/-- The same keys at every depth, with values of the same types. -/
def SameStructure (p q : Payload) : Prop :=
  ∀ steps, typesAt (.object p) steps = typesAt (.object q) steps

/-- If the comparison reports nothing, the payloads have the same structure. -/
def Visible (p q : Payload) : Prop :=
  (diffContract (flattenSchema p "") (flattenSchema q "")).isEmpty = true → SameStructure p q

/-- No path is that of an object followed by a dot and more. -/
def Undotted (payload : Payload) : Prop :=
  ∀ path path' fields value, Visits payload path (.object fields) → Visits payload path' value →
    startsWith path' (path ++ ".") = false

/-- No path is split into keys one way in `p` and another way in `q`. -/
def SplitAlike (p q : Payload) : Prop :=
  ∀ key key' steps steps' value value', Occurs (.object p) (.member key :: steps) value →
    Occurs (.object q) (.member key' :: steps') value' → pathFrom key steps = pathFrom key' steps' →
    key = key' ∧ steps = steps'

section ArrayFree

attribute [local simp] arrayFree arrayFreeFields

variable {payload p q : Payload} {value reached : Json} {steps : List PathStep} {path : String}

theorem arrayFreeFields_cons {key : String} {rest : Payload} :
    arrayFreeFields ((key, value) :: rest) = true ↔
      arrayFree value = true ∧ key ∉ rest.map Prod.fst ∧ arrayFreeFields rest = true := by
  rw [arrayFreeFields, Bool.and_eq_true, Bool.and_eq_true, Bool.not_eq_true', ← Bool.not_eq_true,
    List.contains_iff_mem, and_assoc]

theorem arrayFreeFields_iff {fields : List (String × Json)} :
    arrayFreeFields fields = true ↔
      (∀ item ∈ fields, arrayFree item.2 = true) ∧ (fields.map Prod.fst).Nodup := by
  induction fields with
  | nil => simp
  | cons item rest ih =>
    obtain ⟨key, child⟩ := item
    rw [arrayFreeFields_cons, ih, List.forall_mem_cons, List.map_cons, List.nodup_cons]
    tauto

theorem arrayFreeFields_perm (perm : p.Perm q) (free : arrayFreeFields p = true) :
    arrayFreeFields q = true := by
  rw [arrayFreeFields_iff] at free ⊢
  exact ⟨fun item mem => free.1 item (perm.mem_iff.mpr mem), (perm.map Prod.fst).nodup_iff.mp free.2⟩

theorem exists_front {item : String × Json} (mem : item ∈ payload) :
    ∃ rest, payload.Perm (item :: rest) := by
  obtain ⟨before, after, rfl⟩ := List.append_of_mem mem
  exact ⟨before ++ after, List.perm_middle⟩

theorem Occurs.arrayFree (occurs : Occurs value steps reached) (free : arrayFree value = true) :
    arrayFree reached = true ∧ .element ∉ steps := by
  induction occurs with
  | here => exact ⟨free, by simp⟩
  | member mem _ ih =>
    obtain ⟨freeReached, members⟩ := ih ((arrayFreeFields_iff.mp free).1 _ mem)
    exact ⟨freeReached, by simpa using members⟩
  | element => cases free

theorem Visits.not_array (free : arrayFreeFields payload = true) (visited : Visits payload path value) :
    ∀ elements, value ≠ .array elements := by
  rintro elements rfl
  obtain ⟨key, steps, occurs, -⟩ := visits_iff.mp visited
  cases (occurs.arrayFree free).1

end ArrayFree

/-! ### Empty comparisons -/

theorem Represents.types_eq {flat : FlatSchema} {types types' : String → Set String}
    (rep : Represents flat types) (rep' : Represents flat types') (path : String) :
    types path = types' path := by
  cases stored : flat[path]? with
  | none => rw [rep.missing stored, rep'.missing stored]
  | some text =>
    obtain ⟨nonempty, join⟩ := rep.found stored
    obtain ⟨nonempty', join'⟩ := rep'.found stored
    ext name
    rw [← join.words_iff nonempty fun name mem => (rep.proper path name mem).2,
      ← join'.words_iff nonempty' fun name mem => (rep'.proper path name mem).2]

/-- No removal is suppressed below a payload without arrays. -/
theorem not_isBelowInconclusiveArray {payload : Payload} (free : arrayFreeFields payload = true)
    (path : String) : isBelowInconclusiveArray path (flattenSchema payload "") = false := by
  rw [isBelowInconclusiveArray, List.any_eq_false]
  rintro ⟨arrayPath, text⟩ mem conditions
  rw [Bool.and_eq_true, Bool.and_eq_true,
    contains_array_iff (Std.ExtTreeMap.mem_toList_iff_getElem?_eq_some.mp mem)] at conditions
  obtain ⟨elements, isArray⟩ := conditions.1.1
  exact isArray.not_array free elements rfl

/-- Flat schemas without a difference are equal, unless a removal is suppressed. -/
theorem eq_of_diffContract_isEmpty {previous current : FlatSchema}
    (conclusive : ∀ path, isBelowInconclusiveArray path current = false)
    (empty : (diffContract previous current).isEmpty = true) : previous = current := by
  simp only [ContractDiff.isEmpty, diffContract, Bool.and_eq_true, List.isEmpty_iff, List.filter_eq_nil_iff,
    List.filterMap_eq_nil_iff, Std.ExtTreeMap.mem_keys, conclusive] at empty
  obtain ⟨⟨added, removed⟩, typeChanged⟩ := empty
  refine Std.ExtTreeMap.ext_getElem? fun path => ?_
  cases before : previous[path]? with
  | none =>
    cases after : current[path]? with
    | none => rfl
    | some text =>
      have new := added path (Std.ExtTreeMap.mem_iff_isSome_getElem?.mpr (by rw [after]; rfl))
      simp [Std.ExtTreeMap.contains_eq_isSome_getElem?, before] at new
  | some text =>
    have old : path ∈ previous := Std.ExtTreeMap.mem_iff_isSome_getElem?.mpr (by rw [before]; rfl)
    cases after : current[path]? with
    | none =>
      have gone := removed path old
      simp [Std.ExtTreeMap.contains_eq_isSome_getElem?, after] at gone
    | some text' =>
      have same := typeChanged path old
      simp only [typeChange, before, after] at same
      by_contra different
      rw [if_pos fun equal => different (congrArg some equal)] at same
      cases same

/-- The comparison with a payload without arrays reports nothing exactly when both have the same types
at each path. -/
theorem diffContract_isEmpty_iff {p q : Payload} (free : arrayFreeFields q = true) :
    (diffContract (flattenSchema p "") (flattenSchema q "")).isEmpty = true ↔
      ∀ path, visitedTypes p path = visitedTypes q path := by
  constructor
  · intro empty
    have rep := represents_flattenSchema p
    rw [eq_of_diffContract_isEmpty (not_isBelowInconclusiveArray free) empty] at rep
    exact rep.types_eq (represents_flattenSchema q)
  · intro same
    have rep := represents_flattenSchema p
    rw [funext same] at rep
    rw [rep.unique (represents_flattenSchema q)]
    exact diffContract_self _

/-! ### Paths that are split alike -/

section Split

variable {p q : Payload}

theorem SplitAlike.symm (alike : SplitAlike p q) : SplitAlike q p := by
  intro key key' steps steps' value value' occurs occurs' same
  obtain ⟨first, rest⟩ := alike _ _ _ _ _ _ occurs' occurs same.symm
  exact ⟨first.symm, rest.symm⟩

theorem SplitAlike.typesAt_subset (alike : SplitAlike p q)
    (types : ∀ path, visitedTypes p path = visitedTypes q path) (key : String) (steps : List PathStep) :
    typesAt (.object p) (.member key :: steps) ⊆ typesAt (.object q) (.member key :: steps) := by
  rintro name ⟨reached, occurs, named⟩
  have visited : name ∈ visitedTypes p (pathFrom key steps) :=
    ⟨reached, visits_iff.mpr ⟨key, steps, occurs, rfl⟩, named⟩
  rw [types] at visited
  obtain ⟨reached', visited', named'⟩ := visited
  obtain ⟨key', steps', occurs', same⟩ := visits_iff.mp visited'
  obtain ⟨rfl, rfl⟩ := alike _ _ _ _ _ _ occurs occurs' same.symm
  exact ⟨reached', occurs', named'⟩

/-- **Payloads that split their paths alike** are told apart by the types at their paths. -/
theorem SplitAlike.sameStructure (alike : SplitAlike p q)
    (types : ∀ path, visitedTypes p path = visitedTypes q path) : SameStructure p q := by
  intro steps
  match steps with
  | [] => rw [typesAt_nil, typesAt_nil]; rfl
  | .element :: rest => rw [typesAt_object_element, typesAt_object_element]
  | .member key :: rest =>
    exact (alike.typesAt_subset types key rest).antisymm
      (alike.symm.typesAt_subset (fun path => (types path).symm) key rest)

end Split

/-- No key of the value holds a dot. -/
def DotFree (payload : Payload) : Prop :=
  ∀ steps value, Occurs (.object payload) steps value → ∀ key, .member key ∈ steps → '.' ∉ key.toList

theorem pathFrom_members (first : String) (keys : List String) :
    pathFrom first (keys.map .member) = joinWith '.' (first :: keys) := by
  induction keys generalizing first with
  | nil => simp [pathFrom, joinWith]
  | cons key rest ih =>
    have dot : String.singleton '.' = "." := by decide
    rw [List.map_cons, pathFrom, ih, joinWith, joinWith, dot]
    cases rest with
    | nil => simp [PathStep.text, String.append_assoc]
    | cons next rest => simp [PathStep.text, String.append_assoc]

theorem exists_members {steps : List PathStep} (members : .element ∉ steps) :
    ∃ keys : List String, steps = keys.map .member := by
  induction steps with
  | nil => exact ⟨[], rfl⟩
  | cons step rest ih =>
    rw [List.mem_cons, not_or] at members
    obtain ⟨keys, rfl⟩ := ih members.2
    cases step with
    | member key => exact ⟨key :: keys, rfl⟩
    | element => exact absurd rfl members.1

/-- Keys without dots are split in one way. -/
theorem splitAlike_of_dotFree {p q : Payload} (free : arrayFreeFields p = true)
    (free' : arrayFreeFields q = true) (dotFree : DotFree p) (dotFree' : DotFree q) : SplitAlike p q := by
  intro key key' steps steps' value value' occurs occurs' same
  have members := (occurs.arrayFree free).2
  have members' := (occurs'.arrayFree free').2
  rw [List.mem_cons, not_or] at members members'
  obtain ⟨keys, rfl⟩ := exists_members members.2
  obtain ⟨keys', rfl⟩ := exists_members members'.2
  rw [pathFrom_members, pathFrom_members] at same
  have words := congrArg (splitAt '.') same
  rw [splitAt_joinWith (List.cons_ne_nil _ _) ?_, splitAt_joinWith (List.cons_ne_nil _ _) ?_] at words
  · obtain ⟨rfl, rfl⟩ := List.cons.inj words
    exact ⟨rfl, rfl⟩
  · exact fun other mem => dotFree' _ _ occurs' other (List.mem_map_of_mem mem)
  · exact fun other mem => dotFree _ _ occurs other (List.mem_map_of_mem mem)

/-! ### Payloads that are told apart from all others -/

section Undotted

variable {p q : Payload} {path : String} {value : Json}

theorem Undotted.steps_eq_nil (undotted : Undotted p) (free : arrayFreeFields p = true) {key : String}
    {steps : List PathStep} (occurs : Occurs (.object p) (.member key :: steps) value) : steps = [] := by
  obtain ⟨child, mem, occurs⟩ := occurs_object_iff.mp occurs
  cases occurs with
  | here => rfl
  | @member other fields below value rest isIn _ =>
    have visited : Visits p key (.object fields) := .field mem
    have begins := startsWith_append (startsWith_self (key ++ ".")) other
    rw [undotted _ _ _ _ visited (.member visited isIn)] at begins
    cases begins
  | element => cases (arrayFreeFields_iff.mp free).1 _ mem

theorem Undotted.splitAlike (undotted : Undotted p) (free : arrayFreeFields p = true)
    (undotted' : Undotted q) (free' : arrayFreeFields q = true) : SplitAlike p q := by
  intro key key' steps steps' value value' occurs occurs' same
  obtain rfl := undotted.steps_eq_nil free occurs
  obtain rfl := undotted'.steps_eq_nil free' occurs'
  exact ⟨same, rfl⟩

/-- The types at the paths say which paths are those of objects. -/
theorem Undotted.congr (types : ∀ path, visitedTypes p path = visitedTypes q path) (undotted : Undotted p) :
    Undotted q := by
  intro path path' fields value visited visited'
  have isObject : "object" ∈ visitedTypes q path := ⟨_, visited, rfl⟩
  have isVisited : valueType value ∈ visitedTypes q path' := ⟨_, visited', rfl⟩
  rw [← types] at isObject isVisited
  obtain ⟨object, visited, named⟩ := isObject
  obtain ⟨reached, visited', -⟩ := isVisited
  cases object with
  | object fields => exact undotted _ _ _ _ visited visited'
  | null | bool | number | string | array => simp [valueType] at named

end Undotted

/-! ### Payloads with an invisible change -/

/-- Another payload has the same types at its paths and another structure. -/
def Confusable (p : Payload) : Prop :=
  ∃ q, arrayFreeFields q = true ∧ (∀ path, visitedTypes p path = visitedTypes q path) ∧ ¬ SameStructure p q

section Confusable

variable {p q rest more : Payload} {key child path : String} {value other : Json} {steps : List PathStep}

theorem visitedTypes_cons (item : String × Json) (rest : Payload) (path : String) :
    visitedTypes (item :: rest) path = reachedTypes item.2 item.1 path ∪ visitedTypes rest path := by
  ext name
  rw [Set.mem_union, mem_visitedTypes_iff, mem_visitedTypes_iff, List.exists_mem_cons_iff]

theorem reachedTypes_object_cons (child : String) (value : Json) (more : Payload) (start path : String) :
    reachedTypes (.object ((child, value) :: more)) start path =
      reachedTypes value (start ++ "." ++ child) path ∪ reachedTypes (.object more) start path := by
  rw [reachedTypes_object, reachedTypes_object, ← union_cons, Set.union_left_comm]
  rfl

theorem reachedTypes_congr (same : ∀ steps, typesAt value steps = typesAt other steps)
    (start path : String) : reachedTypes value start path = reachedTypes other start path := by
  have eq : ∀ value : Json, reachedTypes value start path =
      {name | ∃ steps, pathFrom start steps = path ∧ name ∈ typesAt value steps} := by
    intro value
    ext name
    constructor
    · rintro ⟨steps, reached, occurs, at_path, named⟩
      exact ⟨steps, at_path, reached, occurs, named⟩
    · rintro ⟨steps, at_path, reached, occurs, named⟩
      exact ⟨steps, reached, occurs, at_path, named⟩
  rw [eq, eq]
  simp only [same]

theorem typesAt_member (distinct : (p.map Prod.fst).Nodup) (mem : (key, value) ∈ p)
    (steps : List PathStep) : typesAt (.object p) (.member key :: steps) = typesAt value steps := by
  ext name
  rw [mem_typesAt_object]
  constructor
  · rintro ⟨found, isIn, named⟩
    cases List.inj_on_of_nodup_map distinct isIn mem rfl
    exact named
  · exact fun named => ⟨value, mem, named⟩

theorem SameStructure.keys (same : SameStructure p q) : key ∈ p.map Prod.fst ↔ key ∈ q.map Prod.fst := by
  have nonempty : ∀ payload : Payload, key ∈ payload.map Prod.fst ↔
      ∃ name, name ∈ typesAt (.object payload) [.member key] := by
    intro payload
    simp [mem_typesAt_object]
  rw [nonempty, nonempty, same]

theorem dotted_ne (key child : String) : key ++ "." ++ child ≠ key := by
  intro equal
  have lengths := congrArg String.length equal
  have dot : ".".length = 1 := by decide
  rw [String.length_append, String.length_append, dot] at lengths
  omega

theorem Confusable.of_perm {p' : Payload} (perm : p.Perm p') (confusable : Confusable p') :
    Confusable p := by
  have same := (Rearranged.keys perm).typesAt_eq
  obtain ⟨q, free, types, different⟩ := confusable
  refine ⟨q, free, fun path => ?_, fun structures => different fun steps => ?_⟩
  · rw [← types, visitedTypes_eq, visitedTypes_eq]
    simp only [same]
  · rw [← same, structures]

/-- A member of an object may be a field whose key holds a dot. -/
theorem visitedTypes_lifted (key child : String) (value : Json) (more rest : Payload) (path : String) :
    visitedTypes ((key, .object ((child, value) :: more)) :: rest) path =
      visitedTypes ((key, .object more) :: (key ++ "." ++ child, value) :: rest) path := by
  rw [visitedTypes_cons, visitedTypes_cons, visitedTypes_cons, reachedTypes_object_cons, Set.union_assoc,
    Set.union_left_comm]

theorem not_sameStructure_lifted
    (free : arrayFreeFields ((key, .object more) :: (key ++ "." ++ child, value) :: rest) = true) :
    ¬ SameStructure ((key, .object ((child, value) :: more)) :: rest)
      ((key, .object more) :: (key ++ "." ++ child, value) :: rest) := by
  intro same
  have isKey := same.keys.mpr (List.mem_cons_of_mem _ List.mem_cons_self)
  rw [arrayFreeFields_cons, arrayFreeFields_cons] at free
  rcases List.mem_cons.mp isKey with first | later
  · exact dotted_ne key child first
  · exact free.2.2.2.1 later

/-- The field with the path of a member is left out when the member has its types. -/
theorem confusable_of_covered
    (free : arrayFreeFields ((key, .object ((child, value) :: more)) ::
      (key ++ "." ++ child, other) :: rest) = true)
    (same : ∀ steps, typesAt value steps = typesAt other steps) :
    Confusable ((key, .object ((child, value) :: more)) :: (key ++ "." ++ child, other) :: rest) := by
  rw [arrayFreeFields_cons, arrayFreeFields_cons, List.map_cons, List.mem_cons, not_or] at free
  obtain ⟨freeObject, ⟨-, newKey⟩, -, newPath, freeRest⟩ := free
  refine ⟨(key, .object ((child, value) :: more)) :: rest,
    arrayFreeFields_cons.mpr ⟨freeObject, newKey, freeRest⟩, fun path => ?_, fun structures => ?_⟩
  · ext name
    simp only [visitedTypes_cons, reachedTypes_object_cons, reachedTypes_congr same, Set.mem_union]
    tauto
  · have isKey := structures.keys.mp (List.mem_cons_of_mem _ List.mem_cons_self)
    rcases List.mem_cons.mp isKey with first | later
    · exact dotted_ne key child first
    · exact newPath later

/-- The field with the path of a member changes places with the member. -/
theorem confusable_of_exchange
    (free : arrayFreeFields ((key, .object ((child, value) :: more)) ::
      (key ++ "." ++ child, other) :: rest) = true)
    (different : typesAt value steps ≠ typesAt other steps) :
    Confusable ((key, .object ((child, value) :: more)) :: (key ++ "." ++ child, other) :: rest) := by
  have distinct := (arrayFreeFields_iff.mp free).2
  rw [arrayFreeFields_cons, arrayFreeFields_cons, arrayFree, arrayFreeFields_cons] at free
  obtain ⟨⟨freeValue, newChild, freeMore⟩, newKey, freeOther, newPath, freeRest⟩ := free
  have freeExchanged : arrayFreeFields ((key, .object ((child, other) :: more)) ::
      (key ++ "." ++ child, value) :: rest) = true := by
    rw [arrayFreeFields_cons, arrayFreeFields_cons, arrayFree, arrayFreeFields_cons]
    exact ⟨⟨freeOther, newChild, freeMore⟩, newKey, freeValue, newPath, freeRest⟩
  refine ⟨_, freeExchanged, fun path => ?_, fun structures => different ?_⟩
  · ext name
    simp only [visitedTypes_cons, reachedTypes_object_cons, Set.mem_union]
    tauto
  · have before := typesAt_member distinct (List.mem_cons_of_mem _ List.mem_cons_self) steps
    have after := typesAt_member (arrayFreeFields_iff.mp freeExchanged).2
      (List.mem_cons_of_mem _ List.mem_cons_self) steps
    rw [← before, ← after, structures]

/-- A member of an object can be confused with a field. -/
theorem confusable_of_nested (free : arrayFreeFields p = true)
    (mem : (key, .object ((child, value) :: more)) ∈ p) : Confusable p := by
  obtain ⟨rest, perm⟩ := exists_front mem
  replace free := arrayFreeFields_perm perm free
  refine .of_perm perm ?_
  by_cases taken : key ++ "." ++ child ∈ rest.map Prod.fst
  · obtain ⟨⟨_, other⟩, isIn, rfl⟩ := List.mem_map.mp taken
    obtain ⟨others, moved⟩ := exists_front isIn
    have front := moved.cons (key, Json.object ((child, value) :: more))
    have freeFront := arrayFreeFields_perm front free
    refine .of_perm front ?_
    by_cases same : ∀ steps, typesAt value steps = typesAt other steps
    · exact confusable_of_covered freeFront same
    · obtain ⟨steps, different⟩ := not_forall.mp same
      exact confusable_of_exchange freeFront different
  · have freeLifted :
        arrayFreeFields ((key, .object more) :: (key ++ "." ++ child, value) :: rest) = true := by
      rw [arrayFreeFields_cons, arrayFree, arrayFreeFields_cons] at free
      obtain ⟨⟨freeValue, -, freeMore⟩, newKey, freeRest⟩ := free
      rw [arrayFreeFields_cons, arrayFreeFields_cons, arrayFree, List.map_cons, List.mem_cons, not_or]
      exact ⟨freeMore, ⟨(dotted_ne key child).symm, newKey⟩, freeValue, taken, freeRest⟩
    exact ⟨_, freeLifted, visitedTypes_lifted key child value more rest, not_sameStructure_lifted freeLifted⟩

/-- A field whose key begins with that of an empty object and a dot may be its member. -/
theorem confusable_of_lifted (free : arrayFreeFields p = true) (mem : (key, .object []) ∈ p)
    (mem' : (key ++ "." ++ child, value) ∈ p) : Confusable p := by
  obtain ⟨others, perm⟩ := exists_front mem
  have later : (key ++ "." ++ child, value) ∈ others := by
    rcases List.mem_cons.mp (perm.mem_iff.mp mem') with first | later
    · exact absurd (congrArg Prod.fst first) (dotted_ne key child)
    · exact later
  obtain ⟨rest, moved⟩ := exists_front later
  have front := perm.trans (moved.cons (key, Json.object []))
  replace free := arrayFreeFields_perm front free
  have different := not_sameStructure_lifted free
  refine .of_perm front ⟨(key, .object [(child, value)]) :: rest, ?_,
    fun path => (visitedTypes_lifted key child value [] rest path).symm,
    fun same => different fun steps => (same steps).symm⟩
  rw [arrayFreeFields_cons, arrayFreeFields_cons, List.map_cons, List.mem_cons, not_or] at free
  obtain ⟨-, ⟨-, newKey⟩, freeValue, -, freeRest⟩ := free
  rw [arrayFreeFields_cons, arrayFree, arrayFreeFields_cons]
  exact ⟨⟨freeValue, List.not_mem_nil, rfl⟩, newKey, freeRest⟩

/-- If all objects of a payload are empty, it visits its fields only. -/
theorem Visits.mem_of_flat (free : arrayFreeFields p = true)
    (flat : ∀ key fields, (key, .object fields) ∈ p → fields = []) (visited : Visits p path value) :
    (path, value) ∈ p := by
  induction visited with
  | field mem => exact mem
  | member _ mem ih =>
    rw [flat _ _ ih] at mem
    cases mem
  | element visited => exact absurd rfl (visited.not_array free _)

/-- **A path that goes on with a dot** lets another payload be confused with this one. -/
theorem confusable_of_not_undotted (free : arrayFreeFields p = true) (dotted : ¬ Undotted p) :
    Confusable p := by
  by_cases flat : ∀ key fields, (key, .object fields) ∈ p → fields = []
  · unfold Undotted at dotted
    push Not at dotted
    obtain ⟨key, path, fields, value, visited, visited', begins⟩ := dotted
    replace begins := List.isPrefixOf_iff_prefix.mp (Bool.eq_true_of_not_eq_false begins)
    obtain ⟨chars, same⟩ := begins
    have split : path = key ++ "." ++ String.ofList chars := by
      apply String.toList_injective
      rw [String.toList_append, String.toList_ofList, same]
    have object := visited.mem_of_flat free flat
    rw [flat _ _ object] at object
    exact confusable_of_lifted free object (split ▸ visited'.mem_of_flat free flat)
  · push Not at flat
    obtain ⟨key, fields, mem, nonempty⟩ := flat
    obtain ⟨⟨child, value⟩, more, rfl⟩ := List.exists_cons_of_ne_nil nonempty
    exact confusable_of_nested free mem

end Confusable

theorem SplitAlike.visible {p q : Payload} (alike : SplitAlike p q) (free : arrayFreeFields q = true) :
    Visible p q :=
  fun empty => alike.sameStructure ((diffContract_isEmpty_iff free).mp empty)

/-- **No structural change is invisible** from a payload exactly when none of its paths goes on from
that of an object with a dot. None is between payloads that split their paths alike, as those without
dots in their keys do. -/
theorem visible_iff {p : Payload} (free : arrayFreeFields p = true) :
    ((∀ q, arrayFreeFields q = true → Visible p q) ↔ Undotted p) ∧
      (∀ q, arrayFreeFields q = true → SplitAlike p q → Visible p q) ∧
      ∀ q, arrayFreeFields q = true → DotFree p → DotFree q → Visible p q := by
  refine ⟨⟨fun visible => ?_, fun undotted q free' empty => ?_⟩, fun q free' alike => alike.visible free',
    fun q free' dotFree dotFree' => (splitAlike_of_dotFree free free' dotFree dotFree').visible free'⟩
  · by_contra dotted
    obtain ⟨q, free', types, different⟩ := confusable_of_not_undotted free dotted
    exact different (visible q free' ((diffContract_isEmpty_iff free').mpr types))
  · have types := (diffContract_isEmpty_iff free').mp empty
    exact (undotted.splitAlike free (undotted.congr types) free').visible free' empty

/-- A name and an identifier, in either order. -/
def namedUser : Payload := [("name", .string "ada"), ("user.id", .number "1")]

def reorderedUser : Payload := [("user.id", .number "1"), ("name", .string "ada")]

theorem visible_named_user : Undotted namedUser ∧ SameStructure namedUser reorderedUser := by
  have undotted : Undotted namedUser := by
    intro path path' fields value visited
    have flat : ∀ key fields, (key, Json.object fields) ∈ namedUser → fields = [] := by simp [namedUser]
    have mem := visited.mem_of_flat rfl flat
    simp [namedUser] at mem
  refine ⟨undotted, (visible_iff (p := namedUser) rfl).1.mpr undotted reorderedUser rfl ?_⟩
  have rearranged : Rearranged (.object namedUser) (.object reorderedUser) := .keys (.swap _ _ _)
  rw [rearranged.flattenSchema_eq]
  exact diffContract_self _

/-- A user with an identifier, and one next to its identifier. -/
def nestedUser : Payload := [("user", .object [("id", .number "1")])]

def liftedUser : Payload := [("user", .object []), ("user.id", .number "1")]

theorem lifted_user_invisible : arrayFreeFields nestedUser = true ∧ arrayFreeFields liftedUser = true ∧
    ¬ Visible nestedUser liftedUser := by
  refine ⟨rfl, rfl, fun visible => ?_⟩
  have types := visitedTypes_lifted "user" "id" (.number "1") [] []
  exact not_sameStructure_lifted rfl (visible ((diffContract_isEmpty_iff rfl).mpr types))

end ApiObservatory.ContractPaths
