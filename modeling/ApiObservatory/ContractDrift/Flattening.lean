import ApiObservatory.Foundation.Joined
import ApiObservatory.Repositories.ContractSchema

/-
What a flattened payload says (`services/ingestor/repositories/contract_drift.py`).

Each value of a payload is reached by steps: to a member of an object, or to one of the first
elements of an array. Its path is the text of its steps. A flat schema is taken for what it says of
each path: a set of types. Merging two of them is then the union, whatever the order, and flattening
a payload says of each path which types of value are reached there.
-/

namespace ApiObservatory.ContractPaths

open Foundation

/-! ### The values of a payload -/

/-- The paths of a payload with their values: its own fields, and from each value the members of an
object and the first elements of an array. -/
inductive Visits (payload : Payload) : String → Json → Prop where
  | field {key : String} {value : Json} : (key, value) ∈ payload → Visits payload key value
  | member {path key : String} {fields : List (String × Json)} {child : Json} :
      Visits payload path (.object fields) → (key, child) ∈ fields →
      Visits payload (path ++ "." ++ key) child
  | element {path : String} {elements : List Json} {child : Json} :
      Visits payload path (.array elements) → child ∈ elements.take arrayInspectionLimit →
      Visits payload (path ++ "[]") child

/-- The types of the values at a path. -/
def visitedTypes (payload : Payload) (path : String) : Set String :=
  {name | ∃ value, Visits payload path value ∧ valueType value = name}

inductive PathStep where
  | member (key : String)
  | element
deriving DecidableEq

/-- The value is reached by the steps. -/
inductive Occurs : Json → List PathStep → Json → Prop where
  | here (value : Json) : Occurs value [] value
  | member {key : String} {fields : List (String × Json)} {child value : Json} {rest : List PathStep} :
      (key, child) ∈ fields → Occurs child rest value →
      Occurs (.object fields) (.member key :: rest) value
  | element {elements : List Json} {child value : Json} {rest : List PathStep} :
      child ∈ elements.take arrayInspectionLimit → Occurs child rest value →
      Occurs (.array elements) (.element :: rest) value

def PathStep.text : PathStep → String
  | .member key => "." ++ key
  | .element => "[]"

/-- The path of what is reached from a value at `path`. -/
def pathFrom (path : String) : List PathStep → String
  | [] => path
  | step :: rest => pathFrom (path ++ step.text) rest

section Steps

variable {value middle reached : Json} {steps rest : List PathStep} {path key : String}

theorem Occurs.append (first : Occurs value steps middle) (second : Occurs middle rest reached) :
    Occurs value (steps ++ rest) reached := by
  induction first with
  | here => exact second
  | member mem _ ih => exact .member mem (ih second)
  | element mem _ ih => exact .element mem (ih second)

theorem pathFrom_append (path : String) (steps rest : List PathStep) :
    pathFrom path (steps ++ rest) = pathFrom (pathFrom path steps) rest := by
  induction steps generalizing path with
  | nil => rfl
  | cons step steps ih => exact ih _

theorem occurs_object_iff {fields : List (String × Json)} :
    Occurs (.object fields) (.member key :: steps) reached ↔
      ∃ child, (key, child) ∈ fields ∧ Occurs child steps reached := by
  constructor
  · rintro (_ | ⟨mem, occurs⟩)
    exact ⟨_, mem, occurs⟩
  · rintro ⟨child, mem, occurs⟩
    exact .member mem occurs

theorem occurs_array_iff {elements : List Json} :
    Occurs (.array elements) (.element :: steps) reached ↔
      ∃ child ∈ elements.take arrayInspectionLimit, Occurs child steps reached := by
  constructor
  · rintro (_ | _ | ⟨mem, occurs⟩)
    exact ⟨_, mem, occurs⟩
  · rintro ⟨child, mem, occurs⟩
    exact .element mem occurs

theorem Visits.of_occurs {payload : Payload} (occurs : Occurs value steps reached)
    (visited : Visits payload path value) : Visits payload (pathFrom path steps) reached := by
  induction occurs generalizing path with
  | here => exact visited
  | member mem _ ih =>
    have child := ih (.member visited mem)
    rwa [String.append_assoc] at child
  | element mem _ ih => exact ih (.element visited mem)

/-- **The visited paths** are the texts of the steps that reach a value of the payload. -/
theorem visits_iff {payload : Payload} :
    Visits payload path reached ↔
      ∃ key steps, Occurs (.object payload) (.member key :: steps) reached ∧ pathFrom key steps = path := by
  constructor
  · intro visited
    induction visited with
    | field mem => exact ⟨_, [], .member mem (.here _), rfl⟩
    | @member path name fields child _ mem ih =>
      obtain ⟨key, steps, occurs, rfl⟩ := ih
      have further := occurs.append (.member mem (.here child))
      rw [List.cons_append] at further
      refine ⟨key, _, further, ?_⟩
      rw [pathFrom_append, String.append_assoc]
      rfl
    | @element path elements child _ mem ih =>
      obtain ⟨key, steps, occurs, rfl⟩ := ih
      have further := occurs.append (.element mem (.here child))
      rw [List.cons_append] at further
      exact ⟨key, _, further, pathFrom_append _ _ _⟩
  · rintro ⟨key, steps, occurs, rfl⟩
    obtain ⟨child, mem, occurs⟩ := occurs_object_iff.mp occurs
    exact .of_occurs occurs (.field mem)

end Steps

/-! ### Flat schemas as sets of types -/

/-- A name that a union of types can hold. -/
def ProperName (name : String) : Prop := name ≠ "" ∧ '|' ∉ name.toList

/-- The values of `_value_type`. -/
def typeNames : List String := ["null", "boolean", "number", "string", "array", "object"]

theorem properName_valueType (value : Json) : ProperName (valueType value) := by
  have proper : ∀ name ∈ typeNames, ProperName name := by
    unfold ProperName
    decide
  refine proper _ ?_
  cases value <;> simp [valueType, typeNames]

/-- The flat schema says of each path the given types. -/
structure Represents (flat : FlatSchema) (types : String → Set String) : Prop where
  proper : ∀ path, ∀ name ∈ types path, ProperName name
  found : ∀ {path text}, flat[path]? = some text → (types path).Nonempty ∧ IsJoin '|' text (types path)
  missing : ∀ {path}, flat[path]? = none → types path = ∅

theorem getElem?_insert_of_ne {flat : FlatSchema} {path other : String} (text : String)
    (different : other ≠ path) : (flat.insert path text)[other]? = flat[other]? := by
  have unequal : ¬ compare path other = .eq := fun same =>
    different (Std.LawfulEqCmp.eq_of_compare same).symm
  rw [Std.ExtTreeMap.getElem?_insert, if_neg unequal]

namespace Represents

variable {flat target observed : FlatSchema} {types types' : String → Set String} {path text : String}

theorem congr (rep : Represents flat types) (same : ∀ path, types path = types' path) :
    Represents flat types' := by
  rwa [← funext same]

theorem mem_iff (rep : Represents flat types) : path ∈ flat ↔ (types path).Nonempty := by
  rw [Std.ExtTreeMap.mem_iff_isSome_getElem?]
  cases stored : flat[path]? with
  | none => simp [rep.missing stored]
  | some text => simpa using (rep.found stored).1

/-- What a flat schema says determines it. -/
theorem unique (rep : Represents flat types) (other : Represents observed types) : flat = observed := by
  refine Std.ExtTreeMap.ext_getElem? fun path => ?_
  cases stored : flat[path]? with
  | none =>
    cases stored' : observed[path]? with
    | none => rfl
    | some text => exact absurd (other.found stored').1 (by simp [rep.missing stored])
  | some text =>
    cases stored' : observed[path]? with
    | none => exact absurd (rep.found stored).1 (by simp [other.missing stored'])
    | some text' => rw [(rep.found stored).2.unique (other.found stored').2]

theorem empty : Represents ∅ fun _ => ∅ where
  proper := by simp
  found := by simp
  missing := by simp

theorem insert (rep : Represents target types) {set : Set String} (nonempty : set.Nonempty)
    (proper : ∀ name ∈ set, ProperName name) (join : IsJoin '|' text (types path ∪ set)) :
    Represents (target.insert path text) (Function.update types path (types path ∪ set)) := by
  refine ⟨?_, ?_, ?_⟩
  · intro other name mem
    by_cases same : other = path
    · subst same
      rw [Function.update_self] at mem
      exact mem.elim (rep.proper other name) (proper name)
    · rw [Function.update_of_ne same] at mem
      exact rep.proper other name mem
  · intro other found stored
    by_cases same : other = path
    · subst same
      rw [Std.ExtTreeMap.getElem?_insert_self, Option.some.injEq] at stored
      rw [Function.update_self]
      exact ⟨nonempty.mono Set.subset_union_right, stored ▸ join⟩
    · rw [getElem?_insert_of_ne _ same] at stored
      rw [Function.update_of_ne same]
      exact rep.found stored
  · intro other absent
    have different : other ≠ path := by
      rintro rfl
      rw [Std.ExtTreeMap.getElem?_insert_self] at absent
      cases absent
    rw [getElem?_insert_of_ne _ different] at absent
    rw [Function.update_of_ne different]
    exact rep.missing absent

/-- The loop body of a merge adds the types of an entry. -/
theorem mergeEntry (rep : Represents target types) (path : String) {set : Set String} (nonempty : set.Nonempty)
    (proper : ∀ name ∈ set, ProperName name) (join : IsJoin '|' text set) :
    Represents (mergeEntry target (path, text)) (Function.update types path (types path ∪ set)) := by
  unfold ApiObservatory.mergeEntry
  cases stored : target[path]? with
  | none =>
    refine rep.insert nonempty proper ?_
    rwa [rep.missing stored, Set.empty_union]
  | some existing =>
    obtain ⟨some, joined⟩ := rep.found stored
    have present := joined.ne_empty some fun name mem => (rep.proper path name mem).1
    simp only [if_neg present]
    exact rep.insert nonempty proper (joined.union some (fun name mem => (rep.proper path name mem).2)
      join nonempty fun name mem => (proper name mem).2)

/-- The loop of a merge adds the types of its entries. -/
theorem mergeEntries (rep' : Represents observed types') {entries : List (String × String)}
    (stored : ∀ entry ∈ entries, observed[entry.1]? = some entry.2) (rep : Represents target types) :
    Represents (entries.foldl ApiObservatory.mergeEntry target) fun path =>
      types path ∪ {name | path ∈ entries.map Prod.fst ∧ name ∈ types' path} := by
  induction entries generalizing target types with
  | nil => exact rep.congr fun path => by simp
  | cons entry rest ih =>
    obtain ⟨here, later⟩ := List.forall_mem_cons.mp stored
    obtain ⟨nonempty, joined⟩ := rep'.found here
    have step := rep.mergeEntry entry.1 nonempty (rep'.proper entry.1) joined
    refine (ih later step).congr fun path => ?_
    by_cases same : path = entry.1
    · subst same
      rw [Function.update_self, Set.union_assoc]
      refine congrArg (types entry.1 ∪ ·) (Set.ext fun name => ⟨?_, fun mem => .inl mem.2⟩)
      rintro (mem | ⟨-, mem⟩) <;> exact ⟨List.mem_cons_self, mem⟩
    · rw [Function.update_of_ne same]
      simp [same]

/-- **Merging is the union.** -/
theorem mergeFlatSchema (rep : Represents target types) (rep' : Represents observed types') :
    Represents (mergeFlatSchema target observed) fun path => types path ∪ types' path := by
  have stored : ∀ entry ∈ observed.toList, observed[entry.1]? = some entry.2 := fun entry mem =>
    Std.ExtTreeMap.mem_toList_iff_getElem?_eq_some.mp mem
  refine (rep'.mergeEntries stored rep).congr fun path => congrArg _ ?_
  ext name
  refine ⟨fun mem => mem.2, fun mem => ⟨?_, mem⟩⟩
  rw [Std.ExtTreeMap.map_fst_toList_eq_keys, Std.ExtTreeMap.mem_keys]
  exact rep'.mem_iff.mpr ⟨name, mem⟩

end Represents

/-! ### Flattening -/

/-- The types of the values that are reached at a path from one at `start`. -/
def reachedTypes (value : Json) (start path : String) : Set String :=
  {name | ∃ steps reached, Occurs value steps reached ∧ pathFrom start steps = path ∧
    valueType reached = name}

/-- The types of a value alone. -/
def ownType (value : Json) (start path : String) : Set String :=
  {name | path = start ∧ valueType value = name}

theorem represents_insert (value : Json) (path : String) :
    Represents ((∅ : FlatSchema).insert path (valueType value)) (ownType value path) := by
  have single : (∅ : FlatSchema).insert path (valueType value) =
      mergeEntry ∅ (path, valueType value) := by
    simp [mergeEntry]
  rw [single]
  refine (Represents.empty.mergeEntry path (Set.singleton_nonempty _) ?_ (.singleton _)).congr ?_
  · rintro name rfl
    exact properName_valueType value
  · intro other
    by_cases same : other = path
    · subst same
      ext name
      simp [ownType, eq_comm]
    · simp [ownType, same]

/-- A value is reached from itself, and from the children of an object or an array. -/
theorem reachedTypes_object (fields : List (String × Json)) (start path : String) :
    reachedTypes (.object fields) start path = ownType (.object fields) start path ∪
      {name | ∃ item ∈ fields, name ∈ reachedTypes item.2 (start ++ "." ++ item.1) path} := by
  ext name
  constructor
  · rintro ⟨steps, reached, occurs, rfl, rfl⟩
    cases occurs with
    | here => exact .inl ⟨rfl, rfl⟩
    | member mem occurs =>
      exact .inr ⟨_, mem, _, _, occurs, by rw [String.append_assoc]; rfl, rfl⟩
  · rintro (⟨rfl, rfl⟩ | ⟨item, mem, steps, reached, occurs, rfl, rfl⟩)
    · exact ⟨[], _, .here _, rfl, rfl⟩
    · exact ⟨_, _, .member mem occurs, by rw [String.append_assoc]; rfl, rfl⟩

theorem reachedTypes_array (elements : List Json) (start path : String) :
    reachedTypes (.array elements) start path = ownType (.array elements) start path ∪
      {name | ∃ child ∈ elements.take arrayInspectionLimit,
        name ∈ reachedTypes child (start ++ "[]") path} := by
  ext name
  constructor
  · rintro ⟨steps, reached, occurs, rfl, rfl⟩
    cases occurs with
    | here => exact .inl ⟨rfl, rfl⟩
    | element mem occurs => exact .inr ⟨_, mem, _, _, occurs, rfl, rfl⟩
  · rintro (⟨rfl, rfl⟩ | ⟨child, mem, steps, reached, occurs, rfl, rfl⟩)
    · exact ⟨[], _, .here _, rfl, rfl⟩
    · exact ⟨_, _, .element mem occurs, rfl, rfl⟩

/-- A value without children is reached from itself only. -/
theorem reachedTypes_leaf {value : Json} (leaf : ∀ steps reached, Occurs value steps reached → steps = [])
    (start path : String) : reachedTypes value start path = ownType value start path := by
  ext name
  constructor
  · rintro ⟨steps, reached, occurs, rfl, rfl⟩
    cases leaf steps reached occurs
    cases occurs
    exact ⟨rfl, rfl⟩
  · rintro ⟨rfl, rfl⟩
    exact ⟨[], _, .here _, rfl, rfl⟩

theorem union_cons {Item : Type} (types : Item → Set String) (first : Item) (rest : List Item) :
    types first ∪ {name | ∃ item ∈ rest, name ∈ types item} =
      {name | ∃ item ∈ first :: rest, name ∈ types item} := by
  ext name
  exact (List.exists_mem_cons_iff (name ∈ types ·) first rest).symm

mutual

/-- **Flattening a value** says of each path the types of the values that are reached there. -/
theorem represents_flattenValue : ∀ (value : Json) (path : String),
    Represents (flattenValue value path) (reachedTypes value path)
  | .null, path => (represents_insert .null path).congr fun other =>
      (reachedTypes_leaf (fun _ _ occurs => by cases occurs; rfl) path other).symm
  | .bool value, path => (represents_insert (.bool value) path).congr fun other =>
      (reachedTypes_leaf (fun _ _ occurs => by cases occurs; rfl) path other).symm
  | .number literal, path => (represents_insert (.number literal) path).congr fun other =>
      (reachedTypes_leaf (fun _ _ occurs => by cases occurs; rfl) path other).symm
  | .string text, path => (represents_insert (.string text) path).congr fun other =>
      (reachedTypes_leaf (fun _ _ occurs => by cases occurs; rfl) path other).symm
  | .array elements, path => by
      have merged := represents_flattenElements elements arrayInspectionLimit (path ++ "[]")
        (represents_insert (.array elements) path)
      exact merged.congr fun other => (reachedTypes_array elements path other).symm
  | .object fields, path => by
      have merged := represents_flattenFields fields path (represents_insert (.object fields) path)
      exact merged.congr fun other => (reachedTypes_object fields path other).symm

theorem represents_flattenFields : ∀ (fields : List (String × Json)) (path : String)
    {flat : FlatSchema} {types : String → Set String}, Represents flat types →
    Represents (flattenFields fields path flat) fun other => types other ∪
      {name | ∃ item ∈ fields, name ∈ reachedTypes item.2 (path ++ "." ++ item.1) other}
  | [], path, flat, types, rep => rep.congr fun other => by simp
  | (key, child) :: rest, path, flat, types, rep => by
      have merged := represents_flattenFields rest path
        (rep.mergeFlatSchema (represents_flattenValue child (path ++ "." ++ key)))
      refine merged.congr fun other => ?_
      rw [Set.union_assoc]
      exact congrArg (types other ∪ ·)
        (union_cons (fun item => reachedTypes item.2 (path ++ "." ++ item.1) other) (key, child) rest)

theorem represents_flattenElements : ∀ (elements : List Json) (n : Nat) (path : String)
    {flat : FlatSchema} {types : String → Set String}, Represents flat types →
    Represents (flattenElements elements n path flat) fun other => types other ∪
      {name | ∃ child ∈ elements.take n, name ∈ reachedTypes child path other}
  | [], n, path, flat, types, rep => rep.congr fun other => by simp
  | element :: rest, 0, path, flat, types, rep => rep.congr fun other => by simp
  | element :: rest, n + 1, path, flat, types, rep => by
      have merged := represents_flattenElements rest n path
        (rep.mergeFlatSchema (represents_flattenValue element path))
      refine merged.congr fun other => ?_
      rw [Set.union_assoc]
      exact congrArg (types other ∪ ·) (union_cons (reachedTypes · path other) element (rest.take n))

end

theorem mem_visitedTypes_iff {payload : Payload} {path name : String} :
    name ∈ visitedTypes payload path ↔ ∃ item ∈ payload, name ∈ reachedTypes item.2 item.1 path := by
  constructor
  · rintro ⟨reached, visited, named⟩
    obtain ⟨key, steps, occurs, same⟩ := visits_iff.mp visited
    obtain ⟨child, mem, occurs⟩ := occurs_object_iff.mp occurs
    exact ⟨(key, child), mem, steps, reached, occurs, same, named⟩
  · rintro ⟨item, mem, steps, reached, occurs, same, named⟩
    exact ⟨reached, visits_iff.mpr ⟨item.1, steps, .member mem occurs, same⟩, named⟩

/-- **Flattening a payload** says of each path the types of the values that are visited there. -/
theorem represents_flattenSchema (payload : Payload) :
    Represents (flattenSchema payload "") (visitedTypes payload) := by
  have loop : ∀ (fields : Payload) (flat : FlatSchema) (types : String → Set String),
      Represents flat types → Represents (fields.foldl (fun flat item =>
        let path := if "" = "" then item.1 else "" ++ "." ++ item.1
        mergeFlatSchema flat (flattenValue item.2 path)) flat) fun path => types path ∪
          {name | ∃ item ∈ fields, name ∈ reachedTypes item.2 item.1 path} := by
    intro fields
    induction fields with
    | nil => exact fun flat types rep => rep.congr fun path => by simp
    | cons item rest ih =>
      intro flat types rep
      refine (ih _ _ (rep.mergeFlatSchema (represents_flattenValue item.2 item.1))).congr fun path => ?_
      rw [Set.union_assoc]
      exact congrArg (types path ∪ ·) (union_cons (fun item => reachedTypes item.2 item.1 path) item rest)
  refine (loop payload ∅ _ .empty).congr fun path => ?_
  rw [Set.empty_union]
  exact Set.ext fun name => mem_visitedTypes_iff.symm

/-- **Flattening computes the type union of every path**: a flat schema has the paths that the payload
visits, and at each of them the sorted types of the values there. -/
theorem flatten_schema_spec (payload : Payload) (path : String) :
    (path ∈ flattenSchema payload "" ↔ ∃ value, Visits payload path value) ∧
      ∀ text, (flattenSchema payload "")[path]? = some text →
        IsJoin '|' text (visitedTypes payload path) := by
  have rep := represents_flattenSchema payload
  refine ⟨rep.mem_iff.trans ⟨?_, ?_⟩, fun text stored => (rep.found stored).2⟩
  · rintro ⟨name, value, visited, -⟩
    exact ⟨value, visited⟩
  · rintro ⟨value, visited⟩
    exact ⟨_, value, visited, rfl⟩

end ApiObservatory.ContractPaths
