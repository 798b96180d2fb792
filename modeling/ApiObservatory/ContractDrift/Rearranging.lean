import ApiObservatory.ContractDrift.Baselines
import ApiObservatory.ContractDrift.Flattening

/-
Payloads of one structure (`services/ingestor/repositories/contract_drift.py`).

A payload is rearranged by moving the keys of an object or the elements of an array that is inspected
as a whole, and by replacing a scalar by one of its type, at any depth. Every path is then reached by
values of the same types. The comparison and the candidate of a baseline read a payload only through
its flat schema, so calls with rearranged payloads leave the same baselines, drift events and scores.
-/

namespace ApiObservatory.ContractPaths

open Foundation
open ContractDrift (Label call)

/-! ### Rearranged payloads -/

def IsScalar : Json → Prop
  | .array _ => False
  | .object _ => False
  | _ => True

/-- The second value is made from the first by reordering keys, permuting the elements of arrays of at
most 20 of them, and replacing scalars by scalars of the same type, anywhere and any number of times. -/
inductive Rearranged : Json → Json → Prop where
  | refl (value : Json) : Rearranged value value
  | trans {a b c : Json} : Rearranged a b → Rearranged b c → Rearranged a c
  | scalar {a b : Json} : IsScalar a → IsScalar b → valueType a = valueType b → Rearranged a b
  | keys {fields fields' : List (String × Json)} : fields.Perm fields' →
      Rearranged (.object fields) (.object fields')
  | elements {elements elements' : List Json} : elements.Perm elements' →
      elements.length ≤ arrayInspectionLimit → Rearranged (.array elements) (.array elements')
  | member {before after : List (String × Json)} {key : String} {child child' : Json} :
      Rearranged child child' →
      Rearranged (.object (before ++ (key, child) :: after)) (.object (before ++ (key, child') :: after))
  | element {before after : List Json} {child child' : Json} : Rearranged child child' →
      Rearranged (.array (before ++ child :: after)) (.array (before ++ child' :: after))

/-- The types of the values that the steps reach. -/
def typesAt (value : Json) (steps : List PathStep) : Set String :=
  {name | ∃ reached, Occurs value steps reached ∧ valueType reached = name}

section Types

variable {value value' : Json} {steps : List PathStep} {key : String}

@[simp] theorem typesAt_nil : typesAt value [] = {valueType value} := by
  ext name
  constructor
  · rintro ⟨reached, occurs, rfl⟩
    cases occurs
    rfl
  · rintro rfl
    exact ⟨value, .here value, rfl⟩

theorem mem_typesAt_object {fields : List (String × Json)} {name : String} :
    name ∈ typesAt (.object fields) (.member key :: steps) ↔
      ∃ child, (key, child) ∈ fields ∧ name ∈ typesAt child steps := by
  constructor
  · rintro ⟨reached, occurs, rfl⟩
    obtain ⟨child, mem, occurs⟩ := occurs_object_iff.mp occurs
    exact ⟨child, mem, reached, occurs, rfl⟩
  · rintro ⟨child, mem, reached, occurs, rfl⟩
    exact ⟨reached, .member mem occurs, rfl⟩

theorem mem_typesAt_array {elements : List Json} {name : String} :
    name ∈ typesAt (.array elements) (.element :: steps) ↔
      ∃ child ∈ elements.take arrayInspectionLimit, name ∈ typesAt child steps := by
  constructor
  · rintro ⟨reached, occurs, rfl⟩
    obtain ⟨child, mem, occurs⟩ := occurs_array_iff.mp occurs
    exact ⟨child, mem, reached, occurs, rfl⟩
  · rintro ⟨child, mem, reached, occurs, rfl⟩
    exact ⟨reached, .element mem occurs, rfl⟩

/-- No step leads on from a scalar, nor to an element of an object or a member of an array. -/
theorem typesAt_scalar {step : PathStep} (scalar : IsScalar value) : typesAt value (step :: steps) = ∅ := by
  refine Set.eq_empty_of_forall_notMem ?_
  rintro name ⟨reached, occurs, -⟩
  cases occurs <;> exact scalar

theorem typesAt_object_element {fields : List (String × Json)} :
    typesAt (.object fields) (.element :: steps) = ∅ := by
  refine Set.eq_empty_of_forall_notMem ?_
  rintro name ⟨reached, occurs, -⟩
  cases occurs

theorem typesAt_array_member {elements : List Json} :
    typesAt (.array elements) (.member key :: steps) = ∅ := by
  refine Set.eq_empty_of_forall_notMem ?_
  rintro name ⟨reached, occurs, -⟩
  cases occurs

/-- Objects whose fields reach the same types. -/
theorem typesAt_object_congr {fields fields' : List (String × Json)}
    (same : ∀ key steps name, (∃ child, (key, child) ∈ fields ∧ name ∈ typesAt child steps) ↔
      ∃ child, (key, child) ∈ fields' ∧ name ∈ typesAt child steps) (steps : List PathStep) :
    typesAt (.object fields) steps = typesAt (.object fields') steps := by
  match steps with
  | [] => rw [typesAt_nil, typesAt_nil]; rfl
  | .element :: rest => rw [typesAt_object_element, typesAt_object_element]
  | .member key :: rest =>
    ext name
    rw [mem_typesAt_object, mem_typesAt_object, same]

/-- Arrays whose first elements reach the same types. -/
theorem typesAt_array_congr {elements elements' : List Json}
    (same : ∀ steps name, (∃ child ∈ elements.take arrayInspectionLimit, name ∈ typesAt child steps) ↔
      ∃ child ∈ elements'.take arrayInspectionLimit, name ∈ typesAt child steps) (steps : List PathStep) :
    typesAt (.array elements) steps = typesAt (.array elements') steps := by
  match steps with
  | [] => rw [typesAt_nil, typesAt_nil]; rfl
  | .member key :: rest => rw [typesAt_array_member, typesAt_array_member]
  | .element :: rest =>
    ext name
    rw [mem_typesAt_array, mem_typesAt_array, same]

/-- **Rearranging keeps the types at all steps.** -/
theorem Rearranged.typesAt_eq (rearranged : Rearranged value value') (steps : List PathStep) :
    typesAt value steps = typesAt value' steps := by
  induction rearranged generalizing steps with
  | refl => rfl
  | trans _ _ ih ih' => exact (ih steps).trans (ih' steps)
  | scalar isScalar isScalar' same =>
    cases steps with
    | nil => rw [typesAt_nil, typesAt_nil, same]
    | cons step rest => rw [typesAt_scalar isScalar, typesAt_scalar isScalar']
  | keys perm =>
    exact typesAt_object_congr (fun key rest name => exists_congr fun child => by rw [perm.mem_iff]) steps
  | elements perm short =>
    refine typesAt_array_congr (fun rest name => exists_congr fun child => ?_) steps
    rw [List.take_of_length_le short, List.take_of_length_le (perm.length_eq ▸ short), perm.mem_iff]
  | @member before after key child child' _ ih =>
    refine typesAt_object_congr (fun other rest name => ?_) steps
    simp only [List.mem_append, List.mem_cons, Prod.mk.injEq, or_and_right, exists_or, and_assoc,
      exists_and_left, exists_eq_left, ih]
  | @element before after child child' _ ih =>
    refine typesAt_array_congr (fun rest name => ?_) steps
    rw [List.take_append, List.take_append]
    cases arrayInspectionLimit - before.length with
    | zero => simp
    | succ n => simp only [List.take_succ_cons, List.mem_append, List.mem_cons, or_and_right, exists_or, exists_eq_left, ih]

end Types

theorem visitedTypes_eq (payload : Payload) (path : String) :
    visitedTypes payload path =
      {name | ∃ key steps, pathFrom key steps = path ∧
        name ∈ typesAt (.object payload) (.member key :: steps)} := by
  ext name
  constructor
  · rintro ⟨reached, visited, rfl⟩
    obtain ⟨key, steps, occurs, same⟩ := visits_iff.mp visited
    exact ⟨key, steps, same, reached, occurs, rfl⟩
  · rintro ⟨key, steps, same, reached, occurs, rfl⟩
    exact ⟨reached, visits_iff.mpr ⟨key, steps, occurs, same⟩, rfl⟩

theorem flattenSchema_congr {p q : Payload}
    (same : ∀ key steps, typesAt (.object p) (.member key :: steps) =
      typesAt (.object q) (.member key :: steps)) : flattenSchema p "" = flattenSchema q "" := by
  have types : visitedTypes p = visitedTypes q := by
    funext path
    simp only [visitedTypes_eq, same]
  have rep := represents_flattenSchema p
  rw [types] at rep
  exact rep.unique (represents_flattenSchema q)

theorem Rearranged.flattenSchema_eq {p q : Payload} (rearranged : Rearranged (.object p) (.object q)) :
    flattenSchema p "" = flattenSchema q "" :=
  flattenSchema_congr fun _ _ => rearranged.typesAt_eq _

/-! ### Calls with rearranged payloads -/

/-- The snapshots differ in their payloads only, which are rearranged. -/
structure Restated (snapshot snapshot' : ContractSnapshot) : Prop where
  rearranged : Rearranged (.object snapshot.payloadSchema) (.object snapshot'.payloadSchema)
  rest : snapshot' = { snapshot with
    payloadSchema := snapshot'.payloadSchema
    schemaFingerprint := snapshot'.schemaFingerprint }

/-- The databases differ in the payloads of their snapshots only. -/
structure SameDrift (db db' : ContractDb) : Prop where
  sources : db.sources = db'.sources
  baselines : db.baselines = db'.baselines
  driftEvents : db.driftEvents = db'.driftEvents
  nextId : db.snapshots.nextId = db'.snapshots.nextId
  snapshots : ∀ id, Option.Rel Restated (db.snapshots.get id) (db'.snapshots.get id)

/-- The call, or the same call with a rearranged payload. -/
inductive SameCall : Label → Label → Prop where
  | create {payload : ContractSnapshotCreate} {payloadSchema : Payload} (createdAt now : Int) :
      Rearranged (.object payload.payloadSchema) (.object payloadSchema) →
      SameCall (.create payload createdAt now) (.create { payload with payloadSchema } createdAt now)
  | accept (sourceId : Nat) (actor : String) (acceptanceNote : Option String)
      (candidateSnapshotId : Option Nat) (now : Int) :
      SameCall (.accept sourceId actor acceptanceNote candidateSnapshotId now)
        (.accept sourceId actor acceptanceNote candidateSnapshotId now)

/-- What a call answers: the text of its error, or the drift event and the score of the snapshot. -/
def answer (sha256 : String → String) (db : ContractDb) :
    Label → Except String (Option (Nat × DriftEvent) × Option (Nat × Int))
  | .create payload createdAt now =>
      (createContractSnapshot sha256 db payload createdAt now).map fun result =>
        (result.driftEvent, result.snapshot.map fun entry => (entry.1, entry.2.compatibilityScore))
  | .accept sourceId actor acceptanceNote candidateSnapshotId now =>
      (acceptBaseline db sourceId actor acceptanceNote candidateSnapshotId now).map fun _ => (none, none)

/-- The answers of one call after another. -/
def answers (sha256 : String → String) (db : ContractDb) :
    List Label → List (Except String (Option (Nat × DriftEvent) × Option (Nat × Int)))
  | [] => []
  | label :: rest => answer sha256 db label :: answers sha256 (call sha256 db label) rest

theorem Restated.refl (snapshot : ContractSnapshot) : Restated snapshot snapshot := ⟨.refl _, rfl⟩

theorem SameDrift.refl (db : ContractDb) : SameDrift db db where
  sources := rfl
  baselines := rfl
  driftEvents := rfl
  nextId := rfl
  snapshots id := by
    cases db.snapshots.get id with
    | none => exact .none
    | some snapshot => exact .some (.refl snapshot)

section Calls

variable {sha256 : String → String} {db db' : ContractDb} {snapshot snapshot' : ContractSnapshot}

theorem SameDrift.inserted (same : SameDrift db db') (restated : Restated snapshot snapshot') (id : Nat) :
    Option.Rel Restated ((db.snapshots.insert snapshot).get id)
      ((db'.snapshots.insert snapshot').get id) := by
  by_cases here : id = db.snapshots.nextId
  · subst here
    rw [Rows.get_insert_self, same.nextId, Rows.get_insert_self]
    exact .some restated
  · rw [Rows.get_insert_of_ne _ here, Rows.get_insert_of_ne _ (same.nextId ▸ here)]
    exact same.snapshots id

theorem Restated.scored (restated : Restated snapshot snapshot') (score : Int) :
    Restated { snapshot with compatibilityScore := score } { snapshot' with compatibilityScore := score } := by
  refine ⟨restated.rearranged, ?_⟩
  rw [restated.rest]

theorem Restated.score_eq (restated : Restated snapshot snapshot') :
    snapshot'.compatibilityScore = snapshot.compatibilityScore := by
  rw [restated.rest]

/-- Ids with snapshots that differ in their payloads only. -/
def SameEntry (entry entry' : Nat × ContractSnapshot) : Prop := entry.1 = entry'.1 ∧ Restated entry.2 entry'.2

/-- Results that differ in the payloads of snapshots only. -/
inductive SameResult : Except String SnapshotResult → Except String SnapshotResult → Prop where
  | error (text : String) : SameResult (.error text) (.error text)
  | ok {result result' : SnapshotResult} : SameDrift result.db result'.db →
      Option.Rel SameEntry result.snapshot result'.snapshot → result.driftEvent = result'.driftEvent →
      SameResult (.ok result) (.ok result')

section Ingestion

variable {payload payload' : ContractSnapshotCreate} {createdAt now : Int}
  (source : payload'.sourceId = payload.sourceId)
  (flat : flattenSchema payload.payloadSchema "" = flattenSchema payload'.payloadSchema "")

include source flat

/-- The comparison reads the payload of a call through its flat schema. -/
theorem afterComparison_congr (baseline : ContractBaseline) (diff : ContractDiff)
    (snapshotId eventId : Nat) : afterComparison sha256 payload baseline diff snapshotId eventId now =
      afterComparison sha256 payload' baseline diff snapshotId eventId now := by
  unfold afterComparison
  rw [source, flat]

theorem SameDrift.compared (same : SameDrift db db') (restated : Restated snapshot snapshot')
    (baselineId : Nat) (baseline : ContractBaseline) (diff : ContractDiff) :
    SameResult (.ok (compareWithBaseline sha256 db payload snapshot baselineId baseline diff now))
      (.ok (compareWithBaseline sha256 db' payload' snapshot' baselineId baseline diff now)) := by
  have after : afterComparison sha256 payload baseline diff db.snapshots.nextId db.driftEvents.nextId now =
      afterComparison sha256 payload' baseline diff db.snapshots.nextId db.driftEvents.nextId now :=
    afterComparison_congr source flat baseline diff _ _
  have scored := restated.scored (compatibilityScore diff)
  unfold compareWithBaseline
  simp only [after, ← same.nextId, ← same.driftEvents, ← same.baselines]
  exact .ok ⟨same.sources, rfl, rfl, congrArg (· + 1) same.nextId, same.inserted scored⟩
    (.some ⟨rfl, scored⟩) rfl

/-- **One ingestion** of a rearranged payload. -/
theorem SameDrift.created (same : SameDrift db db')
    (restated : Restated (newSnapshot sha256 payload createdAt) (newSnapshot sha256 payload' createdAt)) :
    SameResult (createContractSnapshot sha256 db payload createdAt now)
      (createContractSnapshot sha256 db' payload' createdAt now) := by
  have live : db'.liveSource payload.sourceId = db.liveSource payload.sourceId := by
    unfold ContractDb.liveSource
    rw [same.sources]
  have active : getActiveContractBaseline db' payload.sourceId =
      getActiveContractBaseline db payload.sourceId := by
    unfold getActiveContractBaseline
    rw [same.baselines]
  unfold createContractSnapshot
  rw [source, live]
  cases db.liveSource payload.sourceId with
  | none => exact .ok same .none rfl
  | some profile =>
    simp only [active]
    cases getActiveContractBaseline db payload.sourceId with
    | none =>
      refine .ok ⟨same.sources, ?_, same.driftEvents, congrArg (· + 1) same.nextId,
        same.inserted restated⟩ (.some ⟨same.nextId, restated⟩) rfl
      rw [same.baselines, same.nextId]
    | some entry =>
      obtain ⟨baselineId, baseline⟩ := entry
      have stored := same.inserted restated baseline.baselineSnapshotId
      simp only
      generalize (db.snapshots.insert _).get baseline.baselineSnapshotId = found at stored ⊢
      generalize (db'.snapshots.insert _).get baseline.baselineSnapshotId = found' at stored ⊢
      cases stored with
      | none => exact .error _
      | some before =>
        simp only [← before.rearranged.flattenSchema_eq, ← flat]
        exact same.compared source flat restated baselineId baseline _

end Ingestion

/-- An acceptance reads the sources of snapshots only. -/
theorem SameDrift.accepted (same : SameDrift db db') (sourceId : Nat) (actor : String)
    (acceptanceNote : Option String) (candidateSnapshotId : Option Nat) (now : Int) :
    (∃ text, acceptBaseline db sourceId actor acceptanceNote candidateSnapshotId now = .error text ∧
      acceptBaseline db' sourceId actor acceptanceNote candidateSnapshotId now = .error text) ∨
    ∃ after after', acceptBaseline db sourceId actor acceptanceNote candidateSnapshotId now = .ok after ∧
      acceptBaseline db' sourceId actor acceptanceNote candidateSnapshotId now = .ok after' ∧
      SameDrift after after' := by
  have active : getActiveContractBaseline db' sourceId = getActiveContractBaseline db sourceId := by
    unfold getActiveContractBaseline
    rw [same.baselines]
  unfold acceptBaseline
  rw [active]
  cases getActiveContractBaseline db sourceId with
  | none => exact .inl ⟨_, rfl, rfl⟩
  | some entry =>
    obtain ⟨baselineId, baseline⟩ := entry
    simp only [acceptContractBaseline]
    split
    · rename_i selected current _ _
      by_cases stale : selected ≠ current
      · rw [if_pos stale, if_pos stale]
        exact .inl ⟨_, rfl, rfl⟩
      · rw [if_neg stale, if_neg stale]
        have stored := same.snapshots selected
        generalize db.snapshots.get selected = found at stored ⊢
        generalize db'.snapshots.get selected = found' at stored ⊢
        cases stored with
        | none => exact .inl ⟨_, rfl, rfl⟩
        | @some snapshot snapshot' restated =>
          have source : snapshot'.sourceId = snapshot.sourceId := by rw [restated.rest]
          rw [Option.filter_some, Option.filter_some, source]
          cases snapshot.sourceId == baseline.sourceId with
          | false => exact .inl ⟨_, rfl, rfl⟩
          | true =>
            refine .inr ⟨_, _, rfl, rfl, same.sources, ?_, same.driftEvents, same.nextId, same.snapshots⟩
            rw [same.baselines]
    · exact .inl ⟨_, rfl, rfl⟩

/-- **One call**, with the payload rearranged if it has one. -/
theorem SameDrift.step (same : SameDrift db db') {label label' : Label} (calls : SameCall label label') :
    SameDrift (call sha256 db label) (call sha256 db' label') ∧
      answer sha256 db label = answer sha256 db' label' := by
  cases calls with
  | @create payload payloadSchema createdAt now rearranged =>
    have created : SameResult (createContractSnapshot sha256 db payload createdAt now)
        (createContractSnapshot sha256 db' { payload with payloadSchema } createdAt now) :=
      same.created rfl rearranged.flattenSchema_eq ⟨rearranged, rfl⟩
    simp only [call, answer]
    generalize createContractSnapshot sha256 db payload createdAt now = result at created ⊢
    generalize createContractSnapshot sha256 db' { payload with payloadSchema } createdAt now = result'
      at created ⊢
    cases created with
    | error text => exact ⟨same, rfl⟩
    | @ok result result' after snapshots events =>
      suffices scores : (result.snapshot.map fun entry => (entry.1, entry.2.compatibilityScore)) =
          result'.snapshot.map fun entry => (entry.1, entry.2.compatibilityScore) from
        ⟨after, congrArg Except.ok (Prod.ext events scores)⟩
      generalize result.snapshot = found at snapshots ⊢
      generalize result'.snapshot = found' at snapshots ⊢
      cases snapshots with
      | none => rfl
      | some entries =>
        obtain ⟨id, restated⟩ := entries
        rw [Option.map_some, Option.map_some, id, restated.score_eq]
  | accept sourceId actor acceptanceNote candidateSnapshotId now =>
    simp only [call, answer]
    rcases same.accepted sourceId actor acceptanceNote candidateSnapshotId now with
      ⟨text, refused, refused'⟩ | ⟨after, after', done, done', still⟩
    · rw [refused, refused']
      exact ⟨same, rfl⟩
    · rw [done, done']
      exact ⟨still, rfl⟩

/-- **Any sequence of calls** leaves the same and answers the same. -/
theorem SameDrift.run {labels labels' : List Label} (calls : List.Forall₂ SameCall labels labels')
    (same : SameDrift db db') :
    SameDrift (labels.foldl (call sha256) db) (labels'.foldl (call sha256) db') ∧
      answers sha256 db labels = answers sha256 db' labels' := by
  induction calls generalizing db db' with
  | nil => exact ⟨same, rfl⟩
  | cons first _ ih =>
    obtain ⟨after, answered⟩ := same.step first
    obtain ⟨last, later⟩ := ih after
    refine ⟨last, ?_⟩
    rw [answers, answers, answered, later]

end Calls

/-- The call, or the call with `q` for its payload `p`. -/
inductive Replaces (p q : Payload) : Label → Label → Prop where
  | kept (label : Label) : Replaces p q label label
  | replaced {payload : ContractSnapshotCreate} (createdAt now : Int) : payload.payloadSchema = p →
      Replaces p q (.create payload createdAt now) (.create { payload with payloadSchema := q } createdAt now)

theorem SameCall.of_replaces {p q : Payload} (rearranged : Rearranged (.object p) (.object q))
    {label label' : Label} (replaces : Replaces p q label label') : SameCall label label' := by
  cases replaces with
  | kept =>
    cases label with
    | create payload createdAt now => exact .create createdAt now (.refl _)
    | accept => exact .accept ..
  | replaced createdAt now same =>
    subst same
    exact .create createdAt now rearranged

/-- **Drift detection is independent of values and of order.** A rearranged payload has the same flat
schema and fingerprint, does not differ from the payload it was made from, and can stand for it in any
sequence of calls: the baselines with their candidates, the drift events and the scores stay. -/
theorem rearranged_same_drift (sha256 : String → String) {p q : Payload}
    (rearranged : Rearranged (.object p) (.object q)) :
    flattenSchema p "" = flattenSchema q "" ∧
      structureFingerprint sha256 (flattenSchema p "") = structureFingerprint sha256 (flattenSchema q "") ∧
      (diffContract (flattenSchema p "") (flattenSchema q "")).isEmpty = true ∧
      (diffContract (flattenSchema q "") (flattenSchema p "")).isEmpty = true ∧
      ∀ (db : ContractDb) (labels labels' : List Label), List.Forall₂ (Replaces p q) labels labels' →
        SameDrift (labels.foldl (call sha256) db) (labels'.foldl (call sha256) db) ∧
          answers sha256 db labels = answers sha256 db labels' := by
  have flat := rearranged.flattenSchema_eq
  rw [flat]
  refine ⟨rfl, rfl, diffContract_self _, diffContract_self _, fun db labels labels' replaces => ?_⟩
  exact SameDrift.run (replaces.imp fun _ _ => .of_replaces rearranged) (.refl db)

/-- Two polls of one source. -/
def firstPoll : Payload :=
  [("items", .array [.number "1", .string "one", .null]), ("count", .number "3")]

def secondPoll : Payload :=
  [("count", .number "7"), ("items", .array [.null, .number "1", .string "one"])]

theorem rearranged_polls : Rearranged (.object firstPoll) (.object secondPoll) ∧
    flattenSchema firstPoll "" = flattenSchema secondPoll "" := by
  have reordered : Rearranged (.object firstPoll)
      (.object [("count", .number "3"), ("items", .array [.number "1", .string "one", .null])]) :=
    .keys (.swap _ _ _)
  have counted : Rearranged
      (.object ([] ++ ("count", .number "3") :: [("items", .array [.number "1", .string "one", .null])]))
      (.object ([] ++ ("count", .number "7") :: [("items", .array [.number "1", .string "one", .null])])) :=
    .member (.scalar trivial trivial rfl)
  have permuted : Rearranged
      (.object ([("count", .number "7")] ++ ("items", .array [.number "1", .string "one", .null]) :: []))
      (.object ([("count", .number "7")] ++ ("items", .array [.null, .number "1", .string "one"]) :: [])) :=
    .member (.elements (@List.perm_append_comm _ [_, _] [_]) (by decide))
  have moved := reordered.trans (counted.trans permuted)
  exact ⟨moved, (rearranged_same_drift id moved).1⟩

end ApiObservatory.ContractPaths
