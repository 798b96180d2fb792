import ApiObservatory.Foundation.Run
import ApiObservatory.Health.Calls

/-
Sequences of `record_health_sample` calls for one source.

The calls run one after another; operators may acknowledge incidents in between.
`Registered` is what holds after every sequence, whatever the `sampled_at` values
are and in whatever order they arrive.
-/

namespace ApiObservatory.Health

open Foundation Incidents

/-! ### The machine -/

inductive Label where
  | record (payload : HealthSampleCreate) (now checkedAt : TriggerType → Int)
  | acknowledge (id : Nat) (actor : String) (now : Int)

/-- One call. A call that raises changes nothing and is not a step. -/
def next (source : SourceProfile) (db : HealthDb) : Label → Option HealthDb
  | .record payload now checkedAt =>
      if payload.sourceId = source.id then
        match recordHealthSample db payload now checkedAt with
        | .error _ => none
        | .ok (db', _) => some db'
      else none
  | .acknowledge id actor now =>
      match db.incidents.get id with
      | none => none
      | some incident =>
          match acknowledgeIncident incident actor now with
          | .error _ => none
          | .ok changed => some { db with incidents := db.incidents.modify id fun _ => changed }

/-- The source, without samples and incidents. -/
def initial (source : SourceProfile) : HealthDb where
  sources := .single source.id source
  samples := .empty
  incidents := .empty

def Label.recorded : Label → Option HealthSampleCreate
  | .record payload _ _ => some payload
  | .acknowledge _ _ _ => none

/-- The recorded samples, the latest call first. -/
def recorded (history : List (HealthDb × Label)) : List HealthSampleCreate :=
  history.filterMap fun entry => entry.2.recorded

/-! ### The newest samples -/

/-- `ORDER BY sampled_at DESC` sorts. -/
theorem pairwise_sampledAt (samples : List ProviderHealthSample) :
    (samples.insertionSort fun a b => b.sampledAt ≤ a.sampledAt).Pairwise
      fun a b => b.sampledAt ≤ a.sampledAt := by
  let newer : ProviderHealthSample → ProviderHealthSample → Prop :=
    fun a b => b.sampledAt ≤ a.sampledAt
  have total : Std.Total newer := ⟨fun a b => (le_total a.sampledAt b.sampledAt).symm⟩
  have trans : IsTrans _ newer := ⟨fun _ _ _ ab bc => le_trans bc ab⟩
  exact List.pairwise_insertionSort newer samples

/-- `ORDER BY sampled_at DESC` of samples whose order is known. -/
theorem insertionSort_sampledAt {samples sorted : List ProviderHealthSample}
    (same : samples.Perm sorted) (order : sorted.Pairwise fun a b => b.sampledAt < a.sampledAt) :
    (samples.insertionSort fun a b => b.sampledAt ≤ a.sampledAt) = sorted := by
  have nodup : (sorted.map (·.sampledAt)).Nodup := by
    rw [List.Nodup, List.pairwise_map]
    exact order.imp fun lt => (Int.ne_of_lt lt).symm
  have perm := (List.perm_insertionSort (fun a b => b.sampledAt ≤ a.sampledAt) samples).trans same
  refine List.Perm.eq_of_pairwise ?_ (pairwise_sampledAt samples) (order.imp Int.le_of_lt) perm
  intro a b memA memB ab ba
  exact List.inj_on_of_nodup_map nodup (perm.mem_iff.mp memA) memB (le_antisymm ba ab)

/-- The samples of a source in the order of their calls. -/
def samplesOf (source : SourceProfile) (samples : Rows ProviderHealthSample) :
    List ProviderHealthSample :=
  (samples.select fun _ row => row.sourceId == source.id).map Prod.snd

theorem samplesOf_insert {source : SourceProfile} (samples : Rows ProviderHealthSample)
    {sample : ProviderHealthSample} (own : sample.sourceId = source.id) :
    samplesOf source (samples.insert sample) = samplesOf source samples ++ [sample] := by
  unfold samplesOf
  rw [Rows.select_insert, if_pos (beq_iff_eq.mpr own), List.map_append]
  rfl

/-! ### One call -/

section Step

variable {source : SourceProfile} {db db' : HealthDb} {label : Label}

/-- The samples of `record_health_sample`, and its incidents. -/
structure Recorded (source : SourceProfile) (db : HealthDb) (payload : HealthSampleCreate)
    (now checkedAt : TriggerType → Int) (db' : HealthDb) : Prop where
  own : payload.sourceId = source.id
  sources : db'.sources = db.sources
  samples : db'.samples = db.samples.insert (newSample source payload)
  incidents : db'.incidents = (applyCalls source
    (reconcileCalls source db.samples.nextId (newSample source payload)
      (((samplesOf source db'.samples).insertionSort fun a b => b.sampledAt ≤ a.sampledAt).take
        source.incidentFailureThreshold) now checkedAt) db.incidents).1

theorem recorded_of_next {payload : HealthSampleCreate} {now checkedAt : TriggerType → Int}
    (found : db.sources.get source.id = some source)
    (h : next source db (.record payload now checkedAt) = some db') :
    Recorded source db payload now checkedAt db' := by
  simp only [next] at h
  split at h
  · rename_i own
    unfold recordHealthSample at h
    rw [own, found] at h
    cases live : (some source).filter (·.deletedAt.isNone) with
    | none =>
      rw [live] at h
      cases h
    | some source' =>
      obtain rfl : source = source' := Option.some.inj (Option.filter_eq_some_iff.mp live).1
      rw [live] at h
      obtain rfl := Option.some.inj h
      exact ⟨own, rfl, rfl, rfl⟩
  · cases h

/-- A sample of a live source is recorded. -/
theorem recordHealthSample_ok {payload : HealthSampleCreate}
    (found : db.sources.get payload.sourceId = some source) (live : source.deletedAt = none)
    (now checkedAt : TriggerType → Int) :
    ∃ done, recordHealthSample db payload now checkedAt = .ok done := by
  have stays : (some source).filter (fun source => source.deletedAt.isNone) = some source := by
    simp [live]
  unfold recordHealthSample
  rw [found, stays]
  exact ⟨_, rfl⟩

/-- The acknowledged incident stays active under its key. -/
structure Acknowledged (db : HealthDb) (id : Nat) (db' : HealthDb) : Prop where
  sources : db'.sources = db.sources
  samples : db'.samples = db.samples
  incidents : ∃ row changed, db.incidents.get id = some row ∧ row.status = .opened ∧
    changed.status = .acknowledged ∧ changed.triggerType = row.triggerType ∧
    changed.fingerprint = row.fingerprint ∧ changed.activeKey = row.activeKey ∧
    changed.occurrenceCount = row.occurrenceCount ∧
    db'.incidents = db.incidents.modify id fun _ => changed

theorem acknowledged_of_next {id : Nat} {actor : String} {now : Int}
    (h : next source db (.acknowledge id actor now) = some db') : Acknowledged db id db' := by
  simp only [next] at h
  cases found : db.incidents.get id with
  | none =>
    rw [found] at h
    cases h
  | some row =>
    simp only [found] at h
    unfold acknowledgeIncident at h
    by_cases opened : row.status = .opened
    · rw [if_neg (not_not.mpr opened)] at h
      obtain rfl := Option.some.inj h
      exact ⟨rfl, rfl, row, { row with
        status := .acknowledged
        acknowledgedAt := some now
        acknowledgedBy := some actor }, found, opened, rfl, rfl, rfl, rfl, rfl, rfl⟩
    · rw [if_pos opened] at h
      cases h

variable {id : Nat}

theorem Acknowledged.keyed (acknowledged : Acknowledged db id db')
    (keyed : Keyed source db.incidents) : Keyed source db'.incidents := by
  obtain ⟨row, changed, found, opened, status, trigger, name, key, -, is⟩ := acknowledged.incidents
  rw [is]
  refine keyed.overwrite found trigger name (Or.inl ⟨by rw [status]; decide, ?_⟩) (Or.inl key)
  rw [key, name]
  exact (keyed.coherent found).key_of_active (by rw [opened]; decide)

theorem Acknowledged.activeCount (acknowledged : Acknowledged db id db')
    (keyed : Keyed source db.incidents) (triggerType : TriggerType) :
    activeCount source db'.incidents triggerType = activeCount source db.incidents triggerType := by
  have keyed' := acknowledged.keyed keyed
  obtain ⟨row, changed, found, opened, status, trigger, name, key, count, is⟩ :=
    acknowledged.incidents
  rw [is] at keyed' ⊢
  -- The changed row is active exactly when the old one is, with the same count.
  refine Option.ext fun n => ?_
  unfold Health.activeCount
  simp only [Option.map_eq_some_iff, Prod.exists, keyed.activeIncident_eq_some,
    keyed'.activeIncident_eq_some, get_overwrite found]
  constructor
  · rintro ⟨i, r, ⟨⟨rfl, rfl⟩ | ⟨-, there⟩, has⟩, rfl⟩
    · exact ⟨i, row, ⟨found, key ▸ has⟩, count.symm⟩
    · exact ⟨i, r, ⟨there, has⟩, rfl⟩
  · rintro ⟨i, r, ⟨there, has⟩, rfl⟩
    by_cases same : i = id
    · subst same
      rw [found] at there
      obtain rfl := Option.some.inj there
      exact ⟨i, changed, ⟨Or.inl ⟨rfl, rfl⟩, by rw [key, has]⟩, count⟩
    · exact ⟨i, r, ⟨Or.inr ⟨same, there⟩, has⟩, rfl⟩

theorem Acknowledged.recurs (acknowledged : Acknowledged db id db') :
    Recurs db.incidents db'.incidents := by
  obtain ⟨row, changed, found, opened, -, -, -, -, -, is⟩ := acknowledged.incidents
  rw [is]
  exact recurs_overwrite found (by rw [opened]; rfl)

end Step

/-! ### What holds of every sequence of calls -/

/-- The registry, the stored samples and the incidents after the calls of `payloads`. -/
structure Registered (source : SourceProfile) (payloads : List HealthSampleCreate)
    (db : HealthDb) : Prop where
  found : db.sources.get source.id = some source
  stored : samplesOf source db.samples = (payloads.map (newSample source)).reverse
  keyed : Keyed source db.incidents

section Run

variable {source : SourceProfile} {history : List (HealthDb × Label)} {db db' : HealthDb}
  {label : Label}

theorem registered_initial (source : SourceProfile) : Registered source [] (initial source) where
  found := Rows.get_single source.id source
  stored := rfl
  keyed := keyed_empty source

theorem recorded_cons (db : HealthDb) (label : Label) (history : List (HealthDb × Label)) :
    recorded ((db, label) :: history) = label.recorded.toList ++ recorded history := by
  unfold recorded
  rw [List.filterMap_cons]
  cases label.recorded with
  | none => rfl
  | some payload => rfl

theorem recorded_eq (history : List (HealthDb × Label)) :
    recorded history = (history.map Prod.snd).filterMap Label.recorded := by
  rw [List.filterMap_map]
  rfl

theorem Registered.after_next {payloads : List HealthSampleCreate}
    (registered : Registered source payloads db) (h : next source db label = some db') :
    Registered source (label.recorded.toList ++ payloads) db' := by
  cases label with
  | record payload now checkedAt =>
    have step := recorded_of_next registered.found h
    refine ⟨?_, ?_, ?_⟩
    · rw [step.sources, registered.found]
    · rw [step.samples, samplesOf_insert _ (show (newSample source payload).sourceId = source.id from
        step.own), registered.stored]
      simp [Label.recorded]
    · rw [step.incidents]
      exact applyCalls_keyed registered.keyed _
  | acknowledge id actor now =>
    have step := acknowledged_of_next h
    refine ⟨?_, ?_, step.keyed registered.keyed⟩
    · rw [step.sources, registered.found]
    · rw [step.samples, registered.stored]
      rfl

theorem registered_of_run (run : Run (next source) (initial source) history db) :
    Registered source (recorded history) db := by
  refine run.invariant (I := fun history db => Registered source (recorded history) db)
    (registered_initial source) fun _ registered step => ?_
  rw [recorded_cons]
  exact registered.after_next step

/-- **Recurrence**: a resolved incident is not reopened, and an incident that
becomes active is a new row. -/
theorem recurs_of_next {payloads : List HealthSampleCreate}
    (registered : Registered source payloads db) (h : next source db label = some db') :
    Recurs db.incidents db'.incidents := by
  cases label with
  | record payload now checkedAt =>
    have step := recorded_of_next registered.found h
    rw [step.incidents]
    exact applyCalls_recurs registered.keyed _
  | acknowledge id actor now => exact (acknowledged_of_next h).recurs

end Run

end ApiObservatory.Health
