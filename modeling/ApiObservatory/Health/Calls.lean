import ApiObservatory.Health.Reconcile

/-
What the calls of a reconciliation do to the incidents of one source.

A call writes at most one row: the active incident of its trigger, or a new one.
`CallEffect` lists the three ways; the number of occurrences of the active
incident (`activeCount`) and the facts about single rows follow from it.
-/

namespace ApiObservatory.Health

open Foundation Incidents

/-! ### Fingerprints -/

theorem TriggerType.text_injective {a b : TriggerType} (h : a.text = b.text) : a = b := by
  cases a <;> cases b <;> first | rfl | exact absurd h (by decide)

theorem fingerprint_injective (source : SourceProfile) {a b : TriggerType}
    (h : fingerprint source a = fingerprint source b) : a = b := by
  unfold fingerprint at h
  exact TriggerType.text_injective (String.append_right_inj _ |>.mp h)

/-! ### The incidents of one source -/

/-- Every incident is one of the source, active under its fingerprint or resolved
without a key, and a fingerprint has one active incident. -/
structure Keyed (source : SourceProfile) (incidents : Rows Incident) : Prop where
  coherent : ∀ {id row}, incidents.get id = some row → row.Coherent
  named : ∀ {id row}, incidents.get id = some row →
    row.fingerprint = fingerprint source row.triggerType
  unique : ∀ {id id' row row' key}, incidents.get id = some row → incidents.get id' = some row' →
    row.activeKey = some key → row'.activeKey = some key → id = id'

/-- The row is an active incident of the trigger. -/
def Active (incidents : Rows Incident) (triggerType : TriggerType) (id : Nat) (row : Incident) :
    Prop :=
  incidents.get id = some row ∧ row.triggerType = triggerType ∧ row.status.active = true

/-- The occurrences of the active incident. -/
def activeCount (source : SourceProfile) (incidents : Rows Incident) (triggerType : TriggerType) :
    Option Nat :=
  (activeIncident incidents (fingerprint source triggerType)).map fun entry =>
    entry.2.occurrenceCount

theorem active_iff_unresolved (status : IncidentStatus) :
    status.active = true ↔ status ≠ .resolved := by
  cases status <;> simp [IncidentStatus.active]

section Table

variable {source : SourceProfile} {incidents incidents' : Rows Incident} {key : String}
  {triggerType : TriggerType} {id : Nat} {row : Incident}

theorem keyed_empty (source : SourceProfile) : Keyed source .empty where
  coherent stored := nomatch stored
  named stored := nomatch stored
  unique stored := nomatch stored

theorem mem_activeIncident (h : activeIncident incidents key = some (id, row)) :
    incidents.get id = some row ∧ row.activeKey = some key := by
  obtain ⟨stored, keyed⟩ := Rows.mem_select.mp (List.mem_of_head? h)
  exact ⟨stored, beq_iff_eq.mp keyed⟩

theorem activeIncident_eq_none : activeIncident incidents key = none ↔
    ∀ id row, incidents.get id = some row → row.activeKey ≠ some key := by
  unfold activeIncident
  rw [List.head?_eq_none_iff, List.eq_nil_iff_forall_not_mem]
  constructor
  · intro absent id row stored keyed
    exact absent (id, row) (Rows.mem_select.mpr ⟨stored, beq_iff_eq.mpr keyed⟩)
  · rintro absent ⟨id, row⟩ mem
    obtain ⟨stored, keyed⟩ := Rows.mem_select.mp mem
    exact absent id row stored (beq_iff_eq.mp keyed)

theorem Keyed.activeIncident_eq_some (keyed : Keyed source incidents) :
    activeIncident incidents key = some (id, row) ↔
      incidents.get id = some row ∧ row.activeKey = some key := by
  constructor
  · exact mem_activeIncident
  · rintro ⟨stored, has⟩
    cases found : activeIncident incidents key with
    | none => exact absurd has (activeIncident_eq_none.mp found id row stored)
    | some entry =>
      obtain ⟨stored', has'⟩ := mem_activeIncident found
      have same := keyed.unique stored' stored has' has
      rw [same, stored] at stored'
      rw [← same, Option.some.inj stored']

/-- The key of a row says whether it is active. -/
theorem Keyed.active_iff (keyed : Keyed source incidents) :
    Active incidents triggerType id row ↔
      activeIncident incidents (fingerprint source triggerType) = some (id, row) := by
  rw [keyed.activeIncident_eq_some]
  constructor
  · rintro ⟨stored, rfl, active⟩
    refine ⟨stored, ?_⟩
    rw [(keyed.coherent stored).key_of_active ((active_iff_unresolved _).mp active),
      keyed.named stored]
  · rintro ⟨stored, has⟩
    have unresolved := (keyed.coherent stored).active_of_key (by rw [has]; simp)
    refine ⟨stored, ?_, (active_iff_unresolved _).mpr unresolved⟩
    have names := (keyed.coherent stored).key_of_active unresolved
    rw [has, keyed.named stored] at names
    exact (fingerprint_injective source (Option.some.inj names)).symm

theorem Keyed.active_iff_activeCount (keyed : Keyed source incidents) :
    (∃ id row, Active incidents triggerType id row) ↔
      (activeCount source incidents triggerType).isSome := by
  unfold activeCount
  rw [Option.isSome_map]
  constructor
  · rintro ⟨id, row, active⟩
    rw [keyed.active_iff.mp active]
    rfl
  · intro found
    obtain ⟨⟨id, row⟩, is⟩ := Option.isSome_iff_exists.mp found
    exact ⟨id, row, keyed.active_iff.mpr is⟩

theorem Keyed.count_of_active (keyed : Keyed source incidents)
    (active : Active incidents triggerType id row) :
    activeCount source incidents triggerType = some row.occurrenceCount := by
  unfold activeCount
  rw [keyed.active_iff.mp active]
  rfl

theorem Keyed.activeIncident_congr (keyed : Keyed source incidents)
    (keyed' : Keyed source incidents')
    (same : ∀ id row, (incidents'.get id = some row ∧ row.activeKey = some key) ↔
      (incidents.get id = some row ∧ row.activeKey = some key)) :
    activeIncident incidents' key = activeIncident incidents key := by
  refine Option.ext fun ⟨id, row⟩ => ?_
  rw [keyed'.activeIncident_eq_some, keyed.activeIncident_eq_some]
  exact same id row

end Table

/-! ### One call -/

/-- The call finds the active incident of its trigger and writes it, opens one
when there is none, or does nothing. -/
inductive CallEffect (source : SourceProfile) (incidents : Rows Incident) :
    Call HealthDetails → Rows Incident → Prop where
  | opened (triggerType : TriggerType) (severity summary : String) (details : HealthDetails)
      (now checkedAt : Int) :
      activeIncident incidents (fingerprint source triggerType) = none →
      CallEffect source incidents
        (.openOrUpdate triggerType severity summary details now checkedAt)
        (incidents.insert (openIncident source triggerType severity summary details now))
  | counted (triggerType : TriggerType) (severity summary : String) (details : HealthDetails)
      (now checkedAt : Int) (id : Nat) (row changed : Incident) :
      activeIncident incidents (fingerprint source triggerType) = some (id, row) →
      changed.triggerType = row.triggerType → changed.fingerprint = row.fingerprint →
      changed.status = row.status → changed.activeKey = row.activeKey →
      changed.occurrenceCount = row.occurrenceCount + 1 →
      CallEffect source incidents
        (.openOrUpdate triggerType severity summary details now checkedAt)
        (incidents.modify id fun _ => changed)
  | resolved (triggerType : TriggerType) (actor : String) (now : Int) (id : Nat)
      (row changed : Incident) :
      activeIncident incidents (fingerprint source triggerType) = some (id, row) →
      changed.triggerType = row.triggerType → changed.fingerprint = row.fingerprint →
      changed.status = .resolved → changed.activeKey = none →
      CallEffect source incidents (.resolveActive triggerType actor now)
        (incidents.modify id fun _ => changed)
  | nothing (triggerType : TriggerType) (actor : String) (now : Int) :
      activeIncident incidents (fingerprint source triggerType) = none →
      CallEffect source incidents (.resolveActive triggerType actor now) incidents

theorem applyCall_effect (source : SourceProfile) (incidents : Rows Incident)
    (call : Call HealthDetails) :
    CallEffect source incidents call (applyCall source incidents call).1 := by
  cases call with
  | openOrUpdate triggerType severity summary details now checkedAt =>
    cases found : activeIncident incidents (fingerprint source triggerType) with
    | none =>
      simp only [applyCall, Call.triggerType, found]
      exact .opened triggerType severity summary details now checkedAt found
    | some entry =>
      simp only [applyCall, Call.triggerType, found]
      exact .counted triggerType severity summary details now checkedAt entry.1 entry.2 _ found
        rfl rfl rfl rfl rfl
  | resolveActive triggerType actor now =>
    cases found : activeIncident incidents (fingerprint source triggerType) with
    | none =>
      simp only [applyCall, Call.triggerType, found, Option.map_none]
      exact .nothing triggerType actor now found
    | some entry =>
      simp only [applyCall, Call.triggerType, found, Option.map_some, resolveActiveIncident]
      exact .resolved triggerType actor now entry.1 entry.2 _ found rfl rfl rfl rfl

section Effect

variable {source : SourceProfile} {incidents incidents' : Rows Incident}
  {call : Call HealthDetails} {triggerType : TriggerType}

/-- A write over the active incident of a trigger. -/
theorem get_overwrite {id id' : Nat} {row changed written : Incident}
    (stored : incidents.get id = some row) :
    (incidents.modify id fun _ => changed).get id' = some written ↔
      (id' = id ∧ written = changed) ∨ (id' ≠ id ∧ incidents.get id' = some written) := by
  by_cases same : id' = id
  · subst same
    rw [Rows.get_modify_self, stored]
    simp [eq_comm]
  · rw [Rows.get_modify_of_ne _ same]
    simp [same]

theorem Keyed.overwrite (keyed : Keyed source incidents) {id : Nat} {row changed : Incident}
    (stored : incidents.get id = some row) (trigger : changed.triggerType = row.triggerType)
    (name : changed.fingerprint = row.fingerprint) (coherent : changed.Coherent)
    (key : changed.activeKey = row.activeKey ∨ changed.activeKey = none) :
    Keyed source (incidents.modify id fun _ => changed) where
  coherent is := by
    rcases (get_overwrite stored).mp is with ⟨-, rfl⟩ | ⟨-, there⟩
    · exact coherent
    · exact keyed.coherent there
  named is := by
    rcases (get_overwrite stored).mp is with ⟨-, rfl⟩ | ⟨-, there⟩
    · rw [name, trigger]
      exact keyed.named stored
    · exact keyed.named there
  unique := by
    -- A key of the new version was a key of the old one.
    have kept : ∀ {k}, changed.activeKey = some k → row.activeKey = some k := by
      intro k has
      rcases key with same | none
      · rw [← same, has]
      · rw [none] at has
        cases has
    intro i i' r r' k is is' has has'
    rcases (get_overwrite stored).mp is with ⟨rfl, rfl⟩ | ⟨-, there⟩
    · rcases (get_overwrite stored).mp is' with ⟨rfl, rfl⟩ | ⟨-, there'⟩
      · rfl
      · exact keyed.unique stored there' (kept has) has'
    · rcases (get_overwrite stored).mp is' with ⟨rfl, rfl⟩ | ⟨-, there'⟩
      · exact keyed.unique there stored has (kept has')
      · exact keyed.unique there there' has has'

theorem Keyed.insert (keyed : Keyed source incidents) {new : Incident} (coherent : new.Coherent)
    (name : new.fingerprint = fingerprint source new.triggerType)
    (absent : ∀ key, new.activeKey = some key → activeIncident incidents key = none) :
    Keyed source (incidents.insert new) where
  coherent is := by
    rcases Rows.get_insert_cases is with ⟨-, rfl⟩ | ⟨-, there⟩
    · exact coherent
    · exact keyed.coherent there
  named is := by
    rcases Rows.get_insert_cases is with ⟨-, rfl⟩ | ⟨-, there⟩
    · exact name
    · exact keyed.named there
  unique := by
    intro i i' r r' k is is' has has'
    rcases Rows.get_insert_cases is with ⟨rfl, rfl⟩ | ⟨-, there⟩
    · rcases Rows.get_insert_cases is' with ⟨rfl, rfl⟩ | ⟨-, there'⟩
      · rfl
      · exact absurd has' (activeIncident_eq_none.mp (absent k has) _ _ there')
    · rcases Rows.get_insert_cases is' with ⟨rfl, rfl⟩ | ⟨-, there'⟩
      · exact absurd has (activeIncident_eq_none.mp (absent k has') _ _ there)
      · exact keyed.unique there there' has has'

/-- The version of a counted incident is as coherent as the one before. -/
theorem coherent_of_same {row changed : Incident} (coherent : row.Coherent)
    (name : changed.fingerprint = row.fingerprint) (status : changed.status = row.status)
    (key : changed.activeKey = row.activeKey) : changed.Coherent := by
  unfold DependencyIncident.Coherent
  rwa [name, status, key]

theorem CallEffect.keyed (effect : CallEffect source incidents call incidents')
    (keyed : Keyed source incidents) : Keyed source incidents' := by
  cases effect with
  | opened triggerType severity summary details now checkedAt absent =>
    refine keyed.insert (coherent_openIncident source triggerType severity summary details now) rfl ?_
    rintro key ⟨⟩
    exact absent
  | counted triggerType severity summary details now checkedAt id row changed found trigger name
      status key =>
    have stored := (mem_activeIncident found).1
    exact keyed.overwrite stored trigger name
      (coherent_of_same (keyed.coherent stored) name status key) (Or.inl key)
  | resolved triggerType actor now id row changed found trigger name status key =>
    exact keyed.overwrite (mem_activeIncident found).1 trigger name (Or.inr ⟨status, key⟩)
      (Or.inr key)
  | nothing => exact keyed

/-- A changed row that has neither had nor gets the key does not change who has it. -/
theorem overwrite_other {id : Nat} {row changed : Incident} {key : String}
    (stored : incidents.get id = some row) (before : row.activeKey ≠ some key)
    (after : changed.activeKey ≠ some key) (i : Nat) (r : Incident) :
    (incidents.modify id fun _ => changed).get i = some r ∧ r.activeKey = some key ↔
      incidents.get i = some r ∧ r.activeKey = some key := by
  rw [get_overwrite stored]
  constructor
  · rintro ⟨⟨-, rfl⟩ | ⟨-, there⟩, has⟩
    · exact absurd has after
    · exact ⟨there, has⟩
  · rintro ⟨is, has⟩
    refine ⟨Or.inr ⟨?_, is⟩, has⟩
    rintro rfl
    cases stored.symm.trans is
    exact before has

/-- **The frame of a call**: the active incident of another trigger stays. -/
theorem CallEffect.other (effect : CallEffect source incidents call incidents')
    (keyed : Keyed source incidents) (ne : triggerType ≠ call.triggerType) :
    activeCount source incidents' triggerType = activeCount source incidents triggerType := by
  have keyed' := effect.keyed keyed
  have differs : fingerprint source triggerType ≠ fingerprint source call.triggerType :=
    fun same => ne (fingerprint_injective source same)
  unfold activeCount
  congr 1
  refine keyed.activeIncident_congr keyed' fun i r => ?_
  cases effect with
  | opened own severity summary details now checkedAt absent =>
    constructor
    · rintro ⟨is, has⟩
      rcases Rows.get_insert_cases is with ⟨-, rfl⟩ | ⟨-, there⟩
      · exact absurd (Option.some.inj has).symm differs
      · exact ⟨there, has⟩
    · exact fun ⟨is, has⟩ => ⟨Rows.get_insert_of_some is, has⟩
  | counted own severity summary details now checkedAt id row changed found trigger name status
      key =>
    obtain ⟨stored, keyedBy⟩ := mem_activeIncident found
    have apart : row.activeKey ≠ some (fingerprint source triggerType) := fun has =>
      differs (Option.some.inj (has.symm.trans keyedBy))
    exact overwrite_other stored apart (key ▸ apart) i r
  | resolved own actor now id row changed found trigger name status key =>
    obtain ⟨stored, keyedBy⟩ := mem_activeIncident found
    have apart : row.activeKey ≠ some (fingerprint source triggerType) := fun has =>
      differs (Option.some.inj (has.symm.trans keyedBy))
    exact overwrite_other stored apart (by rw [key]; exact nofun) i r
  | nothing => exact Iff.rfl

/-- What a call makes of the occurrences of its trigger. -/
def countAfter (call : Call HealthDetails) (count : Option Nat) : Option Nat :=
  match call with
  | .openOrUpdate .. => some (count.elim 1 (· + 1))
  | .resolveActive .. => none

theorem CallEffect.own (effect : CallEffect source incidents call incidents')
    (keyed : Keyed source incidents) :
    activeCount source incidents' call.triggerType =
      countAfter call (activeCount source incidents call.triggerType) := by
  have keyed' := effect.keyed keyed
  unfold activeCount
  cases effect with
  | opened own severity summary details now checkedAt absent =>
    have opens : activeIncident (incidents.insert
        (openIncident source own severity summary details now)) (fingerprint source own) =
        some (incidents.nextId, openIncident source own severity summary details now) :=
      keyed'.activeIncident_eq_some.mpr ⟨Rows.get_insert_self _ _, rfl⟩
    simp only [Call.triggerType, absent, opens, countAfter]
    rfl
  | counted own severity summary details now checkedAt id row changed found trigger name status
      key count =>
    obtain ⟨stored, keyedBy⟩ := mem_activeIncident found
    have counts : activeIncident (incidents.modify id fun _ => changed) (fingerprint source own) =
        some (id, changed) :=
      keyed'.activeIncident_eq_some.mpr
        ⟨(get_overwrite stored).mpr (Or.inl ⟨rfl, rfl⟩), by rw [key, keyedBy]⟩
    simp only [Call.triggerType, found, counts, countAfter, Option.map_some, Option.elim_some, count]
  | resolved own actor now id row changed found trigger name status key =>
    obtain ⟨stored, keyedBy⟩ := mem_activeIncident found
    have resolves : activeIncident (incidents.modify id fun _ => changed)
        (fingerprint source own) = none := by
      rw [activeIncident_eq_none]
      intro i r is has
      rcases (get_overwrite stored).mp is with ⟨-, rfl⟩ | ⟨ne, there⟩
      · rw [key] at has
        cases has
      · exact ne (keyed.unique there stored has keyedBy)
    simp only [Call.triggerType, resolves, countAfter]
    rfl
  | nothing own actor now absent =>
    simp only [Call.triggerType, absent, countAfter]
    rfl

/-- A resolved row stays as it is, and an active row was active before or is new. -/
structure Recurs (incidents incidents' : Rows Incident) : Prop where
  resolved : ∀ {id row}, incidents.get id = some row → row.status = .resolved →
    incidents'.get id = some row
  fresh : ∀ {id row'}, incidents'.get id = some row' → row'.status.active = true →
    incidents.get id = none ∨ ∃ row, incidents.get id = some row ∧ row.status.active = true

theorem Recurs.refl (incidents : Rows Incident) : Recurs incidents incidents where
  resolved stored _ := stored
  fresh stored active := Or.inr ⟨_, stored, active⟩

theorem Recurs.trans {incidents'' : Rows Incident} (first : Recurs incidents incidents')
    (second : Recurs incidents' incidents'') : Recurs incidents incidents'' where
  resolved stored is := second.resolved (first.resolved stored is) is
  fresh stored active := by
    rcases second.fresh stored active with absent | ⟨row, before, was⟩
    · rename_i id row'
      cases old : incidents.get id with
      | none => exact Or.inl rfl
      | some row =>
        right
        refine ⟨row, rfl, ?_⟩
        rw [active_iff_unresolved]
        intro resolved
        rw [first.resolved old resolved] at absent
        cases absent
    · exact first.fresh before was

/-- A write over an active row. -/
theorem recurs_overwrite {id : Nat} {row changed : Incident}
    (stored : incidents.get id = some row) (active : row.status.active = true) :
    Recurs incidents (incidents.modify id fun _ => changed) where
  resolved := by
    intro i r there is
    refine (get_overwrite stored).mpr (Or.inr ⟨?_, there⟩)
    rintro rfl
    rw [stored] at there
    obtain rfl := Option.some.inj there
    exact (active_iff_unresolved _).mp active is
  fresh := by
    intro i r there is
    rcases (get_overwrite stored).mp there with ⟨rfl, -⟩ | ⟨-, old⟩
    · exact Or.inr ⟨row, stored, active⟩
    · exact Or.inr ⟨r, old, is⟩

theorem CallEffect.recurs (effect : CallEffect source incidents call incidents')
    (keyed : Keyed source incidents) : Recurs incidents incidents' := by
  have active : ∀ {own id row}, activeIncident incidents (fingerprint source own) = some (id, row) →
      row.status.active = true := by
    intro own id row found
    exact (keyed.active_iff.mpr found).2.2
  cases effect with
  | opened own severity summary details now checkedAt absent =>
    constructor
    · intro id row stored _
      exact Rows.get_insert_of_some stored
    · intro id row stored is
      rcases Rows.get_insert_cases stored with ⟨rfl, -⟩ | ⟨-, old⟩
      · exact Or.inl (incidents.unused _ (Nat.le_refl _))
      · exact Or.inr ⟨row, old, is⟩
  | counted own severity summary details now checkedAt id row changed found =>
    exact recurs_overwrite (mem_activeIncident found).1 (active found)
  | resolved own actor now id row changed found =>
    exact recurs_overwrite (mem_activeIncident found).1 (active found)
  | nothing => exact .refl incidents

end Effect

/-! ### A reconciliation -/

section Calls

variable {source : SourceProfile} {incidents : Rows Incident}

theorem applyCalls_keyed (keyed : Keyed source incidents) (calls : List (Call HealthDetails)) :
    Keyed source (applyCalls source calls incidents).1 := by
  induction calls generalizing incidents with
  | nil => exact keyed
  | cons call rest ih => exact ih ((applyCall_effect source incidents call).keyed keyed)

theorem applyCalls_recurs (keyed : Keyed source incidents) (calls : List (Call HealthDetails)) :
    Recurs incidents (applyCalls source calls incidents).1 := by
  induction calls generalizing incidents with
  | nil => exact .refl incidents
  | cons call rest ih =>
    have effect := applyCall_effect source incidents call
    exact (effect.recurs keyed).trans (ih (effect.keyed keyed))

/-- **The occurrences after a list of calls**: the calls of the trigger count. -/
theorem activeCount_applyCalls (keyed : Keyed source incidents) (triggerType : TriggerType)
    (calls : List (Call HealthDetails)) :
    activeCount source (applyCalls source calls incidents).1 triggerType =
      (calls.filter fun call => call.triggerType == triggerType).foldl
        (fun count call => countAfter call count) (activeCount source incidents triggerType) := by
  induction calls generalizing incidents with
  | nil => rfl
  | cons call rest ih =>
    have effect := applyCall_effect source incidents call
    rw [List.filter_cons]
    split
    · rename_i same
      obtain rfl := eq_of_beq same
      rw [List.foldl_cons, ← effect.own keyed]
      exact ih (effect.keyed keyed)
    · rename_i ne
      have other : triggerType ≠ call.triggerType := fun same => ne (beq_iff_eq.mpr same.symm)
      rw [← effect.other keyed other]
      exact ih (effect.keyed keyed)

variable (source) (sampleId : Nat) (sample : ProviderHealthSample)
  (recent : List ProviderHealthSample) (now checkedAt : TriggerType → Int)

/-- The calls of the availability policy. -/
inductive AvailabilityCalls : List (Call HealthDetails) → Prop where
  | count (severity summary : String) (details : HealthDetails) (now checkedAt : Int) :
      consecutiveFailures source.incidentFailureThreshold recent = true →
      AvailabilityCalls [.openOrUpdate .availability severity summary details now checkedAt]
  | resolve (actor : String) (now : Int) :
      ¬ consecutiveFailures source.incidentFailureThreshold recent = true → sample.isSuccess = true →
      AvailabilityCalls [.resolveActive .availability actor now]
  | keep : ¬ consecutiveFailures source.incidentFailureThreshold recent = true →
      ¬ sample.isSuccess = true → AvailabilityCalls []

theorem availabilityCalls_cases :
    AvailabilityCalls source sample recent
      (availabilityCalls source sampleId sample recent now checkedAt) := by
  simp only [availabilityCalls]
  by_cases fails : consecutiveFailures source.incidentFailureThreshold recent = true
  · rw [if_pos fails]
    exact .count _ _ _ _ _ fails
  · rw [if_neg fails]
    by_cases success : sample.isSuccess = true
    · rw [if_pos success]
      exact .resolve _ _ fails success
    · rw [if_neg success]
      exact .keep fails success

/-- The calls of the latency policy. -/
inductive LatencyCalls (latencyThreshold : Rat) : List (Call HealthDetails) → Prop where
  | count (severity summary : String) (details : HealthDetails) (now checkedAt : Int) :
      consecutiveSlow source.incidentFailureThreshold latencyThreshold recent = true →
      LatencyCalls latencyThreshold
        [.openOrUpdate .latency severity summary details now checkedAt]
  | resolve (actor : String) (now : Int) :
      ¬ consecutiveSlow source.incidentFailureThreshold latencyThreshold recent = true →
      sample.isSuccess = true ∧ sample.latencyMs < latencyThreshold →
      LatencyCalls latencyThreshold [.resolveActive .latency actor now]
  | keep : ¬ consecutiveSlow source.incidentFailureThreshold latencyThreshold recent = true →
      ¬ (sample.isSuccess = true ∧ sample.latencyMs < latencyThreshold) →
      LatencyCalls latencyThreshold []

theorem latencyCalls_cases {latencyThreshold : Rat}
    (configured : source.latencyThresholdMs = some latencyThreshold) :
    LatencyCalls source sample recent latencyThreshold
      (latencyCalls source sampleId sample recent now checkedAt) := by
  simp only [latencyCalls, configured]
  by_cases isSlow : consecutiveSlow source.incidentFailureThreshold latencyThreshold recent = true
  · rw [if_pos isSlow]
    exact .count _ _ _ _ _ isSlow
  · rw [if_neg isSlow]
    by_cases fast : sample.isSuccess = true ∧ sample.latencyMs < latencyThreshold
    · rw [if_pos fast]
      exact .resolve _ _ isSlow fast
    · rw [if_neg fast]
      exact .keep isSlow fast

theorem availabilityCalls_trigger {call : Call HealthDetails}
    (mem : call ∈ availabilityCalls source sampleId sample recent now checkedAt) :
    call.triggerType = .availability := by
  have cases := availabilityCalls_cases source sampleId sample recent now checkedAt
  generalize availabilityCalls source sampleId sample recent now checkedAt = calls at mem cases
  cases cases with
  | count | resolve =>
    rw [List.mem_singleton.mp mem]
    rfl
  | keep => cases mem

theorem latencyCalls_trigger {call : Call HealthDetails}
    (mem : call ∈ latencyCalls source sampleId sample recent now checkedAt) :
    call.triggerType = .latency := by
  cases configured : source.latencyThresholdMs with
  | none =>
    simp only [latencyCalls, configured] at mem
    cases mem
  | some latencyThreshold =>
    have cases := latencyCalls_cases source sampleId sample recent now checkedAt configured
    generalize latencyCalls source sampleId sample recent now checkedAt = calls at mem cases
    cases cases with
    | count | resolve =>
      rw [List.mem_singleton.mp mem]
      rfl
    | keep => cases mem

/-- The calls of one trigger are those of its policy. -/
theorem filter_reconcileCalls (triggerType : TriggerType) :
    ((reconcileCalls source sampleId sample recent now checkedAt).filter fun call =>
        call.triggerType == triggerType) =
      match triggerType with
      | .availability => availabilityCalls source sampleId sample recent now checkedAt
      | .latency => latencyCalls source sampleId sample recent now checkedAt
      | .drift => [] := by
  have ofAvailability : ∀ {t}, t ≠ .availability →
      (availabilityCalls source sampleId sample recent now checkedAt).filter
        (fun call => call.triggerType == t) = [] := by
    intro t ne
    refine List.filter_eq_nil_iff.mpr fun call mem same => ne ?_
    rw [← eq_of_beq same, availabilityCalls_trigger source sampleId sample recent now checkedAt mem]
  have ofLatency : ∀ {t}, t ≠ .latency →
      (latencyCalls source sampleId sample recent now checkedAt).filter
        (fun call => call.triggerType == t) = [] := by
    intro t ne
    refine List.filter_eq_nil_iff.mpr fun call mem same => ne ?_
    rw [← eq_of_beq same, latencyCalls_trigger source sampleId sample recent now checkedAt mem]
  unfold reconcileCalls
  rw [List.filter_append]
  cases triggerType with
  | availability =>
    rw [ofLatency (by decide), List.append_nil]
    refine List.filter_eq_self.mpr fun call mem => beq_iff_eq.mpr ?_
    exact availabilityCalls_trigger source sampleId sample recent now checkedAt mem
  | latency =>
    rw [ofAvailability (by decide), List.nil_append]
    refine List.filter_eq_self.mpr fun call mem => beq_iff_eq.mpr ?_
    exact latencyCalls_trigger source sampleId sample recent now checkedAt mem
  | drift => rw [ofAvailability (by decide), ofLatency (by decide), List.nil_append]

variable {source}

/-- **The availability incident after a reconciliation.** -/
theorem activeCount_availability (keyed : Keyed source incidents) :
    activeCount source
        (applyCalls source (reconcileCalls source sampleId sample recent now checkedAt) incidents).1
        .availability =
      if consecutiveFailures source.incidentFailureThreshold recent then
        some ((activeCount source incidents .availability).elim 1 (· + 1))
      else if sample.isSuccess then none
      else activeCount source incidents .availability := by
  rw [activeCount_applyCalls keyed, filter_reconcileCalls]
  have cases := availabilityCalls_cases source sampleId sample recent now checkedAt
  simp only
  generalize availabilityCalls source sampleId sample recent now checkedAt = calls at cases
  cases cases with
  | count severity summary details now checkedAt fails =>
    rw [if_pos fails]
    rfl
  | resolve actor now fails success =>
    rw [if_neg fails, if_pos success]
    rfl
  | keep fails success =>
    rw [if_neg fails, if_neg success]
    rfl

/-- **The latency incident after a reconciliation.** -/
theorem activeCount_latency (keyed : Keyed source incidents) {latencyThreshold : Rat}
    (configured : source.latencyThresholdMs = some latencyThreshold) :
    activeCount source
        (applyCalls source (reconcileCalls source sampleId sample recent now checkedAt) incidents).1
        .latency =
      if consecutiveSlow source.incidentFailureThreshold latencyThreshold recent then
        some ((activeCount source incidents .latency).elim 1 (· + 1))
      else if sample.isSuccess ∧ sample.latencyMs < latencyThreshold then none
      else activeCount source incidents .latency := by
  rw [activeCount_applyCalls keyed, filter_reconcileCalls]
  have cases := latencyCalls_cases source sampleId sample recent now checkedAt configured
  simp only
  generalize latencyCalls source sampleId sample recent now checkedAt = calls at cases
  cases cases with
  | count severity summary details now checkedAt isSlow =>
    rw [if_pos isSlow]
    rfl
  | resolve actor now isSlow fast =>
    rw [if_neg isSlow, if_pos fast]
    rfl
  | keep isSlow fast =>
    rw [if_neg isSlow, if_neg fast]
    rfl

end Calls

end ApiObservatory.Health
