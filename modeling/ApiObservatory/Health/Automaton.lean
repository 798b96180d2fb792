import ApiObservatory.Foundation.Latch
import ApiObservatory.Health.Sequence

/-
The health incidents of one source as a function of its samples.

A reconciliation looks at the newest samples by `sampled_at`. For samples that
arrive in order these are the latest calls, and the local test computes a
condition on the whole sequence: a run of failures for availability, a latch that
slow samples set and fast samples clear for latency.
-/

namespace ApiObservatory.Health

open Foundation Incidents

/-- The samples arrive in the order of their `sampled_at`, which is given in UTC. -/
structure InOrder (payloads : List HealthSampleCreate) : Prop where
  increasing : payloads.Pairwise fun later earlier =>
    earlier.sampledAt.instant < later.sampledAt.instant
  utc : ∀ payload ∈ payloads, payload.sampledAt.utcOffset = some 0

def failed (payload : HealthSampleCreate) : Bool := !payload.isSuccess

/-- Successful, and not below the latency threshold. -/
def slow (latencyThreshold : Rat) (payload : HealthSampleCreate) : Bool :=
  payload.isSuccess && decide (payload.latencyMs ≥ latencyThreshold)

/-- Successful, and below the latency threshold. -/
def fast (latencyThreshold : Rat) (payload : HealthSampleCreate) : Bool :=
  payload.isSuccess && decide (payload.latencyMs < latencyThreshold)

section Newest

variable {source : SourceProfile} {payload : HealthSampleCreate}
  {payloads : List HealthSampleCreate} {db : HealthDb}

theorem InOrder.tail (order : InOrder (payload :: payloads)) : InOrder payloads where
  increasing := (List.pairwise_cons.mp order.increasing).2
  utc payload mem := order.utc payload (List.mem_cons_of_mem _ mem)

theorem InOrder.sampledAt (order : InOrder payloads) (source : SourceProfile) :
    (payloads.map (newSample source)).Pairwise fun a b => b.sampledAt < a.sampledAt := by
  rw [List.pairwise_map]
  refine order.increasing.imp_of_mem fun memA memB lt => ?_
  unfold Datetime.instant at lt
  rw [order.utc _ memA, order.utc _ memB] at lt
  simpa [newSample, Datetime.withoutTzinfo] using lt

/-- **The newest rows are the latest calls.** -/
theorem Registered.newest (registered : Registered source payloads db) (order : InOrder payloads) :
    ((samplesOf source db.samples).insertionSort fun a b => b.sampledAt ≤ a.sampledAt) =
      payloads.map (newSample source) := by
  refine insertionSort_sampledAt ?_ (order.sampledAt source)
  rw [registered.stored]
  exact List.reverse_perm _

/-- A test of the newest rows is a test of the latest calls. -/
theorem enough_and_all (p : ProviderHealthSample → Bool) (n : Nat) :
    (decide (((payloads.map (newSample source)).take n).length ≥ n) &&
        ((payloads.map (newSample source)).take n).all p) = true ↔
      Sets (fun payload => p (newSample source payload) = true) n payloads := by
  unfold Sets
  rw [← List.map_take, Bool.and_eq_true, decide_eq_true_eq, List.all_map, List.all_eq_true,
    List.length_map, List.length_take]
  constructor
  · exact fun ⟨enough, all⟩ => ⟨by omega, all⟩
  · exact fun ⟨enough, all⟩ => ⟨by omega, all⟩

theorem consecutiveFailures_iff (n : Nat) :
    consecutiveFailures n ((payloads.map (newSample source)).take n) = true ↔
      n ≤ runLength failed payloads :=
  (enough_and_all _ n).trans (sets_iff_le_runLength payloads)

theorem consecutiveSlow_iff (n : Nat) (latencyThreshold : Rat) :
    consecutiveSlow n latencyThreshold ((payloads.map (newSample source)).take n) = true ↔
      Sets (fun payload => slow latencyThreshold payload = true) n payloads :=
  enough_and_all _ n

end Newest

/-! ### The invariants -/

/-- The availability incident counts the run of failures from the threshold on. -/
def AvailabilityCounted (source : SourceProfile) (payloads : List HealthSampleCreate)
    (db : HealthDb) : Prop :=
  activeCount source db.incidents .availability =
    if source.incidentFailureThreshold ≤ runLength failed payloads then
      some (runLength failed payloads - source.incidentFailureThreshold + 1)
    else none

/-- The latency incident is the latch of the slow and fast samples. -/
def LatencyLatched (source : SourceProfile) (latencyThreshold : Rat)
    (payloads : List HealthSampleCreate) (db : HealthDb) : Prop :=
  (activeCount source db.incidents .latency).isSome ↔
    Latched (fun payload => slow latencyThreshold payload = true)
      (fun payload => fast latencyThreshold payload = true) source.incidentFailureThreshold payloads

section Run

variable {source : SourceProfile} {latencyThreshold : Rat} {history : List (HealthDb × Label)}
  {db db' : HealthDb} {label : Label} {payloads : List HealthSampleCreate}
  {payload : HealthSampleCreate} {now checkedAt : TriggerType → Int}

/-- **One more sample** for the availability incident. -/
theorem AvailabilityCounted.record (counted : AvailabilityCounted source payloads db)
    (keyed : Keyed source db.incidents) (positive : 1 ≤ source.incidentFailureThreshold)
    (step : Recorded source db payload now checkedAt db')
    (newest : ((samplesOf source db'.samples).insertionSort fun a b => b.sampledAt ≤ a.sampledAt) =
      (payload :: payloads).map (newSample source)) :
    AvailabilityCounted source (payload :: payloads) db' := by
  have incidents := step.incidents
  rw [newest] at incidents
  unfold AvailabilityCounted at counted ⊢
  rw [incidents, activeCount_availability _ _ _ _ _ keyed, counted]
  simp only [consecutiveFailures_iff, show (newSample source payload).isSuccess = payload.isSuccess
    from rfl]
  cases success : payload.isSuccess with
  | true =>
    -- A success ends the run of failures.
    rw [runLength_cons_of_neg (show failed payload = false by simp [failed, success])]
    rw [if_neg (by omega), if_pos rfl, if_neg (by omega)]
  | false =>
    rw [runLength_cons_of_pos (show failed payload = true by simp [failed, success])]
    by_cases before : source.incidentFailureThreshold ≤ runLength failed payloads
    · rw [if_pos (by omega), if_pos before, if_pos (by omega), Option.elim_some]
      congr 1
      omega
    · by_cases reached : source.incidentFailureThreshold = runLength failed payloads + 1
      · rw [if_pos (by omega), if_neg before, if_pos (by omega), Option.elim_none]
        congr 1
        omega
      · rw [if_neg (by omega), if_neg Bool.false_ne_true, if_neg before, if_neg (by omega)]

/-- **One more sample** for the latency incident. -/
theorem LatencyLatched.record (latched : LatencyLatched source latencyThreshold payloads db)
    (keyed : Keyed source db.incidents)
    (configured : source.latencyThresholdMs = some latencyThreshold)
    (step : Recorded source db payload now checkedAt db')
    (newest : ((samplesOf source db'.samples).insertionSort fun a b => b.sampledAt ≤ a.sampledAt) =
      (payload :: payloads).map (newSample source)) :
    LatencyLatched source latencyThreshold (payload :: payloads) db' := by
  have incidents := step.incidents
  rw [newest] at incidents
  unfold LatencyLatched at latched ⊢
  rw [incidents, activeCount_latency _ _ _ _ _ keyed configured, latched_cons, ← latched]
  have clears : fast latencyThreshold payload = true ↔
      ((newSample source payload).isSuccess = true ∧
        (newSample source payload).latencyMs < latencyThreshold) := by
    simp [fast, newSample]
  rw [clears]
  split
  · rename_i sets
    simp [(consecutiveSlow_iff _ _).mp sets]
  · rename_i unset
    have notSets : ¬ Sets (fun payload => slow latencyThreshold payload = true)
        source.incidentFailureThreshold (payload :: payloads) :=
      fun sets => unset ((consecutiveSlow_iff _ _).mpr sets)
    split
    · rename_i isFast
      constructor
      · exact nofun
      · rintro (sets | ⟨-, notFast⟩)
        · exact absurd sets notSets
        · exact absurd isFast notFast
    · rename_i notFast
      constructor
      · exact fun active => Or.inr ⟨active, notFast⟩
      · rintro (sets | ⟨active, -⟩)
        · exact absurd sets notSets
        · exact active

theorem availabilityCounted_of_run (positive : 1 ≤ source.incidentFailureThreshold)
    (run : Run (next source) (initial source) history db) (order : InOrder (recorded history)) :
    AvailabilityCounted source (recorded history) db := by
  induction run with
  | init =>
    show _ = ite _ _ _
    rw [show recorded [] = [] from rfl, runLength_nil, if_neg (by omega)]
    rfl
  | @snoc history db db' label run step ih =>
    have registered := registered_of_run run
    rw [recorded_cons] at order ⊢
    cases label with
    | record payload now checkedAt =>
      exact (ih order.tail).record registered.keyed positive
        (recorded_of_next registered.found step) ((registered.after_next step).newest order)
    | acknowledge id actor now =>
      have acknowledged := acknowledged_of_next step
      exact (acknowledged.activeCount registered.keyed _).trans (ih order)

theorem latencyLatched_of_run (positive : 1 ≤ source.incidentFailureThreshold)
    (configured : source.latencyThresholdMs = some latencyThreshold)
    (run : Run (next source) (initial source) history db) (order : InOrder (recorded history)) :
    LatencyLatched source latencyThreshold (recorded history) db := by
  induction run with
  | init => exact ⟨nofun, fun latched => absurd latched (not_latched_nil positive)⟩
  | @snoc history db db' label run step ih =>
    have registered := registered_of_run run
    rw [recorded_cons] at order ⊢
    cases label with
    | record payload now checkedAt =>
      exact (ih order.tail).record registered.keyed configured
        (recorded_of_next registered.found step) ((registered.after_next step).newest order)
    | acknowledge id actor now =>
      have latched := ih order
      unfold LatencyLatched at latched ⊢
      rw [(acknowledged_of_next step).activeCount registered.keyed]
      exact latched

/-- An availability incident is active when the run of failures has reached the
threshold. -/
theorem active_iff_runLength (positive : 1 ≤ source.incidentFailureThreshold)
    (run : Run (next source) (initial source) history db) (order : InOrder (recorded history)) :
    (∃ id row, Active db.incidents .availability id row) ↔
      source.incidentFailureThreshold ≤ runLength failed (recorded history) := by
  rw [(registered_of_run run).keyed.active_iff_activeCount,
    show _ = _ from availabilityCounted_of_run positive run order]
  split
  · rename_i reached
    simp [reached]
  · rename_i unreached
    simp [unreached]

/-- **The health-incident automaton.** For samples in order, after every call: an
availability incident is active when the run of failures has reached the
threshold, and counts the failures from there on; a latency incident is active
when enough slow samples came in a row and no fast sample since; resolved rows
stay as they are and a recurrence is a new row. -/
theorem health_automaton (positive : 1 ≤ source.incidentFailureThreshold)
    (configured : source.latencyThresholdMs = some latencyThreshold)
    (run : Run (next source) (initial source) history db) (order : InOrder (recorded history)) :
    ((∃ id row, Active db.incidents .availability id row) ↔
      source.incidentFailureThreshold ≤ runLength failed (recorded history)) ∧
    (∀ id row, Active db.incidents .availability id row →
      row.occurrenceCount =
        runLength failed (recorded history) - source.incidentFailureThreshold + 1) ∧
    ((∃ id row, Active db.incidents .latency id row) ↔
      Latched (fun payload => slow latencyThreshold payload = true)
        (fun payload => fast latencyThreshold payload = true) source.incidentFailureThreshold
        (recorded history)) ∧
    ∀ label db', next source db label = some db' →
      (∀ id row, db.incidents.get id = some row → row.status = .resolved →
        db'.incidents.get id = some row) ∧
      ∀ id row, db'.incidents.get id = some row → row.status.active = true →
        db.incidents.get id = none ∨
          ∃ before, db.incidents.get id = some before ∧ before.status.active = true := by
  have registered := registered_of_run run
  refine ⟨active_iff_runLength positive run order, ?_, ?_, ?_⟩
  · intro id row active
    have count := registered.keyed.count_of_active active
    rw [show _ = _ from availabilityCounted_of_run positive run order] at count
    split at count
    · exact (Option.some.inj count).symm
    · cases count
  · rw [registered.keyed.active_iff_activeCount]
    exact latencyLatched_of_run positive configured run order
  · intro label db' step
    have recurs := recurs_of_next registered step
    exact ⟨fun id row => recurs.resolved, fun id row => recurs.fresh⟩

end Run

/-! ### A run -/

def probedSource : SourceProfile :=
  { id := 1, name := "orders", baseUrl := "https://orders.example", tenantId := none,
    latencyThresholdMs := some 500 }

def sampleAt (time : Int) (isSuccess : Bool) (latencyMs : Rat) : Label :=
  .record { sourceId := 1, sampledAt := .utc time, latencyMs, isSuccess } (fun _ => time)
    fun _ => time

/-- Three failures open an incident and count it once more. -/
def outageLabels : List Label := [sampleAt 1 false 0, sampleAt 2 false 0, sampleAt 3 false 0]

theorem health_automaton_outage :
    ∃ (history : List (HealthDb × Label)) (db : HealthDb) (row : Incident),
      Run (next probedSource) (initial probedSource) history db ∧
      Active db.incidents .availability 1 row ∧
      row.occurrenceCount = runLength failed (recorded history) - 2 + 1 ∧
      row.occurrenceCount = 2 := by
  have done : (finalState (next probedSource) (initial probedSource) outageLabels).isSome = true := by
    rfl
  obtain ⟨history, run, labels⟩ := run_of_isSome_labels done
  have order : InOrder (recorded history) := by
    rw [recorded_eq, labels]
    exact ⟨by decide, by decide⟩
  have active : Active ((finalState (next probedSource) (initial probedSource) outageLabels).get
      done).incidents .availability 1 _ := ⟨rfl, rfl, rfl⟩
  exact ⟨history, _, _, run, active,
    (health_automaton (by decide) rfl run order).2.1 1 _ active, rfl⟩

end ApiObservatory.Health
