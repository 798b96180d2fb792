import ApiObservatory.Health.Sequence

/-
Samples that arrive in any order.

A reconciliation opens an incident by the newest samples of the source and
resolves one by the sample it has just stored. The two agree about the newest
sample only if the stored sample is it. A success that arrives behind a newer
failure resolves the incident of an outage that goes on
(`late_success_resolves`), unless the newest samples still fail all together.
-/

namespace ApiObservatory.Health

open Foundation Incidents

/-- The newest `n` of the samples failed. -/
def NewestFailed (n : Nat) (samples : List ProviderHealthSample) : Prop :=
  n ≤ samples.length ∧ ∀ sample ∈ samples,
    (samples.filter fun other => decide (sample.sampledAt < other.sampledAt)).length < n →
      sample.isSuccess = false

/-- The newest of the samples failed. -/
def LastFailed (samples : List ProviderHealthSample) : Prop :=
  ∃ sample ∈ samples, (∀ other ∈ samples, other.sampledAt ≤ sample.sampledAt) ∧
    sample.isSuccess = false

def Distinct (samples : List ProviderHealthSample) : Prop :=
  samples.Pairwise fun a b => a.sampledAt ≠ b.sampledAt

/-- The call stores a sample without hiding an outage: it does not resolve the
availability incident behind a newest sample that failed, and leaves an incident
when the newest samples failed. -/
def ShowsOutage (source : SourceProfile) (db : HealthDb) : Label → Prop
  | .record payload now checkedAt => ∀ db',
      next source db (.record payload now checkedAt) = some db' →
        (LastFailed (samplesOf source db'.samples) →
          (∃ id row, Active db.incidents .availability id row) →
            ∃ id row, Active db'.incidents .availability id row) ∧
        (NewestFailed source.incidentFailureThreshold (samplesOf source db'.samples) →
          ∃ id row, Active db'.incidents .availability id row)
  | .acknowledge _ _ _ => True

/-- A success that arrives during an incident, behind a newest sample that
failed, while the newest samples with it do not fail all together. -/
def BehindFailure (source : SourceProfile) (db : HealthDb) : Label → Prop
  | .record payload _ _ =>
      let samples := samplesOf source db.samples ++ [newSample source payload]
      (∃ id row, Active db.incidents .availability id row) ∧ payload.isSuccess = true ∧
        LastFailed samples ∧ ¬ NewestFailed source.incidentFailureThreshold samples
  | .acknowledge _ _ _ => False

/-! ### The newest samples -/

section Newest

variable {samples sorted : List ProviderHealthSample} {sample : ProviderHealthSample} {n : Nat}

/-- Among the first `n` of a sorted list are those with fewer than `n` newer ones. -/
theorem mem_take_iff_few_newer (order : sorted.Pairwise fun a b => b.sampledAt < a.sampledAt)
    (mem : sample ∈ sorted) :
    sample ∈ sorted.take n ↔
      (sorted.filter fun other => decide (sample.sampledAt < other.sampledAt)).length < n := by
  obtain ⟨newer, older, rfl⟩ := List.append_of_mem mem
  obtain ⟨-, after, across⟩ := List.pairwise_append.mp order
  have larger : ∀ a ∈ newer, sample.sampledAt < a.sampledAt :=
    fun a memA => across a memA sample List.mem_cons_self
  have smaller : ∀ a ∈ older, a.sampledAt < sample.sampledAt := (List.pairwise_cons.mp after).1
  have count : ((newer ++ sample :: older).filter fun other =>
      decide (sample.sampledAt < other.sampledAt)) = newer := by
    rw [List.filter_append, List.filter_cons_of_neg (by simp)]
    rw [List.filter_eq_self.mpr fun a memA => decide_eq_true (larger a memA)]
    rw [List.filter_eq_nil_iff.mpr fun a memA => by have := smaller a memA; simp; omega]
    exact List.append_nil newer
  rw [count]
  constructor
  · intro taken
    by_contra far
    rw [List.take_append_of_le_length (Nat.le_of_not_lt far)] at taken
    exact Int.lt_irrefl _ (larger sample (List.mem_of_mem_take taken))
  · intro near
    rw [List.take_append, List.mem_append]
    right
    obtain ⟨k, is⟩ : ∃ k, n - newer.length = k + 1 := ⟨n - newer.length - 1, by omega⟩
    rw [is, List.take_succ_cons]
    exact List.mem_cons_self

/-- The samples sorted, newest first. -/
def newestFirst (samples : List ProviderHealthSample) : List ProviderHealthSample :=
  samples.insertionSort fun a b => b.sampledAt ≤ a.sampledAt

theorem newestFirst_perm (samples : List ProviderHealthSample) :
    (newestFirst samples).Perm samples :=
  List.perm_insertionSort _ samples

theorem newestFirst_order (distinct : Distinct samples) :
    (newestFirst samples).Pairwise fun a b => b.sampledAt < a.sampledAt := by
  have apart : (newestFirst samples).Pairwise fun a b => a.sampledAt ≠ b.sampledAt :=
    distinct.perm (newestFirst_perm samples).symm fun ne => ne.symm
  exact ((pairwise_sampledAt samples).and apart).imp fun ⟨le, ne⟩ => lt_of_le_of_ne le ne.symm

/-- **The test of the newest rows** for samples in any order. -/
theorem consecutiveFailures_iff_newestFailed (distinct : Distinct samples) :
    consecutiveFailures n ((newestFirst samples).take n) = true ↔ NewestFailed n samples := by
  have order := newestFirst_order distinct
  have perm := newestFirst_perm samples
  have few : ∀ {sample}, sample ∈ samples → (sample ∈ (newestFirst samples).take n ↔
      (samples.filter fun other => decide (sample.sampledAt < other.sampledAt)).length < n) := by
    intro sample mem
    rw [mem_take_iff_few_newer order (perm.mem_iff.mpr mem), (perm.filter _).length_eq]
  unfold consecutiveFailures NewestFailed
  rw [Bool.and_eq_true, decide_eq_true_eq, List.all_eq_true, List.length_take, perm.length_eq]
  constructor
  · rintro ⟨enough, all⟩
    refine ⟨by omega, fun sample mem newer => ?_⟩
    simpa using all sample ((few mem).mpr newer)
  · rintro ⟨enough, all⟩
    refine ⟨by omega, fun sample mem => ?_⟩
    have stored := perm.mem_iff.mp (List.mem_of_mem_take mem)
    simpa using all sample stored ((few stored).mp mem)

end Newest

/-! ### One call -/

section Run

variable {source : SourceProfile} {history : List (HealthDb × Label)} {db db' : HealthDb}
  {label : Label}

/-- The stored rows of the recorded samples. -/
def rowsOf (source : SourceProfile) (history : List (HealthDb × Label)) :
    List ProviderHealthSample :=
  (recorded history).map (newSample source)

/-- **The availability incident after a call**: it is open when the newest samples
failed, and otherwise a success resolves it. -/
theorem active_after_record {payloads : List HealthSampleCreate} {payload : HealthSampleCreate}
    {now checkedAt : TriggerType → Int} (registered : Registered source payloads db)
    (distinct : Distinct (samplesOf source db'.samples))
    (h : next source db (.record payload now checkedAt) = some db') :
    (∃ id row, Active db'.incidents .availability id row) ↔
      NewestFailed source.incidentFailureThreshold (samplesOf source db'.samples) ∨
        (payload.isSuccess = false ∧ ∃ id row, Active db.incidents .availability id row) := by
  have step := recorded_of_next registered.found h
  have keyed' := (registered.after_next h).keyed
  rw [keyed'.active_iff_activeCount, registered.keyed.active_iff_activeCount, step.incidents,
    activeCount_availability _ _ _ _ _ registered.keyed,
    ← consecutiveFailures_iff_newestFailed distinct]
  unfold newestFirst
  split
  · rename_i fails
    simp [fails]
  · rename_i unfailing
    cases success : payload.isSuccess with
    | true => simp [newSample, success, unfailing]
    | false => simp [newSample, success, unfailing]

theorem samplesOf_of_next {payloads : List HealthSampleCreate} {payload : HealthSampleCreate}
    {now checkedAt : TriggerType → Int} (registered : Registered source payloads db)
    (h : next source db (.record payload now checkedAt) = some db') :
    samplesOf source db'.samples = samplesOf source db.samples ++ [newSample source payload] := by
  have step := recorded_of_next registered.found h
  have own : (newSample source payload).sourceId = source.id := step.own
  rw [step.samples, samplesOf_insert _ own]

/-- **One call** shows an outage unless it stores a success behind a failure. -/
theorem showsOutage_iff {payloads : List HealthSampleCreate}
    (registered : Registered source payloads db) (h : next source db label = some db')
    (distinct : Distinct (samplesOf source db'.samples)) :
    ShowsOutage source db label ↔ ¬ BehindFailure source db label := by
  cases label with
  | acknowledge id actor now => exact ⟨fun _ behind => behind, fun _ => trivial⟩
  | record payload now checkedAt =>
    have after := active_after_record registered distinct h
    simp only [ShowsOutage, BehindFailure, h, Option.some.injEq, forall_eq']
    rw [← samplesOf_of_next registered h]
    constructor
    · rintro ⟨shows, -⟩ ⟨active, success, last, unfailing⟩
      rcases after.mp (shows last active) with fails | ⟨failed, -⟩
      · exact unfailing fails
      · rw [success] at failed
        cases failed
    · intro notBehind
      refine ⟨fun last active => after.mpr ?_, fun fails => after.mpr (Or.inl fails)⟩
      by_contra neither
      rw [not_or] at neither
      refine notBehind ⟨active, ?_, last, neither.1⟩
      by_contra failed
      exact neither.2 ⟨Bool.eq_false_iff.mpr failed, active⟩

/-- **Late samples.** In a run of samples with distinct `sampled_at`, no call hides
an outage if and only if no success is stored behind a newer failure. -/
theorem late_samples (run : Run (next source) (initial source) history db)
    (distinct : Distinct (rowsOf source history)) :
    Along (ShowsOutage source) history ↔
      Along (fun db label => ¬ BehindFailure source db label) history := by
  induction run with
  | init => simp
  | @snoc history db db' label run step ih =>
    have registered := registered_of_run run
    have earlier : Distinct (rowsOf source history) := by
      unfold rowsOf Distinct at distinct ⊢
      rw [recorded_cons, List.map_append] at distinct
      exact (List.pairwise_append.mp distinct).2.1
    rw [along_cons, along_cons, ih earlier]
    refine and_congr_left fun _ => showsOutage_iff registered step ?_
    rw [(registered.after_next step).stored, ← recorded_cons db label history]
    exact List.Pairwise.reverse distinct |>.imp fun ne => ne.symm

end Run

/-! ### Two runs -/

def regionSource : SourceProfile :=
  { id := 1, name := "orders", baseUrl := "https://orders.example", tenantId := none }

def sampled (time : Int) (isSuccess : Bool) : Label :=
  .record { sourceId := 1, sampledAt := .utc time, latencyMs := 0, isSuccess } (fun _ => time)
    fun _ => time

/-- **A late success resolves the incident** of two failures, the newest of which
is later than it. -/
theorem late_success_resolves :
    ∃ (history : List (HealthDb × Label)) (db db' : HealthDb),
      Run (next regionSource) (initial regionSource) history db ∧
      next regionSource db (sampled 2 true) = some db' ∧
      Distinct (samplesOf regionSource db'.samples) ∧
      LastFailed (samplesOf regionSource db'.samples) ∧
      (∃ id row, Active db.incidents .availability id row) ∧
      ¬ ∃ id row, Active db'.incidents .availability id row := by
  have done : (finalState (next regionSource) (initial regionSource)
      [sampled 1 false, sampled 3 false]).isSome = true := by rfl
  obtain ⟨history, run, labels⟩ := run_of_isSome_labels done
  have taken : next regionSource ((finalState (next regionSource) (initial regionSource)
      [sampled 1 false, sampled 3 false]).get done) (sampled 2 true) = some _ := rfl
  have registered := registered_of_run (run.snoc taken)
  have rows := registered.stored
  rw [recorded_cons, recorded_eq, labels] at rows
  refine ⟨history, _, _, run, taken, ?_, ?_, ⟨1, _, rfl, rfl, rfl⟩, ?_⟩
  · rw [rows]
    unfold Distinct
    decide
  · rw [rows]
    unfold LastFailed
    decide
  · rw [registered.keyed.active_iff_activeCount]
    exact nofun

/-- Three failures in any order of arrival. -/
theorem late_samples_failures :
    ∃ (history : List (HealthDb × Label)) (db : HealthDb),
      Run (next regionSource) (initial regionSource) history db ∧
      (recorded history).map (·.sampledAt.wall) = [2, 3, 1] ∧
      Along (ShowsOutage regionSource) history := by
  have done : (finalState (next regionSource) (initial regionSource)
      [sampled 1 false, sampled 3 false, sampled 2 false]).isSome = true := by rfl
  obtain ⟨history, run, labels⟩ := run_of_isSome_labels done
  have distinct : Distinct (rowsOf regionSource history) := by
    unfold Distinct rowsOf
    rw [recorded_eq, labels]
    decide
  refine ⟨history, _, run, by rw [recorded_eq, labels]; rfl, (late_samples run distinct).mpr ?_⟩
  intro entry mem behind
  have taken := List.mem_map_of_mem (f := Prod.snd) mem
  rw [labels] at taken
  generalize entry.2 = label at taken behind
  -- No sample of the run succeeded.
  simp only [List.reverse_cons, List.reverse_nil, List.nil_append, List.cons_append,
    List.mem_cons, List.not_mem_nil, or_false] at taken
  rcases taken with rfl | rfl | rfl
  · exact Bool.false_ne_true behind.2.1
  · exact Bool.false_ne_true behind.2.1
  · exact Bool.false_ne_true behind.2.1

end ApiObservatory.Health
