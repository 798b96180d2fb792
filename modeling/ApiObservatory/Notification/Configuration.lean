import ApiObservatory.ContractDrift.Routes
import ApiObservatory.Notification.Requests
import Mathlib.Data.List.Perm.Subperm

/-
Settings of the channels that cost incident evidence
(`record_health_sample` and `create_contract_snapshot` in broker mode).

The evidence, the incidents and the notification requests are stored in one transaction, so an error of
the contract model costs all of them. The model refuses a list that names a channel twice, and the
parser of the setting does not look for repetitions.
-/

namespace ApiObservatory.IncidentNotifications

open Foundation Incidents

variable {Details : Type}

/-! ### Channels in the setting -/

section Naming

variable (unicode : UnicodeData)

/-- A part of the setting names the channel. -/
def names (part : List Char) (channel : NotificationChannel) : Bool :=
  strip part != "" && unicode.lower (strip part).toList == (channelName channel).toList

/-- How often the setting names the channel. -/
def namings (raw : String) (channel : NotificationChannel) : Nat :=
  (raw.toList.splitOn ',').countP fun part => names unicode part channel

theorem channelNamed_eq_some {name : List Char} {channel : NotificationChannel} :
    channelNamed name = some channel ↔ name = (channelName channel).toList := by
  constructor
  · intro named
    unfold channelNamed at named
    have same := List.find?_some named
    exact (beq_iff_eq.mp same).symm
  · rintro rfl
    cases channel <;> decide

theorem count_parseChannels (raw : String) (channel : NotificationChannel) :
    (parseChannels unicode raw).count channel = namings unicode raw channel := by
  rw [parseChannels, List.count_filterMap, List.countP_map, List.countP_filter, namings]
  refine List.countP_congr fun part _ => ?_
  simp only [Function.comp, names, Bool.and_eq_true, beq_iff_eq, channelNamed_eq_some]
  exact and_comm

/-- The parser keeps repetitions. -/
theorem nodup_parseChannels (raw : String) :
    (parseChannels unicode raw).Nodup ↔ ∀ channel, namings unicode raw channel ≤ 1 := by
  simp only [List.nodup_iff_count_le_one, count_parseChannels]

theorem parseChannels_ne_nil {raw : String} {channel : NotificationChannel}
    (named : 1 ≤ namings unicode raw channel) : parseChannels unicode raw ≠ [] := by
  rw [← count_parseChannels] at named
  exact List.ne_nil_of_mem (List.count_pos_iff.mp named)

end Naming

/-- There are four channels. -/
theorem length_le_of_nodup {channels : List NotificationChannel} (distinct : channels.Nodup) :
    channels.length ≤ 4 := by
  have known : channels ⊆ [.slack, .telegram, .webhook, .email] := by
    intro channel _
    cases channel <;> decide
  exact (distinct.subperm known).length_le

/-! ### Texts within the contract -/

theorem length_fraction (digits : List Char) : (Health.fraction digits).length ≤ digits.length + 1 := by
  have kept := (List.dropWhile_suffix (l := digits.reverse) (p := (· == '0'))).length_le
  rw [List.length_reverse] at kept
  unfold Health.fraction
  split
  · simp
  · simp only [String.length_append, String.length_ofList, List.length_reverse]
    rw [show ".".length = 1 from rfl]
    grind

theorem roundHalfEven_le (x : Rat) : Health.roundHalfEven x ≤ x.floor + 1 := by
  simp only [Health.roundHalfEven]
  split_ifs <;> omega

/-- The six significant digits, with the one more that rounding may give. -/
theorem length_significant (x : Rat) :
    let rounded := (Health.roundHalfEven (x / (10 : Rat) ^ (Int.log 10 x - 5))).toNat
    (toString (if rounded = 1000000 then 100000 else rounded)).length ≤ 7 := by
  intro rounded
  have scaled : x / (10 : Rat) ^ (Int.log 10 x - 5) < 1000000 := by
    have above : x < (10 : Rat) ^ (Int.log 10 x + 1) := by
      exact_mod_cast Int.lt_zpow_succ_log_self (b := 10) (by decide) x
    rw [div_lt_iff₀ (zpow_pos (by norm_num) _)]
    calc
      x < (10 : Rat) ^ (Int.log 10 x + 1) := above
      _ = (10 : Rat) ^ ((6 : Int) + (Int.log 10 x - 5)) := by ring_nf
      _ = 1000000 * (10 : Rat) ^ (Int.log 10 x - 5) := by
        rw [zpow_add₀ (by norm_num)]
        norm_num
  have bound : rounded ≤ 1000000 := by
    have floor : (x / (10 : Rat) ^ (Int.log 10 x - 5)).floor < 1000000 := by
      rw [Rat.floor_lt_iff]
      exact_mod_cast scaled
    have := roundHalfEven_le (x / (10 : Rat) ^ (Int.log 10 x - 5))
    omega
  refine (Nat.length_repr_le_iff (by decide)).mpr ?_
  split_ifs <;> omega

/-- An exponent has two digits at least. -/
theorem length_twoDigits {size : String} (short : size.length ≤ 3) :
    (if size.length < 2 then "0" ++ size else size).length ≤ 3 := by
  split
  · rw [String.length_append]
    change 1 + size.length ≤ 3
    omega
  · exact short

/-- The text of a float under `:g` is short. -/
theorem length_formatG {x : Rat} (low : (10 : Rat) ^ (-400 : Int) ≤ x)
    (high : x < (10 : Rat) ^ (400 : Int)) : (Health.formatG x).length ≤ 30 := by
  have positive : 0 < x := lt_of_lt_of_le (zpow_pos (by norm_num) _) low
  have above : -400 ≤ Int.log 10 x :=
    (Int.zpow_le_iff_le_log (by decide) positive).mp (by exact_mod_cast low)
  have below : Int.log 10 x < 400 :=
    (Int.lt_zpow_iff_log_lt (by decide) positive).mp (by exact_mod_cast high)
  have digits := length_significant x
  set rounded := (Health.roundHalfEven (x / (10 : Rat) ^ (Int.log 10 x - 5))).toNat with is
  set exponent := if rounded = 1000000 then Int.log 10 x + 1 else Int.log 10 x with power
  have low : -400 ≤ exponent := by split_ifs at power <;> omega
  have high : exponent ≤ 400 := by split_ifs at power <;> omega
  have size : (toString exponent.natAbs).length ≤ 3 :=
    (Nat.length_repr_le_iff (by decide)).mpr (by omega)
  simp only [Health.formatG, ← is, ← power]
  change (toString (if rounded = 1000000 then 100000 else rounded)).length ≤ 7 at digits
  rw [← String.length_toList] at digits
  generalize (toString (if rounded = 1000000 then 100000 else rounded)).toList = text at digits ⊢
  have after (n : Nat) : (Health.fraction (text.drop n)).length ≤ 8 :=
    (length_fraction _).trans (by rw [List.length_drop]; omega)
  have padded : (Health.fraction (List.replicate (-exponent - 1).toNat '0' ++ text)).length ≤
      (-exponent - 1).toNat + 8 :=
    (length_fraction _).trans (by rw [List.length_append, List.length_replicate]; omega)
  have sign : (if exponent < 0 then "e-" else "e+").length = 2 := by split <;> rfl
  split
  · simp only [String.length_append, String.length_ofList, List.length_take, sign]
    have := after 1
    have := length_twoDigits size
    omega
  · split
    · simp only [String.length_append, String.length_ofList, List.length_take]
      have := after (exponent.toNat + 1)
      omega
    · rw [String.length_append]
      change 1 + _ ≤ 30
      omega

/-- A stored source, within its columns and the bounds of its schemas. -/
structure WellFormed (source : SourceProfile) : Prop where
  id : 1 ≤ source.id
  tenantId : PositiveOrNone source.tenantId
  name : source.name.length ≤ 255
  incidentFailureThreshold : source.incidentFailureThreshold ≤ 20
  /-- The positive floats are between these. -/
  latencyThresholdMs : ∀ threshold ∈ source.latencyThresholdMs,
    (2 : Rat) ^ (-1074 : Int) ≤ threshold ∧ threshold < (2 : Rat) ^ (1024 : Int)

theorem length_formatG_of_float {x : Rat} (low : (2 : Rat) ^ (-1074 : Int) ≤ x)
    (high : x < (2 : Rat) ^ (1024 : Int)) : (Health.formatG x).length ≤ 30 := by
  have least : (10 : Rat) ^ (-400 : Int) ≤ (2 : Rat) ^ (-1074 : Int) := by
    have powers : (2 : Nat) ^ 1074 ≤ 10 ^ 400 := by decide +kernel
    rw [zpow_neg, zpow_neg]
    exact inv_anti₀ (zpow_pos (by norm_num) _) (by exact_mod_cast powers)
  have most : (2 : Rat) ^ (1024 : Int) ≤ (10 : Rat) ^ (400 : Int) := by
    have powers : (2 : Nat) ^ 1024 ≤ 10 ^ 400 := by decide +kernel
    exact_mod_cast powers
  exact length_formatG (least.trans low) (high.trans_le most)

theorem availabilitySummary (threshold : Nat) (name : String) :
    s!"{threshold} consecutive probes failed for {name}." =
      Nat.repr threshold ++ " consecutive probes failed for " ++ name ++ "." := rfl

theorem latencySummary (threshold : Nat) (name ms : String) :
    s!"{threshold} consecutive probes for {name} exceeded {ms} ms." =
      Nat.repr threshold ++ " consecutive probes for " ++ name ++ " exceeded " ++ ms ++ " ms." := rfl

theorem availabilityCalls_fit {source : SourceProfile} (formed : WellFormed source) (sampleId : Nat)
    (sample : ProviderHealthSample) (recent : List ProviderHealthSample)
    (now checkedAt : TriggerType → Int) :
    ∀ call ∈ Health.availabilityCalls source sampleId sample recent now checkedAt, CallFits call := by
  have digits : (Nat.repr source.incidentFailureThreshold).length ≤ 2 :=
    (Nat.length_repr_le_iff (by decide)).mpr (by have := formed.incidentFailureThreshold; omega)
  intro call mem
  simp only [Health.availabilityCalls] at mem
  split at mem
  · cases List.mem_singleton.mp mem
    refine ⟨by decide, ?_⟩
    unfold LengthBetween
    rw [availabilitySummary]
    simp only [String.length_append]
    rw [show " consecutive probes failed for ".length = 31 from rfl, show ".".length = 1 from rfl]
    have := formed.name
    omega
  · split at mem
    · cases List.mem_singleton.mp mem
      trivial
    · cases mem

theorem latencyCalls_fit {source : SourceProfile} (formed : WellFormed source) (sampleId : Nat)
    (sample : ProviderHealthSample) (recent : List ProviderHealthSample)
    (now checkedAt : TriggerType → Int) :
    ∀ call ∈ Health.latencyCalls source sampleId sample recent now checkedAt, CallFits call := by
  have digits : (Nat.repr source.incidentFailureThreshold).length ≤ 2 :=
    (Nat.length_repr_le_iff (by decide)).mpr (by have := formed.incidentFailureThreshold; omega)
  intro call mem
  simp only [Health.latencyCalls] at mem
  split at mem
  · cases mem
  · rename_i threshold given
    split at mem
    · cases List.mem_singleton.mp mem
      obtain ⟨low, high⟩ := formed.latencyThresholdMs threshold given
      have shown := length_formatG_of_float low high
      refine ⟨by decide, ?_⟩
      unfold LengthBetween
      rw [latencySummary]
      simp only [String.length_append]
      rw [show " consecutive probes for ".length = 24 from rfl, show " exceeded ".length = 10 from rfl,
        show " ms.".length = 4 from rfl]
      have := formed.name
      omega
    · split at mem
      · cases List.mem_singleton.mp mem
        trivial
      · cases mem

/-- A call with its details under another representation. -/
def Call.mapDetails {Details' : Type} (f : Details → Details') : Call Details → Call Details'
  | .openOrUpdate triggerType severity summary details now checkedAt =>
      .openOrUpdate triggerType severity summary (f details) now checkedAt
  | .resolveActive triggerType actor now => .resolveActive triggerType actor now

/-! ### The transaction of the evidence -/

/-- A health sample, or the event of a confirmed drift. -/
inductive Evidence where
  | sample (payload : Health.HealthSampleCreate)
  | drift (event : DriftEvent)

/-- The column of the summary holds the text. -/
def Evidence.Fits : Evidence → Prop
  | .sample _ => True
  | .drift event => event.summary.length ≤ 1024

structure EvidenceDb (Details : Type) extends IncidentDb Details where
  samples : Rows ProviderHealthSample
  driftEvents : Rows DriftEvent

section Evidence

variable (health : Health.HealthDetails → Details) (drift : Nat → DriftEvent → Details)
  (db : EvidenceDb Details) (source : SourceProfile) (evidence : Evidence)
  (now checkedAt : TriggerType → Int)

/-- The row of the evidence. -/
def EvidenceDb.store : EvidenceDb Details :=
  match evidence with
  | .sample payload => { db with samples := db.samples.insert (Health.newSample source payload) }
  | .drift event => { db with driftEvents := db.driftEvents.insert event }

/-- The calls of `reconcile_health_incidents`, or the one of a confirmed drift. -/
def evidenceCalls : List (Call Details) :=
  match evidence with
  | .sample payload =>
      let sample := Health.newSample source payload
      let recent := Health.recentSamples
        ((db.samples.insert sample).select fun _ row => row.sourceId == source.id)
        source.incidentFailureThreshold
      (Health.reconcileCalls source db.samples.nextId sample recent now checkedAt).map
        (Call.mapDetails health)
  | .drift event =>
      if ContractRoutes.requiresIncidentResponse event then
        [.openOrUpdate .drift (ContractRoutes.driftSeverityText event.severity)
          (if event.summary = "" then "Breaking contract drift detected." else event.summary)
          (drift db.driftEvents.nextId event) (now .drift) (checkedAt .drift)]
      else []

/-- The incidents and the transitions of the evidence. -/
def evidenceTransitions : Rows (DependencyIncident Details) × List (Nat × IncidentTransition Details) :=
  applyCalls source (evidenceCalls health drift db source evidence now checkedAt) db.incidents

/-- The transaction up to its commit. -/
def recordEvidence (unicode : UnicodeData) (settings : NotificationSettings) :
    Except EnqueueError (EvidenceDb Details) :=
  let (incidents, transitions) := evidenceTransitions health drift db source evidence now checkedAt
  match enqueueIncidentNotificationRequests unicode settings ⟨incidents, db.outbox⟩ transitions with
  | .error error => .error error
  | .ok done => .ok { db.store source evidence with toIncidentDb := done }

theorem evidenceCalls_fit (formed : WellFormed source) (fits : evidence.Fits) :
    ∀ call ∈ evidenceCalls health drift db source evidence now checkedAt, CallFits call := by
  cases evidence with
  | sample payload =>
    simp only [evidenceCalls, List.mem_map, Health.reconcileCalls, List.mem_append]
    rintro _ ⟨call, mem, rfl⟩
    have here : CallFits call :=
      mem.elim (availabilityCalls_fit formed _ _ _ _ _ call) (latencyCalls_fit formed _ _ _ _ _ call)
    cases call with
    | openOrUpdate => exact here
    | resolveActive => trivial
  | drift event =>
    intro call mem
    simp only [evidenceCalls] at mem
    split at mem
    · cases List.mem_singleton.mp mem
      refine ⟨by cases event.severity <;> decide, ?_⟩
      split
      · decide
      · rename_i written
        exact ⟨Nat.pos_of_ne_zero fun empty => written (String.length_eq_zero_iff.mp empty), fits⟩
    · cases mem

theorem length_evidenceCalls :
    (evidenceCalls health drift db source evidence now checkedAt).length ≤ 2 := by
  cases evidence with
  | sample payload =>
    simp only [evidenceCalls, List.length_map, Health.reconcileCalls, List.length_append,
      Health.availabilityCalls, Health.latencyCalls]
    grind
  | drift event =>
    simp only [evidenceCalls]
    split
    · exact Nat.le_succ 1
    · exact Nat.zero_le 2

/-- The calls are those of `record_health_sample`. -/
theorem recordHealthSample_evidence (drift : Nat → DriftEvent → Health.HealthDetails)
    (db : EvidenceDb Health.HealthDetails) (sources : Rows SourceProfile)
    (payload : Health.HealthSampleCreate)
    (found : (sources.get payload.sourceId).filter (·.deletedAt.isNone) = some source) :
    Health.recordHealthSample ⟨sources, db.samples, db.incidents⟩ payload now checkedAt =
      .ok (⟨sources, (db.store source (.sample payload)).samples,
          (evidenceTransitions id drift db source (.sample payload) now checkedAt).1⟩,
        (evidenceTransitions id drift db source (.sample payload) now checkedAt).2.map Prod.snd) := by
  have same (calls : List (Call Health.HealthDetails)) : calls.map (Call.mapDetails id) = calls := by
    have identity : Call.mapDetails (@id Health.HealthDetails) = id := by
      funext call
      cases call <;> rfl
    rw [identity, List.map_id]
  simp only [Health.recordHealthSample, found, applyCalls_health, evidenceTransitions, evidenceCalls,
    same, EvidenceDb.store]

/-- When its request goes through, a confirmed drift leaves the incidents of the drift route. -/
theorem recordIncident_evidence {settings : ContractRoutes.Settings} (broker : settings.broker = true)
    (enabled : settings.notificationsEnabled = true) (health : Health.HealthDetails → Json)
    (db : EvidenceDb Json) {event : DriftEvent}
    (response : ContractRoutes.requiresIncidentResponse event = true) (clock : ContractRoutes.Clock)
    {channels : List NotificationChannel} {done : IncidentDb Json}
    (ran :
      let transitions := evidenceTransitions health ContractRoutes.incidentDetails db source
        (.drift event) (fun _ => clock.incidentAt) (fun _ => clock.checkedAt)
      enqueueRequests channels ⟨transitions.1, db.outbox⟩ transitions.2 = .ok done) :
    done.incidents = ContractRoutes.recordIncident settings db.incidents source
      db.driftEvents.nextId event clock := by
  simp only [evidenceTransitions, evidenceCalls, response, if_true, applyCalls, List.append_nil] at ran
  have lookup : ContractRoutes.activeIncident db.incidents (fingerprint source .drift) =
      activeIncident db.incidents (fingerprint source .drift) := rfl
  simp only [ContractRoutes.recordIncident, lookup]
  cases found : activeIncident db.incidents (fingerprint source .drift) with
  | none =>
    simp only [applyCall, Call.triggerType, found, Option.toList] at ran
    rw [enqueueRequests_incidents ran, Rows.modify_insert_self]
    simp only [ContractRoutes.notified, broker, enabled, if_true]
    generalize openOrUpdateIncident _ _ _ _ _ _ _ _ = transition
    cases transition.shouldNotify <;> rfl
  | some entry =>
    simp only [applyCall, Call.triggerType, found, Option.toList] at ran
    rw [enqueueRequests_incidents ran, Rows.modify_modify]
    simp only [ContractRoutes.notified, broker, enabled, if_true]
    generalize openOrUpdateIncident _ _ _ _ _ _ _ _ = transition
    cases transition.shouldNotify <;> rfl

/-! ### When the evidence is kept -/

variable (unicode : UnicodeData) (settings : NotificationSettings)

/-- The transaction commits, with a valid request for each transition that notifies. -/
def EvidenceKept : Prop :=
  ∃ done, recordEvidence health drift db source evidence now checkedAt unicode settings = .ok done ∧
    (settings.notificationsEnabled = true →
      ∀ entry ∈ (evidenceTransitions health drift db source evidence now checkedAt).2,
        entry.2.shouldNotify = true →
          (requestFields (configuredNotificationChannels unicode settings) entry.1
            entry.2.incident).Valid ∧
          ∃ id row, done.outbox.get id = some row ∧
            row.idempotencyKey = requestKey entry.1 entry.2.incident.occurrenceCount)

/-- The transaction commits when the enqueueing goes through. -/
theorem recordEvidence_eq_ok {done : EvidenceDb Details} :
    recordEvidence health drift db source evidence now checkedAt unicode settings = .ok done ↔
      ∃ after, enqueueIncidentNotificationRequests unicode settings
          ⟨(evidenceTransitions health drift db source evidence now checkedAt).1, db.outbox⟩
          (evidenceTransitions health drift db source evidence now checkedAt).2 = .ok after ∧
        { db.store source evidence with toIncidentDb := after } = done := by
  simp only [recordEvidence]
  split
  · rename_i raised
    simp [raised]
  · rename_i after ran
    simp [ran]

theorem evidenceKept_of_disabled (off : settings.notificationsEnabled = false) :
    EvidenceKept health drift db source evidence now checkedAt unicode settings := by
  let transitions := evidenceTransitions health drift db source evidence now checkedAt
  refine ⟨{ db.store source evidence with toIncidentDb := ⟨transitions.1, db.outbox⟩ },
    (recordEvidence_eq_ok ..).mpr ⟨_, ?_, rfl⟩, fun on => ?_⟩
  · simp [enqueueIncidentNotificationRequests, off, transitions]
  · rw [off] at on
    cases on

/-- The evidence is kept when every request is valid. -/
theorem evidenceKept_iff_valid (broker : settings.broker = true)
    (enabled : settings.notificationsEnabled = true)
    (some : configuredNotificationChannels unicode settings ≠ []) :
    EvidenceKept health drift db source evidence now checkedAt unicode settings ↔
      ∀ entry ∈ (evidenceTransitions health drift db source evidence now checkedAt).2,
        entry.2.shouldNotify = true →
          (requestFields (configuredNotificationChannels unicode settings) entry.1
            entry.2.incident).Valid := by
  constructor
  · rintro ⟨done, -, kept⟩ entry mem notify
    exact (kept enabled entry mem notify).1
  · intro valid
    obtain ⟨after, ran⟩ := enqueueRequests_ok_iff.mpr valid
    refine ⟨_, (recordEvidence_eq_ok ..).mpr ⟨after, ?_, rfl⟩, fun _ entry mem notify =>
      ⟨valid entry mem notify, enqueueRequests_stored ran entry mem notify⟩⟩
    rw [enqueueIncidentNotificationRequests_of_enabled unicode broker enabled some]
    exact ran

/-- **Evidence and the channel setting.** In broker mode, with a setting that names a channel, the
transaction of a health sample or a confirmed drift is kept exactly when notifications are off, or
no transition is to notify, or no channel is named twice. -/
theorem evidence_kept_iff (broker : settings.broker = true)
    (named : ∃ channel, 1 ≤ namings unicode settings.notificationDefaultChannels channel)
    (formed : WellFormed source) (fits : evidence.Fits)
    (sound : SoundIncidents (2 ^ 31) db.incidents) :
    EvidenceKept health drift db source evidence now checkedAt unicode settings ↔
      settings.notificationsEnabled = false ∨
      (∀ entry ∈ (evidenceTransitions health drift db source evidence now checkedAt).2,
        entry.2.shouldNotify = false) ∨
      ∀ channel, namings unicode settings.notificationDefaultChannels channel ≤ 1 := by
  obtain ⟨channel, named⟩ := named
  have some : configuredNotificationChannels unicode settings ≠ [] :=
    parseChannels_ne_nil unicode named
  have valid : ValidChannels (configuredNotificationChannels unicode settings) ↔
      ∀ channel, namings unicode settings.notificationDefaultChannels channel ≤ 1 := by
    rw [← nodup_parseChannels]
    exact ⟨fun valid => valid.2.2, fun distinct =>
      ⟨List.length_pos_iff.mpr some, length_le_of_nodup distinct, distinct⟩⟩
  have deliverable := applyCalls_deliverable formed.id formed.tenantId
    (evidenceCalls_fit health drift db source evidence now checkedAt formed fits) sound
  have few := length_evidenceCalls health drift db source evidence now checkedAt
  have request : ∀ entry ∈ (evidenceTransitions health drift db source evidence now checkedAt).2,
      entry.2.shouldNotify = true →
        ((requestFields (configuredNotificationChannels unicode settings) entry.1
          entry.2.incident).Valid ↔
            ∀ channel, namings unicode settings.notificationDefaultChannels channel ≤ 1) := by
    intro entry mem notify
    rw [← valid]
    exact requestFields_valid_iff (deliverable entry mem notify) (by omega)
  cases enabled : settings.notificationsEnabled with
  | false =>
    exact iff_of_true (evidenceKept_of_disabled _ _ _ _ _ _ _ _ _ enabled) (.inl rfl)
  | true =>
    rw [evidenceKept_iff_valid _ _ _ _ _ _ _ _ _ broker enabled some]
    constructor
    · intro valid
      by_cases silent : ∀ entry ∈
          (evidenceTransitions health drift db source evidence now checkedAt).2,
            entry.2.shouldNotify = false
      · exact .inr (.inl silent)
      · push Not at silent
        obtain ⟨entry, mem, notify⟩ := silent
        rw [ne_eq, Bool.not_eq_false] at notify
        exact .inr (.inr ((request entry mem notify).mp (valid entry mem notify)))
    · rintro (off | silent | once) entry mem notify
      · cases off
      · rw [silent entry mem] at notify
        cases notify
      · exact (request entry mem notify).mpr once

end Evidence

/-! ### A channel named twice -/

def slackTwice : NotificationSettings where
  broker := true
  notificationsEnabled := true
  notificationDefaultChannels := "slack, Slack"

def firstFailure : SourceProfile where
  id := 1
  name := "weather"
  baseUrl := "https://weather.example.com"
  tenantId := some 1
  incidentFailureThreshold := 1

def emptyEvidenceDb : EvidenceDb Health.HealthDetails where
  incidents := Rows.empty
  outbox := Rows.empty
  samples := Rows.empty
  driftEvents := Rows.empty

def failedProbe : Evidence :=
  .sample { sourceId := 1, sampledAt := ⟨0, none⟩, latencyMs := 120, isSuccess := false }

def noDriftDetails (sampleId : Nat) (_ : DriftEvent) : Health.HealthDetails :=
  .availability sampleId none none 1

/-- The failed probe is not stored, and neither is its incident. -/
theorem slack_twice_costs_evidence :
    ¬ EvidenceKept id noDriftDetails emptyEvidenceDb firstFailure failedProbe (fun _ => 0)
      (fun _ => 0) asciiLower slackTwice := by
  rintro ⟨done, -, kept⟩
  have opened : ∃ entry ∈ (evidenceTransitions id noDriftDetails emptyEvidenceDb firstFailure
      failedProbe (fun _ => 0) (fun _ => 0)).2, entry.2.shouldNotify = true := by
    decide
  obtain ⟨entry, mem, notify⟩ := opened
  obtain ⟨-, -, -, -, -, -, -, -, -, -, distinct⟩ := (kept rfl entry mem notify).1
  have twice : configuredNotificationChannels asciiLower slackTwice = [.slack, .slack] := by
    decide
  have once : (configuredNotificationChannels asciiLower slackTwice).Nodup := distinct
  rw [twice] at once
  exact absurd once (by decide)

theorem emailAndSlack_kept :
    EvidenceKept id noDriftDetails emptyEvidenceDb firstFailure failedProbe (fun _ => 0)
      (fun _ => 0) asciiLower { slackTwice with notificationDefaultChannels := " Email, slack,pager" } := by
  have formed : WellFormed firstFailure := by
    refine ⟨by decide, by decide, by decide, by decide, fun _ given => ?_⟩
    cases given
  have sound : SoundIncidents (2 ^ 31) emptyEvidenceDb.incidents :=
    ⟨by decide, fun stored => nomatch stored⟩
  let settings := { slackTwice with notificationDefaultChannels := " Email, slack,pager" }
  have named : ∃ channel, 1 ≤ namings asciiLower settings.notificationDefaultChannels channel :=
    ⟨.slack, by decide⟩
  refine (evidence_kept_iff id noDriftDetails emptyEvidenceDb firstFailure failedProbe (fun _ => 0)
    (fun _ => 0) asciiLower settings rfl named formed trivial sound).mpr (.inr (.inr fun channel => ?_))
  cases channel <;> decide

end ApiObservatory.IncidentNotifications
