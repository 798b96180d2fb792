import Mathlib.Algebra.Order.Field.Rat
import Mathlib.Data.Rat.Floor
import Mathlib.Tactic.GCongr

/-
The two abuse detectors (`services/ingestor/core/security/abuse_detection.py`), over exact numbers.

`evaluate_key_suspicion` looks at three signals one after another and answers with the first that
reaches a threshold. So a weak finding stands in front of a strong one that comes later
(`worst_finding_wins_iff`); `evaluate_source_noise` has one signal and nothing to hide.
-/

namespace ApiObservatory.AbuseDetection

/-! ### Signals -/

inductive Severity where
  | low | medium | high | critical
deriving DecidableEq

/-- `SEVERITY_RANK`. -/
def Severity.rank : Severity → Int
  | .low => 0
  | .medium => 1
  | .high => 2
  | .critical => 3

inductive SignalType where
  | noisySource | suspiciousKey
deriving DecidableEq

inductive ActorType where
  | apiKey | sourceId
deriving DecidableEq

inductive DetectionRule where
  | quotaExceeded | authFailureSpike | multiIpKey | errorRateSpike
deriving DecidableEq

inductive Action where
  | logged | alerted
deriving DecidableEq

/-- A number of the evidence. -/
inductive Number where
  | int (value : Int)
  | float (value : Rat)
deriving DecidableEq

/-- The texts and the tenant that the schema admits; others raise a `ValidationError`. -/
abbrev ActorId := { text : String // 1 ≤ text.length ∧ text.length ≤ 255 }

abbrev TenantId := { id : Int // 1 ≤ id }

abbrev IpText := { text : String // text.length ≤ 64 }

structure AbuseSignalCreate where
  signalType : SignalType
  actorType : ActorType
  actorId : ActorId
  severity : Severity
  detectionRule : DetectionRule
  evidence : List (String × Number)
  actionTaken : Action
  tenantId : Option TenantId
  ipAddress : Option IpText := none
  notes : Option String := none
deriving DecidableEq

/-- `round(value, digits)`, to the nearest, halves to the even digit. -/
def roundTo (digits : Nat) (value : Rat) : Rat :=
  let scaled := value * 10 ^ digits
  let below := ⌊scaled⌋
  let rest := scaled - below
  let nearest :=
    if rest < 1 / 2 then below
    else if 1 / 2 < rest then below + 1
    else if below % 2 = 0 then below
    else below + 1
  nearest / 10 ^ digits

/-! ### The noisy source -/

def abuseNoisySourceMultiplierMedium : Rat := 2

def abuseNoisySourceMultiplierHigh : Rat := 5

def abuseNoisySourceMultiplierCritical : Rat := 10

def abuseNoisySourceDefaultQuota : Int := 60

/-- The severity and the action for a ratio of the expected requests. -/
def noiseLevel (ratio : Rat) : Option (Severity × Action) :=
  if ratio ≥ abuseNoisySourceMultiplierCritical then some (.critical, .alerted)
  else if ratio ≥ abuseNoisySourceMultiplierHigh then some (.high, .alerted)
  else if ratio ≥ abuseNoisySourceMultiplierMedium then some (.medium, .logged)
  else none

/-- `evaluate_source_noise`. -/
def evaluateSourceNoise (sourceName : ActorId) (requestCount windowSeconds : Int)
    (quotaPerMinute : Option Int) (tenantId : Option TenantId) (ipAddress : Option IpText) :
    Option AbuseSignalCreate :=
  let effectiveQuota := quotaPerMinute.getD abuseNoisySourceDefaultQuota
  let expected : Rat := effectiveQuota * (windowSeconds / 60)
  if expected ≤ 0 then none
  else
    let ratio := requestCount / expected
    (noiseLevel ratio).map fun (severity, action) =>
      { signalType := .noisySource
        actorType := .sourceId
        actorId := sourceName
        severity
        detectionRule := .quotaExceeded
        evidence :=
          [("request_count", .int requestCount), ("expected_for_window", .float (roundTo 2 expected)),
            ("ratio", .float (roundTo 3 ratio)), ("window_seconds", .int windowSeconds),
            ("quota_per_minute", .int effectiveQuota)]
        actionTaken := action
        tenantId
        ipAddress }

/-! ### The suspicious key -/

def abuseKeyAuthFailureThresholdMedium : Int := 5

def abuseKeyAuthFailureThresholdHigh : Int := 20

def abuseKeyDistinctIpThresholdMedium : Int := 5

def abuseKeyDistinctIpThresholdHigh : Int := 10

def abuseKeyErrorRateThresholdMedium : Rat := 1 / 2

def abuseKeyErrorRateThresholdHigh : Rat := 9 / 10

structure KeyMetrics where
  windowSeconds : Int
  authFailureCount : Int := 0
  distinctIpCount : Int := 0
  errorRate : Rat := 0
  totalRequests : Int := 0
deriving DecidableEq

section Key

variable (keyPrefix : ActorId) (tenantId : Option TenantId) (metrics : KeyMetrics)

def suspiciousKey (rule : DetectionRule) (severity : Severity) (action : Action)
    (evidence : List (String × Number)) : AbuseSignalCreate where
  signalType := .suspiciousKey
  actorType := .apiKey
  actorId := keyPrefix
  severity := severity
  detectionRule := rule
  evidence := evidence
  actionTaken := action
  tenantId := tenantId

/-- The signal of an auth failure spike that reaches a threshold. -/
def authFailureSpike (severity : Severity) (threshold : Int) (action : Action) : AbuseSignalCreate :=
  suspiciousKey keyPrefix tenantId .authFailureSpike severity action
    [("auth_failure_count", .int metrics.authFailureCount), ("threshold", .int threshold),
      ("window_seconds", .int metrics.windowSeconds)]

def multiIpKey (severity : Severity) (threshold : Int) (action : Action) : AbuseSignalCreate :=
  suspiciousKey keyPrefix tenantId .multiIpKey severity action
    [("distinct_ip_count", .int metrics.distinctIpCount), ("threshold", .int threshold),
      ("window_seconds", .int metrics.windowSeconds)]

def errorRateSpike (severity : Severity) (threshold : Rat) (action : Action) : AbuseSignalCreate :=
  suspiciousKey keyPrefix tenantId .errorRateSpike severity action
    [("error_rate", .float (roundTo 4 metrics.errorRate)), ("threshold", .float threshold),
      ("total_requests", .int metrics.totalRequests), ("window_seconds", .int metrics.windowSeconds)]

/-- `evaluate_key_suspicion`. -/
def evaluateKeySuspicion : Option AbuseSignalCreate :=
  if metrics.authFailureCount ≥ abuseKeyAuthFailureThresholdHigh then
    some (authFailureSpike keyPrefix tenantId metrics .high abuseKeyAuthFailureThresholdHigh .alerted)
  else if metrics.authFailureCount ≥ abuseKeyAuthFailureThresholdMedium then
    some (authFailureSpike keyPrefix tenantId metrics .medium abuseKeyAuthFailureThresholdMedium
      .logged)
  else if metrics.distinctIpCount ≥ abuseKeyDistinctIpThresholdHigh then
    some (multiIpKey keyPrefix tenantId metrics .high abuseKeyDistinctIpThresholdHigh .alerted)
  else if metrics.distinctIpCount ≥ abuseKeyDistinctIpThresholdMedium then
    some (multiIpKey keyPrefix tenantId metrics .medium abuseKeyDistinctIpThresholdMedium .logged)
  else if metrics.totalRequests > 0 then
    if metrics.errorRate ≥ abuseKeyErrorRateThresholdHigh then
      some (errorRateSpike keyPrefix tenantId metrics .high abuseKeyErrorRateThresholdHigh .alerted)
    else if metrics.errorRate ≥ abuseKeyErrorRateThresholdMedium then
      some (errorRateSpike keyPrefix tenantId metrics .medium abuseKeyErrorRateThresholdMedium .logged)
    else none
  else none

end Key

/-! ### Signals on their own -/

/-- How far a signal gets. -/
inductive Level where
  | quiet | medium | high
deriving DecidableEq

/-- The rank of a level, `-1` for no finding. -/
def Level.rank : Level → Int
  | .quiet => -1
  | .medium => Severity.medium.rank
  | .high => Severity.high.rank

section Levels

variable {α : Type} [LinearOrder α]

def levelOf (medium high value : α) : Level :=
  if high ≤ value then .high else if medium ≤ value then .medium else .quiet

theorem levelOf_mono {medium high value value' : α} (le : value ≤ value') :
    (levelOf medium high value).rank ≤ (levelOf medium high value').rank := by
  unfold levelOf
  by_cases top : high ≤ value
  · rw [if_pos top, if_pos (top.trans le)]
  · rw [if_neg top]
    by_cases mid : medium ≤ value
    · rw [if_pos mid, if_pos (mid.trans le)]
      split <;> decide
    · rw [if_neg mid]
      split
      · decide
      · split <;> decide

end Levels

namespace KeyMetrics

variable (metrics : KeyMetrics)

def authLevel : Level :=
  levelOf abuseKeyAuthFailureThresholdMedium abuseKeyAuthFailureThresholdHigh metrics.authFailureCount

def ipLevel : Level :=
  levelOf abuseKeyDistinctIpThresholdMedium abuseKeyDistinctIpThresholdHigh metrics.distinctIpCount

def errorLevel : Level :=
  if 0 < metrics.totalRequests then
    levelOf abuseKeyErrorRateThresholdMedium abuseKeyErrorRateThresholdHigh metrics.errorRate
  else .quiet

/-- The three signals, each with its level. -/
def levels : List (DetectionRule × Level) :=
  [(.authFailureSpike, metrics.authLevel), (.multiIpKey, metrics.ipLevel),
    (.errorRateSpike, metrics.errorLevel)]

/-- A weak signal stands in front of a strong one. -/
def Overtaken : Prop :=
  (metrics.authLevel = .medium ∧ (metrics.ipLevel = .high ∨ metrics.errorLevel = .high)) ∨
    (metrics.authLevel = .quiet ∧ metrics.ipLevel = .medium ∧ metrics.errorLevel = .high)

/-- Some signal reaches its high threshold. -/
def ReachesHigh : Prop :=
  metrics.authLevel = .high ∨ metrics.ipLevel = .high ∨ metrics.errorLevel = .high

instance : Decidable metrics.Overtaken := by unfold Overtaken; infer_instance

instance : Decidable metrics.ReachesHigh := by unfold ReachesHigh; infer_instance

end KeyMetrics

/-- The signal that one rule raises at a level, with its own threshold. -/
def findingOf (keyPrefix : ActorId) (tenantId : Option TenantId) (metrics : KeyMetrics) :
    DetectionRule × Level → Option AbuseSignalCreate
  | (.authFailureSpike, .high) =>
      some (authFailureSpike keyPrefix tenantId metrics .high abuseKeyAuthFailureThresholdHigh .alerted)
  | (.authFailureSpike, .medium) =>
      some (authFailureSpike keyPrefix tenantId metrics .medium abuseKeyAuthFailureThresholdMedium .logged)
  | (.multiIpKey, .high) =>
      some (multiIpKey keyPrefix tenantId metrics .high abuseKeyDistinctIpThresholdHigh .alerted)
  | (.multiIpKey, .medium) =>
      some (multiIpKey keyPrefix tenantId metrics .medium abuseKeyDistinctIpThresholdMedium .logged)
  | (.errorRateSpike, .high) =>
      some (errorRateSpike keyPrefix tenantId metrics .high abuseKeyErrorRateThresholdHigh .alerted)
  | (.errorRateSpike, .medium) =>
      some (errorRateSpike keyPrefix tenantId metrics .medium abuseKeyErrorRateThresholdMedium .logged)
  | _ => none

/-- The rank of an answer; `None` is lowest. -/
def rankOf : Option AbuseSignalCreate → Int
  | none => -1
  | some signal => signal.severity.rank

/-! ### The worst finding -/

section Worst

variable {keyPrefix : ActorId} {tenantId : Option TenantId} {metrics metrics' : KeyMetrics}

/-- The first of the three signals that reaches a threshold. -/
theorem evaluateKeySuspicion_eq :
    evaluateKeySuspicion keyPrefix tenantId metrics =
      metrics.levels.findSome? (findingOf keyPrefix tenantId metrics) := by
  unfold evaluateKeySuspicion KeyMetrics.levels KeyMetrics.authLevel KeyMetrics.ipLevel
    KeyMetrics.errorLevel levelOf
  by_cases authHigh : abuseKeyAuthFailureThresholdHigh ≤ metrics.authFailureCount
  · simp [authHigh, findingOf, List.findSome?_cons]
  by_cases authMedium : abuseKeyAuthFailureThresholdMedium ≤ metrics.authFailureCount
  · simp [authHigh, authMedium, findingOf, List.findSome?_cons]
  by_cases ipHigh : abuseKeyDistinctIpThresholdHigh ≤ metrics.distinctIpCount
  · simp [authHigh, authMedium, ipHigh, findingOf, List.findSome?_cons]
  by_cases ipMedium : abuseKeyDistinctIpThresholdMedium ≤ metrics.distinctIpCount
  · simp [authHigh, authMedium, ipHigh, ipMedium, findingOf, List.findSome?_cons]
  by_cases requests : 0 < metrics.totalRequests
  · by_cases errorHigh : abuseKeyErrorRateThresholdHigh ≤ metrics.errorRate
    · simp [authHigh, authMedium, ipHigh, ipMedium, requests, errorHigh, findingOf, List.findSome?_cons]
    by_cases errorMedium : abuseKeyErrorRateThresholdMedium ≤ metrics.errorRate
    · simp [authHigh, authMedium, ipHigh, ipMedium, requests, errorHigh, errorMedium, findingOf, List.findSome?_cons]
    · simp [authHigh, authMedium, ipHigh, ipMedium, requests, errorHigh, errorMedium, findingOf, List.findSome?_cons]
  · simp [authHigh, authMedium, ipHigh, ipMedium, requests, findingOf, List.findSome?_cons]

/-- The answer is the finding of a signal that goes as far as any, and there is none exactly when no
signal reaches a threshold. -/
structure WorstFindingWins (keyPrefix : ActorId) (tenantId : Option TenantId) (metrics : KeyMetrics) :
    Prop where
  none_iff : evaluateKeySuspicion keyPrefix tenantId metrics = none ↔
    ∀ signal ∈ metrics.levels, signal.2 = .quiet
  worst : ∀ found, evaluateKeySuspicion keyPrefix tenantId metrics = some found →
    ∃ signal ∈ metrics.levels, findingOf keyPrefix tenantId metrics signal = some found ∧
      ∀ other ∈ metrics.levels, other.2.rank ≤ found.severity.rank

/-- A finding has the severity of its level. -/
theorem rankOf_findingOf {rule : DetectionRule} {level : Level} (own : rule ≠ .quotaExceeded) :
    rankOf (findingOf keyPrefix tenantId metrics (rule, level)) = level.rank := by
  cases level with
  | quiet => cases rule <;> rfl
  | medium | high =>
    cases rule with
    | quotaExceeded => exact absurd rfl own
    | authFailureSpike | multiIpKey | errorRateSpike => rfl

theorem rule_of_mem_levels {signal : DetectionRule × Level} (mem : signal ∈ metrics.levels) :
    signal.1 ≠ .quotaExceeded := by
  simp only [KeyMetrics.levels, List.mem_cons, List.not_mem_nil, or_false] at mem
  rcases mem with rfl | rfl | rfl <;> nofun

theorem findingOf_eq_none_iff {signal : DetectionRule × Level} (own : signal.1 ≠ .quotaExceeded) :
    findingOf keyPrefix tenantId metrics signal = none ↔ signal.2 = .quiet := by
  obtain ⟨rule, level⟩ := signal
  have rank : rankOf (findingOf keyPrefix tenantId metrics (rule, level)) = level.rank :=
    rankOf_findingOf own
  constructor
  · intro nothing
    rw [nothing] at rank
    cases level with
    | quiet => rfl
    | medium | high => cases rank
  · rintro rfl
    cases rule <;> rfl

/-- Nothing is found exactly when nothing reaches a threshold. -/
theorem evaluateKeySuspicion_eq_none_iff :
    evaluateKeySuspicion keyPrefix tenantId metrics = none ↔
      ∀ signal ∈ metrics.levels, signal.2 = .quiet := by
  rw [evaluateKeySuspicion_eq, List.findSome?_eq_none_iff]
  exact forall₂_congr fun signal mem => findingOf_eq_none_iff (rule_of_mem_levels mem)

/-- What is found is found by one of the signals. -/
theorem exists_signal {found : AbuseSignalCreate}
    (is : evaluateKeySuspicion keyPrefix tenantId metrics = some found) :
    ∃ signal ∈ metrics.levels, findingOf keyPrefix tenantId metrics signal = some found := by
  rw [evaluateKeySuspicion_eq] at is
  exact List.exists_of_findSome?_eq_some is

/-- The rank of the strongest of the signals. -/
def KeyMetrics.maxRank (metrics : KeyMetrics) : Int :=
  max metrics.authLevel.rank (max metrics.ipLevel.rank metrics.errorLevel.rank)

theorem rank_le_maxRank {signal : DetectionRule × Level} (mem : signal ∈ metrics.levels) :
    signal.2.rank ≤ metrics.maxRank := by
  simp only [KeyMetrics.levels, List.mem_cons, List.not_mem_nil, or_false] at mem
  unfold KeyMetrics.maxRank
  rcases mem with rfl | rfl | rfl
  · exact le_max_left _ _
  · exact (le_max_left _ _).trans (le_max_right _ _)
  · exact (le_max_right _ _).trans (le_max_right _ _)

theorem exists_maxRank : ∃ signal ∈ metrics.levels, signal.2.rank = metrics.maxRank := by
  unfold KeyMetrics.maxRank KeyMetrics.levels
  rcases max_choice metrics.authLevel.rank (max metrics.ipLevel.rank metrics.errorLevel.rank) with
    auth | rest
  · exact ⟨_, List.mem_cons_self, auth.symm⟩
  rcases max_choice metrics.ipLevel.rank metrics.errorLevel.rank with ip | error
  · exact ⟨(.multiIpKey, metrics.ipLevel), by simp, (rest.trans ip).symm⟩
  · exact ⟨(.errorRateSpike, metrics.errorLevel), by simp, (rest.trans error).symm⟩

/-- **The rank of the answer**: the strongest signal's, unless that one is overtaken by a weaker one. -/
theorem rankOf_evaluateKeySuspicion :
    rankOf (evaluateKeySuspicion keyPrefix tenantId metrics) =
      if metrics.Overtaken then Severity.medium.rank else metrics.maxRank := by
  rw [evaluateKeySuspicion_eq]
  by_cases overtaken : metrics.Overtaken
  · rw [if_pos overtaken]
    unfold KeyMetrics.levels
    rcases overtaken with ⟨auth, -⟩ | ⟨auth, ip, -⟩
    · rw [auth]
      rfl
    · rw [auth, ip]
      rfl
  · rw [if_neg overtaken]
    unfold KeyMetrics.Overtaken at overtaken
    unfold KeyMetrics.levels KeyMetrics.maxRank
    generalize metrics.authLevel = auth, metrics.ipLevel = ip, metrics.errorLevel = error at overtaken ⊢
    cases auth <;> cases ip <;> cases error <;> first | rfl | exact absurd (by decide) overtaken

theorem overtaken_maxRank (overtaken : metrics.Overtaken) : metrics.maxRank = Severity.high.rank := by
  unfold KeyMetrics.Overtaken at overtaken
  unfold KeyMetrics.maxRank
  rcases overtaken with ⟨auth, ip | error⟩ | ⟨auth, ip, error⟩
  · rw [auth, ip]
    cases metrics.errorLevel <;> rfl
  · rw [auth, error]
    cases metrics.ipLevel <;> rfl
  · rw [auth, ip, error]
    rfl

theorem reachesHigh_iff : metrics.ReachesHigh ↔ metrics.maxRank = Severity.high.rank := by
  unfold KeyMetrics.ReachesHigh KeyMetrics.maxRank
  cases metrics.authLevel <;> cases metrics.ipLevel <;> cases metrics.errorLevel <;> decide

theorem maxRank_le_high : metrics.maxRank ≤ Severity.high.rank := by
  have le : ∀ level : Level, level.rank ≤ Severity.high.rank := fun level => by cases level <;> decide
  exact max_le (le _) (max_le (le _) (le _))

/-- The worst finding wins exactly when the strongest signal is not overtaken. -/
theorem worstFindingWins_iff :
    WorstFindingWins keyPrefix tenantId metrics ↔ ¬ metrics.Overtaken := by
  have rank : rankOf (evaluateKeySuspicion keyPrefix tenantId metrics) =
      if metrics.Overtaken then Severity.medium.rank else metrics.maxRank :=
    rankOf_evaluateKeySuspicion
  constructor
  · intro wins overtaken
    rw [if_pos overtaken] at rank
    cases is : evaluateKeySuspicion keyPrefix tenantId metrics with
    | none => rw [is] at rank; cases rank
    | some found =>
      obtain ⟨strongest, mem, top⟩ : ∃ signal ∈ metrics.levels, signal.2.rank = metrics.maxRank :=
        exists_maxRank
      obtain ⟨_, -, -, worst⟩ := wins.worst found is
      have below := worst strongest mem
      rw [is] at rank
      rw [top, overtaken_maxRank overtaken, show found.severity.rank = Severity.medium.rank from rank]
        at below
      exact absurd below (by decide)
  · intro inFront
    rw [if_neg inFront] at rank
    refine ⟨evaluateKeySuspicion_eq_none_iff, fun found is => ?_⟩
    obtain ⟨signal, mem, raised⟩ := exists_signal is
    rw [is] at rank
    exact ⟨signal, mem, raised, fun other mem' => (rank_le_maxRank mem').trans_eq rank.symm⟩

/-! ### Raising a metric -/

/-- One metric is raised, and the others stay as they are. -/
inductive Raises (metrics : KeyMetrics) : KeyMetrics → Prop where
  | authFailureCount {count : Int} (le : metrics.authFailureCount ≤ count) :
      Raises metrics { metrics with authFailureCount := count }
  | distinctIpCount {count : Int} (le : metrics.distinctIpCount ≤ count) :
      Raises metrics { metrics with distinctIpCount := count }
  | errorRate {rate : Rat} (le : metrics.errorRate ≤ rate) :
      Raises metrics { metrics with errorRate := rate }
  | totalRequests {count : Int} (le : metrics.totalRequests ≤ count) :
      Raises metrics { metrics with totalRequests := count }

theorem Raises.errorLevel_le (raises : Raises metrics metrics') :
    metrics.errorLevel.rank ≤ metrics'.errorLevel.rank := by
  unfold KeyMetrics.errorLevel
  cases raises with
  | authFailureCount | distinctIpCount => exact le_rfl
  | errorRate le =>
    simp only
    split
    · exact levelOf_mono le
    · exact le_rfl
  | totalRequests le =>
    simp only
    by_cases requests : 0 < metrics.totalRequests
    · rw [if_pos requests, if_pos (requests.trans_le le)]
    · rw [if_neg requests]
      split
      · generalize levelOf abuseKeyErrorRateThresholdMedium abuseKeyErrorRateThresholdHigh
          metrics.errorRate = level
        cases level <;> decide
      · exact le_rfl

theorem Raises.maxRank_le (raises : Raises metrics metrics') : metrics.maxRank ≤ metrics'.maxRank := by
  have auth : metrics.authLevel.rank ≤ metrics'.authLevel.rank := by
    cases raises with
    | authFailureCount le => exact levelOf_mono le
    | distinctIpCount | errorRate | totalRequests => exact le_rfl
  have ip : metrics.ipLevel.rank ≤ metrics'.ipLevel.rank := by
    cases raises with
    | distinctIpCount le => exact levelOf_mono le
    | authFailureCount | errorRate | totalRequests => exact le_rfl
  exact max_le_max auth (max_le_max ip raises.errorLevel_le)

/-- **Raising a metric** lowers the severity exactly when a high signal is overtaken afterwards that
was not before. -/
theorem Raises.rankOf_le_iff (raises : Raises metrics metrics') :
    rankOf (evaluateKeySuspicion keyPrefix tenantId metrics) ≤
        rankOf (evaluateKeySuspicion keyPrefix tenantId metrics') ↔
      ¬ (metrics.ReachesHigh ∧ ¬ metrics.Overtaken ∧ metrics'.Overtaken) := by
  rw [rankOf_evaluateKeySuspicion, rankOf_evaluateKeySuspicion]
  by_cases after : metrics'.Overtaken
  · rw [if_pos after]
    by_cases before : metrics.Overtaken
    · simp [before]
    · rw [if_neg before, reachesHigh_iff]
      have top : metrics.maxRank ≤ Severity.high.rank := maxRank_le_high
      simp only [Severity.rank] at top ⊢
      simp only [before, after, not_false_eq_true, and_true]
      omega
  · rw [if_neg after]
    refine iff_of_true ?_ fun overtakes => after overtakes.2.2
    split
    · rename_i before
      have same := raises.maxRank_le
      rw [overtaken_maxRank before] at same
      exact le_trans (by decide) same
    · exact raises.maxRank_le

end Worst

/-! ### The noisy source is monotone -/

theorem noiseLevel_mono {ratio ratio' : Rat} (le : ratio ≤ ratio') {severity : Severity}
    {action : Action} (found : noiseLevel ratio = some (severity, action)) :
    ∃ severity' action', noiseLevel ratio' = some (severity', action') ∧
      severity.rank ≤ severity'.rank := by
  unfold noiseLevel at found ⊢
  by_cases critical : ratio ≥ abuseNoisySourceMultiplierCritical
  · rw [if_pos critical] at found
    cases found
    exact ⟨_, _, if_pos (critical.le.trans le), le_rfl⟩
  rw [if_neg critical] at found
  by_cases high : ratio ≥ abuseNoisySourceMultiplierHigh
  · rw [if_pos high] at found
    cases found
    rw [if_pos (high.le.trans le)]
    split <;> exact ⟨_, _, rfl, by decide⟩
  rw [if_neg high] at found
  by_cases medium : ratio ≥ abuseNoisySourceMultiplierMedium
  · rw [if_pos medium] at found
    cases found
    rw [if_pos (medium.le.trans le)]
    split
    · exact ⟨_, _, rfl, by decide⟩
    · split <;> exact ⟨_, _, rfl, by decide⟩
  · rw [if_neg medium] at found
    cases found

theorem severity_rank_nonneg (severity : Severity) : -1 ≤ severity.rank := by
  cases severity <;> decide

/-- More requests in one window against one quota are no less severe. -/
theorem rankOf_evaluateSourceNoise_mono {sourceName : ActorId} {requestCount requestCount' : Int}
    {windowSeconds : Int} {quotaPerMinute : Option Int} {tenantId : Option TenantId}
    {ipAddress : Option IpText} (le : requestCount ≤ requestCount') :
    rankOf (evaluateSourceNoise sourceName requestCount windowSeconds quotaPerMinute tenantId ipAddress) ≤
      rankOf (evaluateSourceNoise sourceName requestCount' windowSeconds quotaPerMinute tenantId
        ipAddress) := by
  unfold evaluateSourceNoise
  simp only
  split
  · exact le_rfl
  · rename_i positive
    have expected := not_le.mp positive
    have ratio : (requestCount : Rat) / (quotaPerMinute.getD abuseNoisySourceDefaultQuota *
        (windowSeconds / 60)) ≤ requestCount' / (quotaPerMinute.getD abuseNoisySourceDefaultQuota *
        (windowSeconds / 60)) := by
      gcongr
    cases found : noiseLevel ((requestCount : Rat) /
        (quotaPerMinute.getD abuseNoisySourceDefaultQuota * (windowSeconds / 60))) with
    | none =>
      cases noiseLevel ((requestCount' : Rat) / (quotaPerMinute.getD abuseNoisySourceDefaultQuota *
          (windowSeconds / 60))) with
      | none => exact le_rfl
      | some => exact severity_rank_nonneg _
    | some level =>
      obtain ⟨severity', action', found', rank⟩ := noiseLevel_mono ratio found
      rw [found']
      exact rank

/-- **The worst finding wins** exactly when the strongest signal is not overtaken by a weaker one in
front of it, and raising a metric lowers the severity exactly when it lets a high signal be overtaken.
Raising the requests of a source never does. -/
theorem worst_finding_wins_iff (keyPrefix sourceName : ActorId) (tenantId : Option TenantId)
    (metrics : KeyMetrics) :
    (WorstFindingWins keyPrefix tenantId metrics ↔ ¬ metrics.Overtaken) ∧
      (∀ metrics', Raises metrics metrics' →
        (rankOf (evaluateKeySuspicion keyPrefix tenantId metrics) ≤
            rankOf (evaluateKeySuspicion keyPrefix tenantId metrics') ↔
          ¬ (metrics.ReachesHigh ∧ ¬ metrics.Overtaken ∧ metrics'.Overtaken))) ∧
      ∀ (requestCount requestCount' windowSeconds : Int) (quotaPerMinute : Option Int)
        (ipAddress : Option IpText), requestCount ≤ requestCount' →
        rankOf (evaluateSourceNoise sourceName requestCount windowSeconds quotaPerMinute tenantId
            ipAddress) ≤
          rankOf (evaluateSourceNoise sourceName requestCount' windowSeconds quotaPerMinute tenantId
            ipAddress) :=
  ⟨worstFindingWins_iff, fun _ raises => raises.rankOf_le_iff,
    fun _ _ _ _ _ le => rankOf_evaluateSourceNoise_mono le⟩

/-- Five failures hide ten addresses: the answer is the medium finding. -/
theorem failures_hide_addresses :
    ¬ WorstFindingWins ⟨"key-001", by decide⟩ none
      { windowSeconds := 3600, authFailureCount := 5, distinctIpCount := 10, totalRequests := 100 } := by
  rw [worstFindingWins_iff]
  decide

end ApiObservatory.AbuseDetection
