import ApiObservatory.Transformations.Pipeline

/-
Deduplication by the pipeline of a source.

The factory puts the enricher outside the deduplicator, so what is hashed contains the time of
ingestion, and what is rejected has been changed before. `deduplicates_iff` says that a
pipeline with a deduplicator works exactly when the source has no enrichment rules.
-/

namespace ApiObservatory.Transformations

/-- One observation that has gone through a pipeline. -/
structure Outcome where
  clock : Clock
  raw : Dict
  answer : Answer
  /-- The dict of the caller afterwards. -/
  observation : Dict

section Outcomes

variable (python : Python)

/-- Raw observations, one after another, through one pipeline. -/
def outcomes : ObservationTransformer → List (Clock × Dict) → List Outcome
  | _, [] => []
  | transformer, (clock, raw) :: rest =>
    let result := transform python clock transformer raw
    ⟨clock, raw, result.answer, result.observation⟩ :: outcomes result.transformer rest

/-- Equal as JSON with sorted keys to an earlier raw observation. -/
def Repeated (before : List Outcome) (raw : Dict) : Prop :=
  ∃ earlier ∈ before, dumps python earlier.raw = dumps python raw

structure Correct (strategy : Strategy) (before : List Outcome) (outcome : Outcome) : Prop where
  repeated : Repeated python before outcome.raw → outcome.answer = .rejected
  fresh : ¬ Repeated python before outcome.raw → outcome.answer = .rejected →
    ∃ error, strategy.validate python outcome.clock.validated outcome.raw = .ok (false, error)
  unchanged : outcome.answer = .rejected → outcome.observation = outcome.raw

/-- Every outcome is correct, given those before it. -/
def Deduplicates (strategy : Strategy) (all : List Outcome) : Prop :=
  ∀ before outcome after, all = before ++ outcome :: after → Correct python strategy before outcome

/-- No two of the texts that are hashed have one digest without being equal. -/
def CollisionFree (calls : List (Clock × Dict)) : Prop :=
  ∀ a ∈ calls, ∀ b ∈ calls, python.sha256 (dumps python a.2) = python.sha256 (dumps python b.2) →
    dumps python a.2 = dumps python b.2

end Outcomes

variable {python : Python} {clock : Clock} {strategy : Strategy}

/-! ### Without enrichment -/

variable (python clock strategy) in
/-- What the deduplicator in front of a validator does. -/
theorem transform_deduplicator (seen : List String) (raw : Dict) :
    let hash := python.sha256 (dumps python raw)
    let result := transform python clock (.deduplicator (.validator .null strategy) seen) raw
    result.observation = raw ∧
      result.transformer = .deduplicator (.validator .null strategy)
        (if hash ∈ seen then seen else hash :: seen) ∧
      (hash ∈ seen → result.answer = .rejected) ∧
      (hash ∉ seen → result.answer = .rejected →
        ∃ error, strategy.validate python clock.validated raw = .ok (false, error)) := by
  intro hash result
  by_cases mem : hash ∈ seen
  · have same : result = ⟨.rejected, raw, .deduplicator (.validator .null strategy) seen⟩ := by
      simp only [result, transform]
      rw [if_pos mem]
    rw [same, if_pos mem]
    exact ⟨rfl, rfl, fun _ => rfl, fun new => absurd mem new⟩
  · rw [if_neg mem]
    simp only [result, transform]
    rw [if_neg mem]
    cases verdict : strategy.validate python clock.validated raw with
    | error e => exact ⟨rfl, rfl, fun old => absurd old mem, fun _ raised => by cases raised⟩
    | ok checked =>
      obtain ⟨isValid, error⟩ := checked
      cases isValid with
      | false => exact ⟨rfl, rfl, fun old => absurd old mem, fun _ _ => ⟨error, rfl⟩⟩
      | true => exact ⟨rfl, rfl, fun old => absurd old mem, fun _ accepted => by cases accepted⟩

/-- The deduplicator has seen the digests of `before`, and no others. -/
def Tracks (python : Python) (before : List Outcome) (seen : List String) : Prop :=
  ∀ hash, hash ∈ seen ↔ ∃ earlier ∈ before, python.sha256 (dumps python earlier.raw) = hash

theorem Tracks.snoc {before : List Outcome} {seen : List String}
    (tracks : Tracks python before seen) (outcome : Outcome) :
    Tracks python (before ++ [outcome])
      (if python.sha256 (dumps python outcome.raw) ∈ seen then seen
        else python.sha256 (dumps python outcome.raw) :: seen) := by
  intro hash
  have extended : (∃ earlier ∈ before ++ [outcome],
      python.sha256 (dumps python earlier.raw) = hash) ↔
        hash ∈ seen ∨ hash = python.sha256 (dumps python outcome.raw) := by
    rw [tracks hash]
    simp only [List.mem_append, List.mem_singleton, or_and_right, exists_or, exists_eq_left]
    exact or_congr_right eq_comm
  rw [extended]
  split
  · rename_i mem
    exact ⟨.inl, fun either => either.elim id fun same => same ▸ mem⟩
  · rw [List.mem_cons, or_comm]

/-- By induction on the calls: what comes out is correct, given what came before. -/
theorem correct_of_tracks (calls : List (Clock × Dict)) {before : List Outcome}
    {seen : List String} (tracks : Tracks python before seen)
    (collisionFree : ∀ earlier ∈ before, ∀ call ∈ calls,
      python.sha256 (dumps python earlier.raw) = python.sha256 (dumps python call.2) →
        dumps python earlier.raw = dumps python call.2)
    (apart : CollisionFree python calls) {between after : List Outcome} {outcome : Outcome}
    (split : outcomes python (.deduplicator (.validator .null strategy) seen) calls =
      between ++ outcome :: after) :
    Correct python strategy (before ++ between) outcome := by
  induction calls generalizing before seen between with
  | nil => simp [outcomes] at split
  | cons call rest ih =>
    obtain ⟨clock, raw⟩ := call
    obtain ⟨unchanged, later, old, new⟩ :=
      transform_deduplicator python clock strategy seen raw
    rw [outcomes] at split
    cases between with
    | nil =>
      obtain ⟨rfl, -⟩ := List.cons.inj split
      rw [List.append_nil]
      -- seen before means repeated, as the digests do not collide
      have seenIff : python.sha256 (dumps python raw) ∈ seen ↔ Repeated python before raw := by
        rw [tracks]
        constructor
        · rintro ⟨earlier, mem, same⟩
          exact ⟨earlier, mem, collisionFree earlier mem (clock, raw) (.head _) same⟩
        · rintro ⟨earlier, mem, same⟩
          exact ⟨earlier, mem, congrArg python.sha256 same⟩
      exact ⟨fun repeated => old (seenIff.mpr repeated),
        fun fresh => new fun mem => fresh (seenIff.mp mem), fun _ => unchanged⟩
    | cons first between =>
      rw [List.cons_append] at split
      obtain ⟨same, others⟩ := List.cons.inj split
      have rawSame : raw = first.raw := congrArg Outcome.raw same
      rw [later, rawSame] at others
      have result := ih (tracks.snoc first) (fun earlier mem call called => ?_)
        (fun a memA b memB => apart a (.tail _ memA) b (.tail _ memB)) others
      · rwa [List.append_assoc] at result
      · rcases List.mem_append.mp mem with old | here
        · exact collisionFree earlier old call (.tail _ called)
        · rw [List.mem_singleton.mp here, ← rawSame]
          exact apart (clock, raw) (.head _) call (.tail _ called)

/-! ### With enrichment -/

/-- The enricher changes an empty observation. -/
theorem enrich_nil_ne_nil : enrich python clock [] ≠ [] := by
  simp [enrich, setItem]

variable (python clock strategy) in
/-- Below the enricher no decorator of the factory changes the observation. -/
theorem transform_enricher (seen : List String) (raw : Dict) :
    let result := transform python clock
      (.enricher (.deduplicator (.validator .null strategy) seen)) raw
    result.observation = enrich python clock raw ∧
      ∃ seen', result.transformer = .enricher (.deduplicator (.validator .null strategy) seen') := by
  obtain ⟨unchanged, later, -⟩ := transform_deduplicator python clock strategy seen
    (enrich python clock raw)
  exact ⟨unchanged, _, congrArg ObservationTransformer.enricher later⟩

/-- Two empty observations: the second is accepted, or it has been changed. -/
theorem not_deduplicates_enricher (first second : Clock) :
    ¬ Deduplicates python strategy (outcomes python
      (.enricher (.deduplicator (.validator .null strategy) [])) [(first, []), (second, [])]) := by
  intro deduplicates
  have correct := deduplicates [_] _ [] rfl
  have rejected := correct.repeated ⟨_, .head _, rfl⟩
  have unchanged := correct.unchanged rejected
  obtain ⟨-, seen, later⟩ := transform_enricher python first strategy [] []
  have changed : (transform python second (transform python first
      (.enricher (.deduplicator (.validator .null strategy) [])) []).transformer []).observation =
        enrich python second [] := by
    rw [later]
    exact (transform_enricher python second strategy seen []).1
  exact enrich_nil_ne_nil (changed.symm.trans unchanged)

/-- The pipeline of a configuration with a known strategy and a deduplicator. -/
theorem create_eq {config : Option SyncConfig}
    (known : buildStrategy ((config.getD {}).strategyType.getD "csv") = .ok strategy)
    (dedup : (config.getD {}).enableDedup.getD true = true) :
    create config = .ok (if (config.getD {}).enrichmentRules.getD [] ≠ [] then
      .enricher (.deduplicator (.validator .null strategy) [])
      else .deduplicator (.validator .null strategy) []) := by
  simp only [create, known, dedup, if_true]
  rfl

/-- **Deduplication by configuration.** The pipelines of a configuration with a deduplicator
are correct on all sequences exactly when it has no enrichment rules. -/
theorem deduplicates_iff (python : Python) (config : Option SyncConfig) {strategy : Strategy}
    (known : buildStrategy ((config.getD {}).strategyType.getD "csv") = .ok strategy)
    (dedup : (config.getD {}).enableDedup.getD true = true) :
    (∀ calls pipeline, create config = .ok pipeline → CollisionFree python calls →
        Deduplicates python strategy (outcomes python pipeline calls)) ↔
      (config.getD {}).enrichmentRules.getD [] = [] := by
  have built := create_eq known dedup
  constructor
  · intro correct
    by_contra rules
    rw [if_pos rules] at built
    refine not_deduplicates_enricher ⟨0, 0⟩ ⟨0, 0⟩ (correct _ _ built fun a memA b memB _ => ?_)
    have empty : ∀ call ∈ [((⟨0, 0⟩ : Clock), ([] : Dict)), (⟨0, 0⟩, [])], call.2 = [] := by simp
    rw [empty a memA, empty b memB]
  · intro noRules calls pipeline created apart before outcome after split
    rw [if_neg (not_not.mpr noRules)] at built
    obtain rfl := Except.ok.inj (built.symm.trans created)
    have nothing : Tracks python [] [] := by simp [Tracks]
    exact List.nil_append before ▸ correct_of_tracks calls nothing (by simp) apart split

/-! ### One message twice -/

/-- The message with the id `1` as JSON, with the fields that have been added in front. -/
def messageText (added : String) : String := "\x7b" ++ added ++ "\"id\": \"1\"\x7d"

def addedAt (stamp : String) : String := "\"_ingested_at\": \"" ++ stamp ++ "\", "

def addedHash (hash : String) : String := "\"_source_hash\": \"" ++ hash ++ "\", "

/-- Python on the message with the id `1`, at two times that are one second apart. -/
def pythonOfMessages : Python where
  floatOfString _ := none
  floatRepr _ := ""
  fromisoformat _ := .error ""
  strDatetime _ := ""
  isoformat now :=
    if now = 1705312800000000 then "2024-01-15T10:00:00+00:00" else "2024-01-15T10:00:01+00:00"
  sha256 text :=
    let first := addedAt "2024-01-15T10:00:00+00:00"
    let firstHash := "2fbf18da563956b3574ca638b54463c3c557013556e41030c1b4d4a70cd3c236"
    let second := addedAt "2024-01-15T10:00:01+00:00"
    let secondHash := "8ec892f179f3aa82a3e919741255fd3bcf4db46bdb22f44d6bb924ee17fc418f"
    if text = messageText first then firstHash
    else if text = messageText second then secondHash
    else if text = messageText (first ++ addedHash firstHash) then
      "4f825ee087db5f1cb924a0126fdc59e564b01083cb5d789b05c7196436498843"
    else if text = messageText (second ++ addedHash secondHash) then
      "24d7643e753acd6ac1c90855bed112d8723181d9fb9e9f8636b4d804f603c429"
    else "51fedabde565f4715b5e62d574d2a73090654b62259f8d9211cfc5ee99e5612d"

def message (now : Int) : Clock × Dict := (⟨now, now⟩, [("id", .str "1")])

def accepted : Answer → Bool
  | .accepted _ => true
  | _ => false

theorem accepted_twice : (outcomes pythonOfMessages
    (.enricher (.deduplicator (.validator .null .api) []))
    [message 1705312800000000, message 1705312801000000]).map (fun o => accepted o.answer) =
      [true, true] := by
  decide +kernel

/-- With an enrichment rule the same message is accepted a second time. -/
theorem repeated_accepted : ∃ pipeline,
    create (some { strategyType := some "api", enrichmentRules := some ["_ingested_at"] }) =
        .ok pipeline ∧
      (outcomes pythonOfMessages pipeline
        [message 1705312800000000, message 1705312801000000]).map (fun o => accepted o.answer) =
          [true, true] ∧
      ¬ Deduplicates pythonOfMessages .api (outcomes pythonOfMessages pipeline
        [message 1705312800000000, message 1705312801000000]) := by
  refine ⟨.enricher (.deduplicator (.validator .null .api) []), rfl, accepted_twice, ?_⟩
  intro deduplicates
  have correct := deduplicates [_] _ [] rfl
  have rejected := correct.repeated ⟨_, .head _, rfl⟩
  have second := (List.cons.inj (List.cons.inj accepted_twice).2).1
  exact Bool.noConfusion ((congrArg accepted rejected).symm.trans second)

/-- Without one the second is rejected. -/
theorem deduplicates_messages :
    (∀ calls pipeline, create (some { strategyType := some "api" }) = .ok pipeline →
        CollisionFree pythonOfMessages calls →
        Deduplicates pythonOfMessages .api (outcomes pythonOfMessages pipeline calls)) ↔
      (({ strategyType := some "api" } : SyncConfig).enrichmentRules.getD []) = [] :=
  deduplicates_iff pythonOfMessages (some { strategyType := some "api" }) rfl rfl

end ApiObservatory.Transformations
