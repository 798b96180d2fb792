import ApiObservatory.Models.Incidents
import ApiObservatory.Time
import Mathlib.Data.List.Basic
import Std.Data.String.ToNat

/-
State transitions of dependency incidents
(`services/ingestor/repositories/incidents.py`).

The functions compute on the loaded row and return the changed object. When a
row is read, and when the change reaches the table, is decided by the module
that runs the routes and the probes under READ COMMITTED.
-/

namespace ApiObservatory

variable {Details : Type}

structure IncidentTransition (Details : Type) where
  incident : DependencyIncident Details
  transition : String
  shouldNotify : Bool

/-- `_fingerprint`. -/
def fingerprint (source : SourceProfile) (triggerType : TriggerType) : String :=
  let tenantScope := match source.tenantId with
    | some tenantId => toString tenantId
    | none => "global"
  s!"{tenantScope}:{source.id}:{triggerType.text}"

/-- `_guidance`. -/
def guidance : TriggerType → String
  | .availability =>
      "Confirm the failure from an independent request, inspect status/error and " ++
        "dependency traces, pause risky retries, then verify consecutive recovery probes."
  | .latency =>
      "Compare dependency latency with application and database spans, check saturation " ++
        "and timeout budgets, then verify recovery below the configured threshold."
  | .drift =>
      "Review removed and type-changed fields, compare the provider contract, identify affected " ++
        "consumers, and use a compatibility or rollback plan before resolving."

/-- `_notification_due`, at the clock time `now`. -/
def notificationDue (incident : DependencyIncident Details) (cooldownSeconds now : Int) : Bool :=
  match incident.lastNotificationAt with
  | none => true
  | some last => decide (now - last ≥ seconds cooldownSeconds)

/-- The new row of `open_or_update_incident`. -/
def openIncident (source : SourceProfile) (triggerType : TriggerType) (severity summary : String)
    (details : Details) (now : Int) : DependencyIncident Details where
  sourceId := source.id
  tenantId := source.tenantId
  triggerType := triggerType
  fingerprint := fingerprint source triggerType
  activeKey := some (fingerprint source triggerType)
  status := .opened
  severity := severity
  summary := summary
  guidance := guidance triggerType
  triggerDetails := details
  occurrenceCount := 1
  firstSeenAt := now
  lastSeenAt := now

/-- `open_or_update_incident` after its `SELECT`, which found `incident`. The
cooldown is checked at the later clock time `checkedAt`. -/
def openOrUpdateIncident (incident : Option (DependencyIncident Details)) (source : SourceProfile)
    (triggerType : TriggerType) (severity summary : String) (details : Details)
    (now checkedAt : Int) : IncidentTransition Details :=
  match incident with
  | none => ⟨openIncident source triggerType severity summary details now, "opened", true⟩
  | some incident =>
      let incident := { incident with
        lastSeenAt := now
        occurrenceCount := incident.occurrenceCount + 1
        severity := severity
        summary := summary
        triggerDetails := details }
      ⟨incident, "deduplicated", notificationDue incident source.incidentCooldownSeconds checkedAt⟩

/-- `resolve_active_incident` after its `SELECT`, which found `incident`. -/
def resolveActiveIncident (incident : Option (DependencyIncident Details)) (actor : String)
    (now : Int) : Option (IncidentTransition Details) :=
  match incident with
  | none => none
  | some incident =>
      some ⟨{ incident with
        status := .resolved
        activeKey := none
        resolvedAt := some now
        resolvedBy := some actor
        lastSeenAt := now }, "resolved", false⟩

/-- `acknowledge_incident`; an error is the text of its `ValueError`. -/
def acknowledgeIncident (incident : DependencyIncident Details) (actor : String) (now : Int) :
    Except String (DependencyIncident Details) :=
  if incident.status ≠ .opened then .error "Only an open incident can be acknowledged."
  else .ok { incident with
    status := .acknowledged
    acknowledgedAt := some now
    acknowledgedBy := some actor }

/-- `resolve_incident`; an error is the text of its `ValueError`. -/
def resolveIncident (incident : DependencyIncident Details) (actor : String) (now : Int) :
    Except String (DependencyIncident Details) :=
  if incident.status.active then
    .ok { incident with
      status := .resolved
      activeKey := none
      resolvedAt := some now
      resolvedBy := some actor }
  else .error "Only an active incident can be resolved."

/-- The row left by the `UPDATE` of a loaded incident: the columns in which
`changed` differs from the loaded object. -/
def DependencyIncident.update [DecidableEq Details]
    (loaded changed stored : DependencyIncident Details) : DependencyIncident Details :=
  { stored with
    activeKey := columnUpdate loaded.activeKey changed.activeKey stored.activeKey
    status := columnUpdate loaded.status changed.status stored.status
    severity := columnUpdate loaded.severity changed.severity stored.severity
    summary := columnUpdate loaded.summary changed.summary stored.summary
    triggerDetails :=
      columnUpdate loaded.triggerDetails changed.triggerDetails stored.triggerDetails
    occurrenceCount :=
      columnUpdate loaded.occurrenceCount changed.occurrenceCount stored.occurrenceCount
    lastSeenAt := columnUpdate loaded.lastSeenAt changed.lastSeenAt stored.lastSeenAt
    acknowledgedAt :=
      columnUpdate loaded.acknowledgedAt changed.acknowledgedAt stored.acknowledgedAt
    acknowledgedBy :=
      columnUpdate loaded.acknowledgedBy changed.acknowledgedBy stored.acknowledgedBy
    resolvedAt := columnUpdate loaded.resolvedAt changed.resolvedAt stored.resolvedAt
    resolvedBy := columnUpdate loaded.resolvedBy changed.resolvedBy stored.resolvedBy }

/-! ### Fingerprints -/

theorem colon_not_mem_repr (n : Nat) : ':' ∉ (Nat.repr n).toList := by
  intro mem
  rw [Nat.repr, String.toList_ofList] at mem
  have digit := Nat.isDigit_of_mem_toDigits (by decide) (by decide) mem
  exact absurd digit (by decide)

/-- A text up to its first colon. -/
theorem upToColon_inj {a b x y : List Char} (plain : ':' ∉ a) (plain' : ':' ∉ b)
    (same : a ++ ':' :: x = b ++ ':' :: y) : a = b ∧ x = y := by
  induction a generalizing b with
  | nil =>
    cases b with
    | nil => exact ⟨rfl, (List.cons.inj same).2⟩
    | cons c b =>
      have here := (List.cons.inj same).1
      exact absurd (here ▸ List.mem_cons_self) plain'
  | cons c a ih =>
    cases b with
    | nil =>
      have here := (List.cons.inj same).1
      exact absurd (here ▸ List.mem_cons_self) plain
    | cons d b =>
      obtain ⟨rfl, rest⟩ := List.cons.inj same
      obtain ⟨rfl, tails⟩ := ih (fun mem => plain (List.mem_cons_of_mem _ mem))
        (fun mem => plain' (List.mem_cons_of_mem _ mem)) rest
      exact ⟨rfl, tails⟩

/-- The three parts of a fingerprint. -/
theorem fingerprint_parts (p : SourceProfile) (t : TriggerType) : ∃ scope : List Char,
    ':' ∉ scope ∧
      (fingerprint p t).toList = scope ++ ':' :: ((Nat.repr p.id).toList ++ ':' :: t.text.toList) := by
  have text : ∀ scope : String, (s!"{scope}:{p.id}:{t.text}").toList =
      scope.toList ++ ':' :: ((Nat.repr p.id).toList ++ ':' :: t.text.toList) := by
    intro scope
    have joined : s!"{scope}:{p.id}:{t.text}" =
        scope ++ (":" ++ (Nat.repr p.id ++ (":" ++ t.text))) := by
      simp only [String.append_assoc]
      rfl
    rw [joined]
    simp only [String.toList_append]
    rfl
  unfold fingerprint
  cases p.tenantId with
  | none => exact ⟨"global".toList, by decide, text "global"⟩
  | some n => exact ⟨(Nat.repr n).toList, colon_not_mem_repr n, text (Nat.repr n)⟩

/-- **A fingerprint** determines its source. -/
theorem fingerprint_id {a b : SourceProfile} {t t' : TriggerType}
    (same : fingerprint a t = fingerprint b t') : a.id = b.id := by
  obtain ⟨scope, plain, text⟩ := fingerprint_parts a t
  obtain ⟨scope', plain', text'⟩ := fingerprint_parts b t'
  rw [same, text'] at text
  have rest := (upToColon_inj plain' plain text).2
  have ids := (upToColon_inj (colon_not_mem_repr _) (colon_not_mem_repr _) rest).1
  exact Nat.repr_injective (String.toList_injective ids.symm)
/-! ### Status and active key -/

/-- An incident is active under its fingerprint, or resolved without a key. -/
def DependencyIncident.Coherent (incident : DependencyIncident Details) : Prop :=
  (incident.status ≠ .resolved ∧ incident.activeKey = some incident.fingerprint) ∨
    (incident.status = .resolved ∧ incident.activeKey = none)

/-- What a change of a loaded incident does to status and key. -/
inductive StatusChange (loaded changed : DependencyIncident Details) : Prop where
  | keeps : changed.status = loaded.status → changed.activeKey = loaded.activeKey →
      StatusChange loaded changed
  | resolves : loaded.status ≠ .resolved → loaded.activeKey ≠ none →
      changed.status = .resolved → changed.activeKey = none → StatusChange loaded changed
  | acknowledges : loaded.status = .opened → changed.status = .acknowledged →
      changed.activeKey = loaded.activeKey → StatusChange loaded changed

theorem coherent_openIncident (source : SourceProfile) (triggerType : TriggerType)
    (severity summary : String) (details : Details) (now : Int) :
    (openIncident source triggerType severity summary details now).Coherent :=
  Or.inl ⟨by simp [openIncident], rfl⟩

namespace DependencyIncident

theorem Coherent.active_of_key {incident : DependencyIncident Details} (h : incident.Coherent)
    (keyed : incident.activeKey ≠ none) : incident.status ≠ .resolved := by
  rcases h with ⟨active, -⟩ | ⟨-, none⟩
  · exact active
  · exact absurd none keyed

theorem Coherent.key_of_active {incident : DependencyIncident Details} (h : incident.Coherent)
    (active : incident.status ≠ .resolved) : incident.activeKey = some incident.fingerprint := by
  rcases h with ⟨-, key⟩ | ⟨resolved, -⟩
  · exact key
  · exact absurd resolved active

end DependencyIncident

theorem statusChange_deduplicate {incident : DependencyIncident Details} (source : SourceProfile)
    (triggerType : TriggerType) (severity summary : String) (details : Details)
    (now checkedAt : Int) :
    StatusChange incident
      (openOrUpdateIncident (some incident) source triggerType severity summary details now
        checkedAt).incident :=
  .keeps rfl rfl

theorem statusChange_resolveActive {incident : DependencyIncident Details} {actor : String}
    {now : Int} {done : IncidentTransition Details} (coherent : incident.Coherent)
    (keyed : incident.activeKey ≠ none)
    (h : resolveActiveIncident (some incident) actor now = some done) :
    StatusChange incident done.incident := by
  cases h
  exact .resolves (coherent.active_of_key keyed) keyed rfl rfl

theorem statusChange_acknowledge {incident changed : DependencyIncident Details} {actor : String}
    {now : Int} (h : acknowledgeIncident incident actor now = .ok changed) :
    incident.status = .opened ∧ changed.status = .acknowledged ∧
      changed.activeKey = incident.activeKey := by
  unfold acknowledgeIncident at h
  split at h
  · cases h
  · rename_i opened
    cases h
    exact ⟨Decidable.not_not.mp opened, rfl, rfl⟩

theorem statusChange_resolve {incident changed : DependencyIncident Details} {actor : String}
    {now : Int} (coherent : incident.Coherent)
    (h : resolveIncident incident actor now = .ok changed) :
    StatusChange incident changed ∧ changed.status = .resolved := by
  unfold resolveIncident at h
  split at h
  · rename_i active
    cases h
    have unresolved : incident.status ≠ .resolved := by
      intro resolved
      rw [resolved] at active
      cases active
    refine ⟨.resolves unresolved ?_ rfl rfl, rfl⟩
    rw [coherent.key_of_active unresolved]
    simp
  · cases h

/-- What a committed or uncommitted version of an incident can become. -/
inductive Evolves (incident next : DependencyIncident Details) : Prop where
  | same : next.fingerprint = incident.fingerprint → next.status = incident.status →
      next.activeKey = incident.activeKey → Evolves incident next
  | resolved : next.fingerprint = incident.fingerprint → next.status = .resolved →
      next.activeKey = none → Evolves incident next
  | acknowledged : next.fingerprint = incident.fingerprint → incident.status ≠ .resolved →
      next.status = .acknowledged → next.activeKey = incident.activeKey → Evolves incident next

namespace Evolves

variable {incident next last : DependencyIncident Details}

theorem refl (incident : DependencyIncident Details) : Evolves incident incident :=
  .same rfl rfl rfl

theorem coherent (h : Evolves incident next) (before : incident.Coherent) : next.Coherent := by
  cases h with
  | same name status key =>
    unfold DependencyIncident.Coherent
    rwa [name, status, key]
  | resolved name status key => exact Or.inr ⟨status, key⟩
  | acknowledged name active status key =>
    refine Or.inl ⟨by rw [status]; decide, ?_⟩
    rw [key, name]
    exact before.key_of_active active

theorem fingerprint (h : Evolves incident next) : next.fingerprint = incident.fingerprint := by
  cases h with
  | same name => exact name
  | resolved name => exact name
  | acknowledged name => exact name

/-- A key is kept or cleared. -/
theorem key (h : Evolves incident next) :
    next.activeKey = incident.activeKey ∨ next.activeKey = none := by
  cases h with
  | same _ _ key => exact Or.inl key
  | resolved _ _ key => exact Or.inr key
  | acknowledged _ _ _ key => exact Or.inl key

/-- **A resolved incident stays resolved.** -/
theorem resolved_stays (h : Evolves incident next) (resolved : incident.status = .resolved) :
    next.status = .resolved := by
  cases h with
  | same _ status _ => exact status.trans resolved
  | resolved _ status _ => exact status
  | acknowledged _ active _ _ => exact absurd resolved active

theorem trans (first : Evolves incident next) (second : Evolves next last) :
    Evolves incident last := by
  cases second with
  | same name status key =>
    cases first with
    | same name₁ status₁ key₁ =>
      exact .same (name.trans name₁) (status.trans status₁) (key.trans key₁)
    | resolved name₁ status₁ key₁ =>
      exact .resolved (name.trans name₁) (status.trans status₁) (key.trans key₁)
    | acknowledged name₁ active₁ status₁ key₁ =>
      exact .acknowledged (name.trans name₁) active₁ (status.trans status₁) (key.trans key₁)
  | resolved name status key =>
    cases first with
    | same name₁ _ _ => exact .resolved (name.trans name₁) status key
    | resolved name₁ _ _ => exact .resolved (name.trans name₁) status key
    | acknowledged name₁ _ _ _ => exact .resolved (name.trans name₁) status key
  | acknowledged name active status key =>
    cases first with
    | same name₁ status₁ key₁ =>
      exact .acknowledged (name.trans name₁) (status₁ ▸ active) status (key.trans key₁)
    | resolved _ status₁ _ => exact absurd status₁ active
    | acknowledged name₁ active₁ _ key₁ =>
      exact .acknowledged (name.trans name₁) active₁ status (key.trans key₁)

end Evolves

/-- **The columns an `UPDATE` writes.** Over any version of the row, except that
an acknowledgement needs one that is not resolved. -/
theorem StatusChange.evolves [DecidableEq Details]
    {loaded changed stored : DependencyIncident Details} (change : StatusChange loaded changed)
    (active : changed.status = .acknowledged → loaded.status = .opened →
      stored.status ≠ .resolved) :
    Evolves stored (DependencyIncident.update loaded changed stored) := by
  cases change with
  | keeps status key =>
    refine .same rfl ?_ ?_
    · simp [DependencyIncident.update, columnUpdate, status]
    · simp [DependencyIncident.update, columnUpdate, key]
  | resolves unresolved keyed status key =>
    refine .resolved rfl ?_ ?_
    · simp [DependencyIncident.update, columnUpdate, status, Ne.symm unresolved]
    · simp [DependencyIncident.update, columnUpdate, key, Ne.symm keyed]
  | acknowledges opened status key =>
    refine .acknowledged rfl (active status opened) ?_ ?_
    · simp [DependencyIncident.update, columnUpdate, status, opened]
    · simp [DependencyIncident.update, columnUpdate, key]

end ApiObservatory
