import ApiObservatory.Foundation.Run
import ApiObservatory.Foundation.UniqueIndex
import ApiObservatory.Repositories.Incidents
import Mathlib.Data.List.Sort

/-
Incident routes and probes, statement by statement
(`services/ingestor/api/routes/incidents.py` over
`services/ingestor/repositories/incidents.py`).

A route reads an incident by id, checks it in memory and commits; a probe calls
`open_or_update_incident` and `resolve_active_incident` for different trigger
types of one source and commits. The session has `autoflush` off: changed
objects are written at the flush of a new incident or of the commit, one
`UPDATE` by primary key each, in id order and before an `INSERT`. No statement
locks a row it only reads, and any number of transactions run at once.

`Step` lists the statements with what is known where they run.
-/

namespace ApiObservatory.Incidents

open Foundation

abbrev Worker := Nat

variable {Details : Type}

/-- A loaded object of a session and what the session has made of it. -/
structure Change (Details : Type) where
  id : Nat
  loaded : DependencyIncident Details
  changed : DependencyIncident Details

/-- One call of a probe, with the clock times it reads. -/
inductive Call (Details : Type) where
  | openOrUpdate (triggerType : TriggerType) (severity summary : String) (details : Details)
      (now checkedAt : Int)
  | resolveActive (triggerType : TriggerType) (actor : String) (now : Int)

def Call.triggerType : Call Details → TriggerType
  | .openOrUpdate triggerType _ _ _ _ _ => triggerType
  | .resolveActive triggerType _ _ => triggerType

/-- `inserting` is the flush of a new incident, `flushing` that of the commit;
both hold the changed objects still to be written. -/
inductive Phase (Details : Type) where
  | idle
  | probing (source : SourceProfile) (calls : List (Call Details)) (changes : List (Change Details))
  | inserting (source : SourceProfile) (calls : List (Call Details))
      (changes : List (Change Details)) (new : DependencyIncident Details)
  | flushing (changes : List (Change Details))

def Phase.changes : Phase Details → List (Change Details)
  | .idle => []
  | .probing _ _ changes => changes
  | .inserting _ _ changes _ => changes
  | .flushing changes => changes

structure State (Details : Type) where
  incidents : Table Worker (DependencyIncident Details)
  phase : Worker → Phase Details

/-- What a route knows of its caller: `_scope` and `_actor`. -/
structure Caller where
  tenantId : Option Nat
  admin : Bool
  actor : String

inductive Label (Details : Type) where
  | acknowledge (w : Worker) (id : Nat) (caller : Caller) (now : Int)
  | resolve (w : Worker) (id : Nat) (caller : Caller) (now : Int)
  | probe (w : Worker) (source : SourceProfile) (calls : List (Call Details))
  | advance (w : Worker)
  | rollback (w : Worker)

def Label.worker : Label Details → Worker
  | .acknowledge w _ _ _ => w
  | .resolve w _ _ _ => w
  | .probe w _ _ => w
  | .advance w => w
  | .rollback w => w

/-- Put a changed object into the session, which writes in id order. -/
def addChange (change : Change Details) (changes : List (Change Details)) :
    List (Change Details) :=
  changes.orderedInsert (fun a b => a.id ≤ b.id) change

namespace State

def moveTo (s : State Details) (w : Worker) (p : Phase Details) : State Details :=
  { s with phase := Function.update s.phase w p }

def commit (s : State Details) (w : Worker) : State Details :=
  { s with incidents := s.incidents.commit w }.moveTo w .idle

def rollback (s : State Details) (w : Worker) : State Details :=
  { s with incidents := s.incidents.rollback w }.moveTo w .idle

/-- `get_incident`: an incident of another tenant is not found. -/
def getIncident (s : State Details) (w : Worker) (id : Nat) (caller : Caller) :
    Option (DependencyIncident Details) :=
  (s.incidents.visible w id).filter fun row => caller.admin || row.tenantId == caller.tenantId

/-- The `SELECT` by `active_key`. -/
def selectActive (s : State Details) (w : Worker) (key : String) :
    Option (Nat × DependencyIncident Details) :=
  (s.incidents.select w fun _ row => row.activeKey == some key).head?

def insert (s : State Details) (w : Worker) (new : DependencyIncident Details)
    (p : Phase Details) : State Details :=
  { s with incidents := s.incidents.insert w new }.moveTo w p

variable [DecidableEq Details]

def update (s : State Details) (w : Worker) (change : Change Details)
    (stored : DependencyIncident Details) (p : Phase Details) : State Details :=
  { s with
    incidents := s.incidents.write w change.id
      (DependencyIncident.update change.loaded change.changed stored) }.moveTo w p

/-- The `UPDATE` of one changed object. It waits for a row lock. -/
def sendUpdate (s : State Details) (w : Worker) (change : Change Details) (p : Phase Details) :
    Option (State Details) :=
  match s.incidents.visible w change.id with
  | none => some (s.rollback w)
  | some stored => if s.incidents.free w change.id then some (s.update w change stored p) else none

/-- The `INSERT` of a new incident, whose key is its fingerprint. It waits for
transactions that write a row under the key, and fails with an `IntegrityError`
when the key is taken. -/
def sendInsert (s : State Details) (w : Worker) (new : DependencyIncident Details)
    (p : Phase Details) : Option (State Details) :=
  if s.incidents.contested w (·.activeKey == some new.fingerprint) then none
  else
    match s.selectActive w new.fingerprint with
    | none => some (s.insert w new p)
    | some (id, _) => if s.incidents.free w id then some (s.rollback w) else none

end State

/-- The `SELECT` of one call of a probe, and its assignments. -/
def probeCall (s : State Details) (w : Worker) (source : SourceProfile) (call : Call Details)
    (rest : List (Call Details)) (changes : List (Change Details)) : Phase Details :=
  match call with
  | .openOrUpdate triggerType severity summary details now checkedAt =>
      match s.selectActive w (fingerprint source triggerType) with
      | none => .inserting source rest changes (openOrUpdateIncident none source triggerType
          severity summary details now checkedAt).incident
      | some (id, incident) =>
          .probing source rest (addChange ⟨id, incident, (openOrUpdateIncident (some incident)
            source triggerType severity summary details now checkedAt).incident⟩ changes)
  | .resolveActive triggerType actor now =>
      match s.selectActive w (fingerprint source triggerType) with
      | none => .probing source rest changes
      | some (id, incident) =>
          match resolveActiveIncident (some incident) actor now with
          | none => .probing source rest changes
          | some done => .probing source rest (addChange ⟨id, incident, done.incident⟩ changes)

/-- A route after its `SELECT`: a 404 or 409 response, or a changed object. -/
def routeCall (s : State Details) (w : Worker) (id : Nat) (caller : Caller)
    (transition : DependencyIncident Details → Except String (DependencyIncident Details)) :
    Phase Details :=
  match s.getIncident w id caller with
  | none => .idle
  | some incident =>
      match transition incident with
      | .error _ => .idle
      | .ok changed => .flushing [⟨id, incident, changed⟩]

section Machine

variable [DecidableEq Details]

/-- The next statement of a transaction. -/
def advance (s : State Details) (w : Worker) : Option (State Details) :=
  match s.phase w with
  | .idle => none
  | .probing source (call :: rest) changes =>
      some (s.moveTo w (probeCall s w source call rest changes))
  | .probing _ [] changes => some (s.moveTo w (.flushing changes))
  | .inserting source calls (change :: rest) new =>
      s.sendUpdate w change (.inserting source calls rest new)
  | .inserting source calls [] new => s.sendInsert w new (.probing source calls [])
  | .flushing (change :: rest) => s.sendUpdate w change (.flushing rest)
  | .flushing [] => some (s.commit w)

/-- One statement of one transaction. The calls of a probe are for different
trigger types, so they load different rows. -/
def next (s : State Details) (label : Label Details) : Option (State Details) :=
  match s.phase label.worker, label with
  | .idle, .acknowledge w id caller now =>
      some (s.moveTo w (routeCall s w id caller (acknowledgeIncident · caller.actor now)))
  | .idle, .resolve w id caller now =>
      some (s.moveTo w (routeCall s w id caller (resolveIncident · caller.actor now)))
  | .idle, .probe w source calls =>
      if (calls.map Call.triggerType).Nodup then some (s.moveTo w (.probing source calls []))
      else none
  | _, .advance w => advance s w
  | _, .rollback w => some (s.rollback w)
  | _, _ => none

/-- No incident and no transaction. -/
def initial : State Details where
  incidents := .ofRows .empty
  phase _ := .idle

end Machine

/-! ### What one statement does -/

section Reads

variable {s : State Details} {w : Worker}

theorem selectActive_some {key : String} {entry : Nat × DependencyIncident Details}
    (h : s.selectActive w key = some entry) :
    s.incidents.visible w entry.1 = some entry.2 ∧ entry.2.activeKey = some key := by
  obtain ⟨seen, keyed⟩ := Table.mem_select.mp (List.mem_of_head? h)
  exact ⟨seen, beq_iff_eq.mp keyed⟩

theorem selectActive_none {key : String} (h : s.selectActive w key = none) {id : Nat}
    {row : DependencyIncident Details} (seen : s.incidents.visible w id = some row) :
    row.activeKey ≠ some key := by
  intro keyed
  have mem : (id, row) ∈ s.incidents.select w fun _ row => row.activeKey == some key :=
    Table.mem_select.mpr ⟨seen, beq_iff_eq.mpr keyed⟩
  rw [List.head?_eq_none_iff.mp h] at mem
  cases mem

theorem getIncident_some {id : Nat} {caller : Caller} {row : DependencyIncident Details}
    (h : s.getIncident w id caller = some row) : s.incidents.visible w id = some row :=
  (Option.filter_eq_some_iff.mp h).1

@[simp] theorem phase_moveTo_self (p : Phase Details) : (s.moveTo w p).phase w = p := by
  simp [State.moveTo]

theorem phase_moveTo_of_ne {w' : Worker} (ne : w' ≠ w) (p : Phase Details) :
    (s.moveTo w p).phase w' = s.phase w' := by
  simp [State.moveTo, ne]

end Reads

/-- The next changed object of a flush, and the phase after its `UPDATE`. -/
inductive Sends : Phase Details → Change Details → Phase Details → Prop where
  | inserting (source : SourceProfile) (calls : List (Call Details)) (change : Change Details)
      (rest : List (Change Details)) (new : DependencyIncident Details) :
      Sends (.inserting source calls (change :: rest) new) change (.inserting source calls rest new)
  | flushing (change : Change Details) (rest : List (Change Details)) :
      Sends (.flushing (change :: rest)) change (.flushing rest)

section Steps

variable [DecidableEq Details]

/-- The statements, with what is known where they run. -/
inductive Step (s : State Details) : Label Details → State Details → Prop where
  | refused (w : Worker) (label : Label Details) :
      label.worker = w → s.phase w = .idle → Step s label (s.moveTo w .idle)
  | acknowledge (w : Worker) (id : Nat) (caller : Caller) (now : Int)
      (row changed : DependencyIncident Details) :
      s.phase w = .idle → s.incidents.visible w id = some row →
      acknowledgeIncident row caller.actor now = .ok changed →
      Step s (.acknowledge w id caller now) (s.moveTo w (.flushing [⟨id, row, changed⟩]))
  | resolve (w : Worker) (id : Nat) (caller : Caller) (now : Int)
      (row changed : DependencyIncident Details) :
      s.phase w = .idle → s.incidents.visible w id = some row →
      resolveIncident row caller.actor now = .ok changed →
      Step s (.resolve w id caller now) (s.moveTo w (.flushing [⟨id, row, changed⟩]))
  | probe (w : Worker) (source : SourceProfile) (calls : List (Call Details)) :
      s.phase w = .idle → Step s (.probe w source calls) (s.moveTo w (.probing source calls []))
  | load (w : Worker) (source : SourceProfile) (call : Call Details) (rest : List (Call Details))
      (changes : List (Change Details)) (change : Change Details) :
      s.phase w = .probing source (call :: rest) changes →
      s.incidents.visible w change.id = some change.loaded →
      (change.loaded.Coherent → StatusChange change.loaded change.changed) →
      (change.changed.status = .acknowledged → change.loaded.status = .acknowledged) →
      Step s (.advance w) (s.moveTo w (.probing source rest (addChange change changes)))
  | skip (w : Worker) (source : SourceProfile) (call : Call Details) (rest : List (Call Details))
      (changes : List (Change Details)) :
      s.phase w = .probing source (call :: rest) changes →
      Step s (.advance w) (s.moveTo w (.probing source rest changes))
  | create (w : Worker) (source : SourceProfile) (call : Call Details) (rest : List (Call Details))
      (changes : List (Change Details)) (new : DependencyIncident Details) :
      s.phase w = .probing source (call :: rest) changes →
      new.status = .opened → new.activeKey = some new.fingerprint →
      Step s (.advance w) (s.moveTo w (.inserting source rest changes new))
  | finish (w : Worker) (source : SourceProfile) (changes : List (Change Details)) :
      s.phase w = .probing source [] changes →
      Step s (.advance w) (s.moveTo w (.flushing changes))
  | update (w : Worker) (change : Change Details) (p : Phase Details)
      (stored : DependencyIncident Details) :
      Sends (s.phase w) change p → s.incidents.visible w change.id = some stored →
      s.incidents.free w change.id → Step s (.advance w) (s.update w change stored p)
  | insert (w : Worker) (source : SourceProfile) (calls : List (Call Details))
      (new : DependencyIncident Details) :
      s.phase w = .inserting source calls [] new →
      s.incidents.contested w (·.activeKey == some new.fingerprint) = false →
      s.selectActive w new.fingerprint = none →
      Step s (.advance w) (s.insert w new (.probing source calls []))
  | commit (w : Worker) : s.phase w = .flushing [] → Step s (.advance w) (s.commit w)
  | rollback (w : Worker) (label : Label Details) :
      label.worker = w → Step s label (s.rollback w)

variable {s s' : State Details} {w : Worker} {label : Label Details}

theorem step_probeCall {source : SourceProfile} {call : Call Details} {rest : List (Call Details)}
    {changes : List (Change Details)} (phase : s.phase w = .probing source (call :: rest) changes) :
    Step s (.advance w) (s.moveTo w (probeCall s w source call rest changes)) := by
  cases call with
  | openOrUpdate triggerType severity summary details now checkedAt =>
    simp only [probeCall]
    cases found : s.selectActive w (fingerprint source triggerType) with
    | none => exact .create w source _ rest changes _ phase rfl rfl
    | some entry =>
      obtain ⟨seen, keyed⟩ := selectActive_some found
      exact .load w source _ rest changes ⟨entry.1, entry.2, _⟩ phase seen
        (fun _ => statusChange_deduplicate source triggerType severity summary details now
          checkedAt) id
  | resolveActive triggerType actor now =>
    simp only [probeCall]
    cases found : s.selectActive w (fingerprint source triggerType) with
    | none => exact .skip w source _ rest changes phase
    | some entry =>
      obtain ⟨seen, keyed⟩ := selectActive_some found
      refine .load w source _ rest changes ⟨entry.1, entry.2, _⟩ phase seen (fun coherent => ?_) nofun
      exact statusChange_resolveActive coherent (by rw [keyed]; simp) rfl

theorem step_sendUpdate {change : Change Details} {p : Phase Details}
    (sends : Sends (s.phase w) change p) (h : s.sendUpdate w change p = some s') :
    Step s (.advance w) s' := by
  unfold State.sendUpdate at h
  split at h
  · cases h
    exact .rollback w _ rfl
  · rename_i stored seen
    split at h
    · rename_i unlocked
      cases h
      exact .update w change p stored sends seen unlocked
    · cases h

theorem step_sendInsert {source : SourceProfile} {calls : List (Call Details)}
    {new : DependencyIncident Details} (phase : s.phase w = .inserting source calls [] new)
    (h : s.sendInsert w new (.probing source calls []) = some s') : Step s (.advance w) s' := by
  unfold State.sendInsert at h
  split at h
  · cases h
  · rename_i uncontested
    split at h
    · rename_i absent
      cases h
      exact .insert w source calls new phase (Bool.not_eq_true _ ▸ uncontested) absent
    · split at h
      · cases h
        exact .rollback w _ rfl
      · cases h

theorem step_advance (h : advance s w = some s') : Step s (.advance w) s' := by
  unfold advance at h
  split at h
  · cases h
  · rename_i source call rest changes phase
    cases h
    exact step_probeCall phase
  · rename_i source changes phase
    cases h
    exact .finish w source changes phase
  · rename_i source calls change rest new phase
    refine step_sendUpdate ?_ h
    rw [phase]
    exact .inserting source calls change rest new
  · rename_i source calls new phase
    exact step_sendInsert phase h
  · rename_i change rest phase
    refine step_sendUpdate ?_ h
    rw [phase]
    exact .flushing change rest
  · rename_i phase
    cases h
    exact .commit w phase

/-- A route call is refused, or changes the row that it reads. -/
theorem step_routeCall {label : Label Details} {id : Nat} {caller : Caller}
    {transition : DependencyIncident Details → Except String (DependencyIncident Details)}
    (own : label.worker = w) (phase : s.phase w = .idle)
    (changes : ∀ row changed, s.incidents.visible w id = some row → transition row = .ok changed →
      Step s label (s.moveTo w (.flushing [⟨id, row, changed⟩]))) :
    Step s label (s.moveTo w (routeCall s w id caller transition)) := by
  unfold routeCall
  split
  · exact .refused w label own phase
  · rename_i row found
    split
    · exact .refused w label own phase
    · rename_i changed done
      exact changes row changed (getIncident_some found) done

/-- **Every enabled label is one of the statements.** -/
theorem next_step (h : next s label = some s') : Step s label s' := by
  unfold next at h
  split at h
  · rename_i w id caller now phase
    cases h
    refine step_routeCall rfl phase fun row changed found done => ?_
    exact .acknowledge w id caller now row changed phase found done
  · rename_i w id caller now phase
    cases h
    refine step_routeCall rfl phase fun row changed found done => ?_
    exact .resolve w id caller now row changed phase found done
  · rename_i w source calls phase
    split at h
    · cases h
      exact .probe w source calls phase
    · cases h
  · exact step_advance h
  · cases h
    exact .rollback _ _ rfl
  · cases h

/-- **The frame of a statement**: it changes nothing for the other workers. -/
theorem Step.frame (step : Step s label s') (ne : w ≠ label.worker) :
    s'.phase w = s.phase w ∧ Table.Keeps w s.incidents s'.incidents := by
  cases step with
  | refused w₁ label same => exact ⟨phase_moveTo_of_ne (same ▸ ne) _, .refl w _⟩
  | update => exact ⟨phase_moveTo_of_ne ne _, Table.keeps_write ne _ _⟩
  | insert => exact ⟨phase_moveTo_of_ne ne _, Table.keeps_insert ne _⟩
  | commit => exact ⟨phase_moveTo_of_ne ne _, Table.keeps_commit ne⟩
  | rollback w₁ label same =>
    exact ⟨phase_moveTo_of_ne (same ▸ ne) _, Table.keeps_rollback (same ▸ ne)⟩
  | _ => exact ⟨phase_moveTo_of_ne ne _, .refl w _⟩

/-- Only a commit changes committed rows, to what its transaction sees. -/
theorem Step.rows (step : Step s label s') (id : Nat) :
    s'.incidents.rows.get id = s.incidents.rows.get id ∨
      (label = .advance label.worker ∧ s.phase label.worker = .flushing [] ∧
        s'.incidents.rows.get id = s.incidents.visible label.worker id) := by
  cases step with
  | update => exact Or.inl (by simp [State.update, State.moveTo])
  | commit w₁ phase => exact Or.inr ⟨rfl, phase, rfl⟩
  | _ => exact Or.inl rfl

end Steps

end ApiObservatory.Incidents
