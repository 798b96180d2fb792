import ApiObservatory.Health.Calls
import ApiObservatory.Health.Transactions
import ApiObservatory.Incidents.ActiveKey

/-
One session of a health sample between its first `SELECT` and its commit.

`Reconciling` says what the session holds: each transition it has returned is
either still a changed object or an uncommitted row. Its own statements keep
that (`Reconciling.reconciles`), and so do the commits of other sessions that
change neither a counter it has read nor a key it has found free
(`Reconciling.frame`). Rows are written in the order of their ids, and a session
that has opened a latency incident waits for no one.
-/

namespace ApiObservatory.Health.Overlap

open Foundation Incidents

/-! ### One session -/

def profile : Phase HealthDetails → Option SourceProfile
  | .probing source _ _ => some source
  | .inserting source _ _ _ => some source
  | _ => none

def calls : Phase HealthDetails → List (Call HealthDetails)
  | .probing _ calls _ => calls
  | .inserting _ calls _ _ => calls
  | _ => []

/-- The incident that the session inserts next. -/
def opening : Phase HealthDetails → Option Incident
  | .inserting _ _ _ new => some new
  | _ => none

/-- The triggers without a transition yet. -/
def awaited (phase : Phase HealthDetails) : List TriggerType :=
  (opening phase).toList.map (·.triggerType) ++ (calls phase).map Call.triggerType

/-- The transition is a changed object. The row of a counted availability
incident is as it was read. -/
structure Unwritten (source : SourceProfile) (stored : Nat → Option Incident) (entry : Transition)
    (change : Change HealthDetails) : Prop where
  made : Made change entry.2
  keyed : change.loaded.activeKey = some (fingerprint source entry.1)
  row : ∃ row, stored change.id = some row ∧ row.fingerprint = fingerprint source entry.1 ∧
    (entry = (.availability, "deduplicated") → row.activeKey = some row.fingerprint ∧
      row.occurrenceCount = change.loaded.occurrenceCount)

/-- The transition is an uncommitted row. -/
inductive Written (source : SourceProfile) (stored : Nat → Option Incident) :
    Transition → Nat → Incident → Prop where
  | opened (triggerType : TriggerType) (id : Nat) (p : Incident) :
      p.fingerprint = fingerprint source triggerType → stored id = none →
      p.activeKey = some p.fingerprint → p.occurrenceCount = 1 →
      Written source stored (triggerType, "opened") id p
  | deduplicated (triggerType : TriggerType) (id : Nat) (p row : Incident) :
      p.fingerprint = fingerprint source triggerType → stored id = some row →
      (triggerType = .availability → row.activeKey = some row.fingerprint ∧
        p.activeKey = row.activeKey ∧ p.occurrenceCount = row.occurrenceCount + 1) →
      Written source stored (triggerType, "deduplicated") id p
  | resolved (triggerType : TriggerType) (id : Nat) (p row : Incident) :
      p.fingerprint = fingerprint source triggerType → stored id = some row →
      p.activeKey = none → Written source stored (triggerType, "resolved") id p

/-- **A session between its first `SELECT` and its commit**, with the
transitions it has returned. -/
structure Reconciling (source : SourceProfile) (s : Incidents.State HealthDetails) (w : Worker)
    (transitions : List Transition) : Prop where
  begun : s.phase w ≠ .idle
  ours : ∀ other ∈ profile (s.phase w), other = source
  order : (transitions.map Prod.fst ++ awaited (s.phase w)).Sublist [.availability, .latency]
  changes : ∀ change ∈ (s.phase w).changes, ∃ entry ∈ transitions,
    Unwritten source s.incidents.rows.get entry change
  written : ∀ {id p}, s.incidents.pending w id = some p → ∃ entry ∈ transitions,
    Written source s.incidents.rows.get entry id p
  covered : ∀ entry ∈ transitions,
    (∃ change ∈ (s.phase w).changes, Unwritten source s.incidents.rows.get entry change) ∨
      ∃ id p, s.incidents.pending w id = some p ∧ Written source s.incidents.rows.get entry id p
  sorted : (s.phase w).changes.Pairwise fun a b => a.id < b.id
  after : ∀ {id p row}, s.incidents.pending w id = some p → s.incidents.rows.get id = some row →
    calls (s.phase w) = [] ∧ ∀ change ∈ (s.phase w).changes, id < change.id
  last : (.latency, "opened") ∈ transitions → (s.phase w).changes = []
  absent : ∀ new ∈ opening (s.phase w), new.occurrenceCount = 1 ∧
    new.activeKey = some new.fingerprint ∧
    new.fingerprint = fingerprint source new.triggerType ∧
    ∀ {id row}, s.incidents.visible w id = some row → row.activeKey ≠ some new.fingerprint

/-- No transaction is open. -/
structure Closed (s : Incidents.State HealthDetails) (w : Worker) : Prop where
  ended : s.phase w = .idle
  unwritten : s.incidents.Unwritten w

/-! ### Facts about one session -/

theorem Written.fingerprint {source : SourceProfile} {stored : Nat → Option Incident}
    {entry : Transition} {id : Nat} {p : Incident} (written : Written source stored entry id p) :
    p.fingerprint = ApiObservatory.fingerprint source entry.1 := by
  cases written with
  | opened triggerType id p named => exact named
  | deduplicated triggerType id p row named => exact named
  | resolved triggerType id p row named => exact named

theorem Made.ordinary {change : Change HealthDetails} {text : String} (made : Made change text) :
    ¬ change.Acknowledges := by
  rintro ⟨acknowledged, opened⟩
  cases made with
  | deduplicated status => cases (acknowledged.symm.trans status).trans opened
  | resolved status => cases acknowledged.symm.trans status

theorem Made.counts {change : Change HealthDetails} (made : Made change "deduplicated") :
    change.changed.occurrenceCount ≠ change.loaded.occurrenceCount := by
  generalize is : "deduplicated" = text at made
  cases made with
  | deduplicated status key count =>
    rw [count]
    exact Nat.succ_ne_self _
  | resolved => exact absurd is (by decide)

theorem Made.not_opened {change : Change HealthDetails} {text : String} (made : Made change text) :
    text ≠ "opened" := by
  cases made with
  | deduplicated => decide
  | resolved => decide

/-- What an `UPDATE` makes of a changed object whose row no one has changed. -/
theorem Unwritten.write {source : SourceProfile} {stored : Nat → Option Incident}
    {entry : Transition} {change : Change HealthDetails} {row : Incident}
    (unwritten : Unwritten source stored entry change) (there : stored change.id = some row) :
    Written source stored entry change.id
      (DependencyIncident.update change.loaded change.changed row) := by
  obtain ⟨row', there', named, counted⟩ := unwritten.row
  obtain rfl := Option.some.inj (there.symm.trans there')
  have keyed := unwritten.keyed
  have made := unwritten.made
  obtain ⟨triggerType, text⟩ := entry
  cases made with
  | deduplicated status key count =>
    refine .deduplicated triggerType _ _ row named there fun is => ?_
    obtain ⟨active, read⟩ := counted (by rw [is])
    refine ⟨active, ?_, ?_⟩
    · simp [DependencyIncident.update, columnUpdate, key]
    · simp only [DependencyIncident.update, columnUpdate, count, read]
      rw [if_neg (Nat.succ_ne_self _)]
  | resolved status key count =>
    refine .resolved triggerType _ _ row named there ?_
    simp only at keyed
    simp [DependencyIncident.update, columnUpdate, key, keyed]

theorem pairwise_addChange {change : Change HealthDetails} {changes : List (Change HealthDetails)}
    (sorted : changes.Pairwise fun a b => a.id < b.id)
    (new : ∀ other ∈ changes, other.id ≠ change.id) :
    (addChange change changes).Pairwise fun a b => a.id < b.id := by
  induction changes with
  | nil => simp [addChange]
  | cons first rest ih =>
    obtain ⟨least, sorted⟩ := List.pairwise_cons.mp sorted
    obtain ⟨ne, new⟩ := List.forall_mem_cons.mp new
    unfold addChange
    rw [List.orderedInsert_cons]
    split
    · rename_i le
      have lt : change.id < first.id := Nat.lt_of_le_of_ne le (Ne.symm ne)
      refine List.pairwise_cons.mpr ⟨?_, List.pairwise_cons.mpr ⟨least, sorted⟩⟩
      intro other mem
      rcases List.mem_cons.mp mem with rfl | old
      · exact lt
      · exact Nat.lt_trans lt (least other old)
    · rename_i gt
      refine List.pairwise_cons.mpr ⟨?_, ih sorted new⟩
      intro other mem
      rcases mem_addChange mem with rfl | old
      · exact Nat.lt_of_not_le gt
      · exact least other old

/-- What the next `UPDATE` of a flush leaves of its phase. -/
theorem sends_frame {phase p : Phase HealthDetails} {change : Change HealthDetails}
    (sends : Sends phase change p) : phase.changes = change :: p.changes ∧
      calls p = calls phase ∧ opening p = opening phase ∧ profile p = profile phase ∧
      p ≠ .idle := by
  cases sends with
  | inserting source calls change rest new => exact ⟨rfl, rfl, rfl, rfl, nofun⟩
  | flushing change rest => exact ⟨rfl, rfl, rfl, rfl, nofun⟩

/-- Latency is asked for last. -/
theorem nothing_after_latency {before after : List TriggerType}
    (order : (before ++ after).Sublist [.availability, .latency]) (mem : .latency ∈ before) :
    after = [] := by
  have last : (before ++ after).Pairwise fun a _ => a ≠ .latency := .sublist order (by decide)
  cases after with
  | nil => rfl
  | cons next rest =>
    exact absurd rfl ((List.pairwise_append.mp last).2.2 _ mem next List.mem_cons_self)

section Session

variable {source : SourceProfile} {s s' : Incidents.State HealthDetails} {w : Worker}
  {transitions : List Transition}

/-- A trigger that is awaited has no transition. -/
theorem Reconciling.awaits (on : Reconciling source s w transitions) {triggerType : TriggerType}
    (mem : triggerType ∈ awaited (s.phase w)) : ∀ entry ∈ transitions, entry.1 ≠ triggerType := by
  intro entry returned same
  have distinct : (transitions.map Prod.fst ++ awaited (s.phase w)).Nodup :=
    on.order.nodup (by decide)
  rw [List.nodup_append] at distinct
  exact distinct.2.2 _ (List.mem_map_of_mem returned) _ mem same

/-- An uncommitted row has the name of a transition that was returned. -/
theorem Reconciling.named (on : Reconciling source s w transitions) {id : Nat} {p : Incident}
    (wrote : s.incidents.pending w id = some p) :
    ∃ entry ∈ transitions, p.fingerprint = fingerprint source entry.1 := by
  obtain ⟨entry, mem, written⟩ := on.written wrote
  exact ⟨entry, mem, written.fingerprint⟩

/-- The row of a changed object is committed, and the session has not written it. -/
theorem Reconciling.unwritten (on : Reconciling source s w transitions)
    {change : Change HealthDetails} (mem : change ∈ (s.phase w).changes) :
    s.incidents.pending w change.id = none ∧ ∃ row, s.incidents.rows.get change.id = some row := by
  obtain ⟨entry, -, unwritten⟩ := on.changes change mem
  obtain ⟨row, there, -⟩ := unwritten.row
  refine ⟨?_, row, there⟩
  cases wrote : s.incidents.pending w change.id with
  | none => rfl
  | some p => exact absurd ((on.after wrote there).2 change mem) (Nat.lt_irrefl _)

/-- The active incident of an awaited trigger that a session sees is committed. -/
theorem Reconciling.committed_of_visible (on : Reconciling source s w transitions)
    (inv : Incidents.Invariant s) {triggerType : TriggerType} {id : Nat} {row : Incident}
    (waits : triggerType ∈ awaited (s.phase w)) (seen : s.incidents.visible w id = some row)
    (keyed : row.activeKey = some (fingerprint source triggerType)) :
    s.incidents.rows.get id = some row ∧ row.fingerprint = fingerprint source triggerType := by
  have coherent := (inv.visible seen).1
  have name := coherent.key_of_active (coherent.active_of_key (by rw [keyed]; simp))
  have named : row.fingerprint = fingerprint source triggerType :=
    (Option.some.inj (keyed.symm.trans name)).symm
  refine ⟨?_, named⟩
  rcases Table.pending_or_stored seen with wrote | ⟨-, there⟩
  · obtain ⟨entry, mem, is⟩ := on.named wrote
    have same := fingerprint_injective source (is.symm.trans named)
    exact absurd same (on.awaits waits entry mem)
  · exact there

/-! ### The statements of the session -/

theorem Reconciling.load (on : Reconciling source s w transitions) (inv : Incidents.Invariant s)
    {other : SourceProfile} {call : Call HealthDetails} {rest : List (Call HealthDetails)}
    {changes : List (Change HealthDetails)} {change : Change HealthDetails} {text : String}
    (phase : s.phase w = .probing other (call :: rest) changes)
    (seen : s.incidents.visible w change.id = some change.loaded)
    (keyed : change.loaded.activeKey = some (fingerprint other call.triggerType))
    (made : Made change text) :
    Reconciling source (s.moveTo w (.probing other rest (addChange change changes))) w
      (transitions ++ [(call.triggerType, text)]) := by
  obtain rfl : other = source := on.ours other (by rw [phase]; rfl)
  have waits : call.triggerType ∈ awaited (s.phase w) := by
    rw [phase]
    exact List.mem_cons_self
  obtain ⟨there, named⟩ := on.committed_of_visible inv waits seen keyed
  have before := on.changes
  have covered := on.covered
  have sorted := on.sorted
  have order := on.order
  rw [phase] at before covered sorted order
  have unwritten : Unwritten other s.incidents.rows.get (call.triggerType, text) change := by
    refine ⟨made, keyed, change.loaded, there, named, fun _ => ⟨?_, rfl⟩⟩
    rw [keyed, named]
  refine ⟨?begun, ?ours, ?order, ?changes, ?written, ?covered, ?sorted, ?after, ?last, ?absent⟩
  case begun =>
    simp
  case ours =>
    rw [phase_moveTo_self]
    intro profile mem
    exact (Option.some.inj mem).symm
  case order =>
    rw [phase_moveTo_self]
    simpa [awaited, opening, calls] using order
  case changes =>
    rw [phase_moveTo_self]
    intro made mem
    rcases mem_addChange mem with rfl | old
    · exact ⟨_, List.mem_append_right _ (List.mem_singleton_self _), unwritten⟩
    · obtain ⟨entry, returned, is⟩ := before made old
      exact ⟨entry, List.mem_append_left _ returned, is⟩
  case written =>
    intro id p wrote
    obtain ⟨entry, returned, is⟩ := on.written wrote
    exact ⟨entry, List.mem_append_left _ returned, is⟩
  case covered =>
    rw [phase_moveTo_self]
    intro entry mem
    rcases List.mem_append.mp mem with returned | now
    · rcases covered entry returned with ⟨made, old, is⟩ | wrote
      · exact Or.inl ⟨made, (List.mem_orderedInsert _).mpr (Or.inr old), is⟩
      · exact Or.inr wrote
    · rw [List.mem_singleton] at now
      subst now
      exact Or.inl ⟨change, (List.mem_orderedInsert _).mpr (Or.inl rfl), unwritten⟩
  case sorted =>
    rw [phase_moveTo_self]
    refine pairwise_addChange sorted fun made mem same => ?_
    obtain ⟨entry, returned, is⟩ := before made mem
    obtain ⟨row, stored, name, -⟩ := is.row
    rw [same] at stored
    obtain rfl := Option.some.inj (there.symm.trans stored)
    exact on.awaits waits entry returned (fingerprint_injective other (name.symm.trans named))
  case after =>
    intro id p row wrote stored
    obtain ⟨none, -⟩ := on.after wrote stored
    rw [phase] at none
    cases none
  case last =>
    intro mem
    rcases List.mem_append.mp mem with returned | now
    · have none := nothing_after_latency on.order (List.mem_map_of_mem returned)
      rw [none] at waits
      cases waits
    · obtain ⟨-, is⟩ := Prod.mk.inj (List.mem_singleton.mp now)
      exact absurd is.symm made.not_opened
  case absent =>
    rw [phase_moveTo_self]
    intro new mem
    cases mem

/-- A move that keeps the changed objects. -/
theorem Reconciling.moveTo (on : Reconciling source s w transitions) {p : Phase HealthDetails}
    (begun : p ≠ .idle) (ours : ∀ other ∈ profile p, other = source)
    (order : (transitions.map Prod.fst ++ awaited p).Sublist [.availability, .latency])
    (same : p.changes = (s.phase w).changes) (ends : calls (s.phase w) = [] → calls p = [])
    (absent : ∀ new ∈ opening p, new.occurrenceCount = 1 ∧
      new.activeKey = some new.fingerprint ∧
      new.fingerprint = fingerprint source new.triggerType ∧
      ∀ {id row}, s.incidents.visible w id = some row → row.activeKey ≠ some new.fingerprint) :
    Reconciling source (s.moveTo w p) w transitions := by
  refine ⟨?_, ?_, ?_, ?_, on.written, ?_, ?_, ?_, ?_, ?_⟩
  · rwa [phase_moveTo_self]
  · rwa [phase_moveTo_self]
  · rwa [phase_moveTo_self]
  · rw [phase_moveTo_self, same]
    exact on.changes
  · rw [phase_moveTo_self, same]
    exact on.covered
  · rw [phase_moveTo_self, same]
    exact on.sorted
  · rw [phase_moveTo_self, same]
    intro id q row wrote stored
    obtain ⟨none, smaller⟩ := on.after wrote stored
    exact ⟨ends none, smaller⟩
  · rw [phase_moveTo_self, same]
    exact on.last
  · rw [phase_moveTo_self]
    exact absent

theorem Reconciling.skip (on : Reconciling source s w transitions) {other : SourceProfile}
    {call : Call HealthDetails} {rest : List (Call HealthDetails)}
    {changes : List (Change HealthDetails)}
    (phase : s.phase w = .probing other (call :: rest) changes) :
    Reconciling source (s.moveTo w (.probing other rest changes)) w transitions := by
  have ours := on.ours
  have order := on.order
  rw [phase] at ours order
  refine on.moveTo nofun ours (List.Sublist.trans ?_ order) ?_ ?_ ?_
  · exact List.Sublist.append_left (List.sublist_cons_self ..) _
  · rw [phase]
    rfl
  · intro none
    rw [phase] at none
    cases none
  · intro new mem
    cases mem

theorem Reconciling.create (on : Reconciling source s w transitions) {other : SourceProfile}
    {call : Call HealthDetails} {rest : List (Call HealthDetails)}
    {changes : List (Change HealthDetails)} {severity summary : String} {details : HealthDetails}
    {now : Int} (phase : s.phase w = .probing other (call :: rest) changes)
    (free : s.selectActive w (fingerprint other call.triggerType) = none) :
    Reconciling source (s.moveTo w (.inserting other rest changes
      (openIncident other call.triggerType severity summary details now))) w transitions := by
  have ours := on.ours
  have order := on.order
  rw [phase] at ours order
  obtain rfl : other = source := ours other rfl
  refine on.moveTo nofun ours order ?_ ?_ ?_
  · rw [phase]
    rfl
  · intro none
    rw [phase] at none
    cases none
  · intro new mem
    obtain rfl := Option.some.inj mem
    exact ⟨rfl, rfl, rfl, fun seen => selectActive_none free seen⟩

theorem Reconciling.finish (on : Reconciling source s w transitions) {other : SourceProfile}
    {changes : List (Change HealthDetails)} (phase : s.phase w = .probing other [] changes) :
    Reconciling source (s.moveTo w (.flushing changes)) w transitions := by
  have order := on.order
  rw [phase] at order
  refine on.moveTo nofun (fun other mem => nomatch mem) order ?_ (fun _ => rfl) ?_
  · rw [phase]
    rfl
  · intro new mem
    cases mem

/-- A session that still writes changed objects makes no further call. -/
theorem Reconciling.no_calls (on : Reconciling source s w transitions)
    {change : Change HealthDetails} (mem : change ∈ (s.phase w).changes)
    (probed : ∀ other rest changes, s.phase w ≠ .probing other rest changes) :
    calls (s.phase w) = [] := by
  obtain ⟨entry, returned, -⟩ := on.changes change mem
  have order := on.order.length_le
  have one : 1 ≤ transitions.length := List.length_pos_of_mem returned
  cases phase : s.phase w with
  | idle => rfl
  | probing other rest changes => exact absurd phase (probed other rest changes)
  | inserting other rest changes new =>
    rw [phase] at order
    simp only [awaited, opening, calls, List.length_append, List.length_map, Option.toList_some,
      List.length_cons, List.length_nil] at order
    exact List.length_eq_zero_iff.mp (by simp only [calls]; omega)
  | flushing changes => rfl

theorem rows_update (s : Incidents.State HealthDetails) (w : Worker)
    (change : Change HealthDetails) (stored : Incident) (p : Phase HealthDetails) :
    (s.update w change stored p).incidents.rows.get = s.incidents.rows.get := by
  simp [Incidents.State.update, Incidents.State.moveTo]

theorem pending_update {change : Change HealthDetails} {stored : Incident}
    (p : Phase HealthDetails) (seen : s.incidents.visible w change.id = some stored)
    (unlocked : s.incidents.free w change.id) :
    (s.update w change stored p).incidents.pending w change.id =
      some (DependencyIncident.update change.loaded change.changed stored) := by
  have lt := Table.visible_lt_nextId seen
  simp [Incidents.State.update, Incidents.State.moveTo, Table.pending_write _ unlocked lt]

/-- The first write of a row keeps the other uncommitted rows. -/
theorem pending_update_of_ne {change : Change HealthDetails} {stored q : Incident}
    {p : Phase HealthDetails} {id : Nat} (clean : s.incidents.pending w change.id = none)
    (wrote : s.incidents.pending w id = some q) :
    (s.update w change stored p).incidents.pending w id = some q := by
  have ne : ¬ (w = w ∧ id = change.id) := by
    rintro ⟨-, rfl⟩
    cases clean.symm.trans wrote
  exact (Table.pending_write_of_ne _ ne).trans wrote

theorem Reconciling.update (on : Reconciling source s w transitions)
    (inv : Incidents.Invariant s) {change : Change HealthDetails} {p : Phase HealthDetails}
    {stored : Incident} (sends : Sends (s.phase w) change p)
    (seen : s.incidents.visible w change.id = some stored)
    (unlocked : s.incidents.free w change.id) :
    Reconciling source (s.update w change stored p) w transitions := by
  obtain ⟨changes, same, opens, profiles, begun⟩ := sends_frame sends
  have first : change ∈ (s.phase w).changes := by
    rw [changes]
    exact List.mem_cons_self
  have later : ∀ {other}, other ∈ p.changes → other ∈ (s.phase w).changes := by
    intro other mem
    rw [changes]
    exact List.mem_cons_of_mem _ mem
  obtain ⟨clean, -⟩ := on.unwritten first
  have there : s.incidents.rows.get change.id = some stored :=
    (Table.visible_eq_rows clean).symm.trans seen
  have sorted := on.sorted
  rw [changes, List.pairwise_cons] at sorted
  have now := pending_update p seen unlocked
  have rows := rows_update s w change stored p
  refine ⟨?begun, ?ours, ?order, ?changes, ?written, ?covered, ?sorted, ?after, ?last, ?absent⟩
  case begun =>
    rw [phase_update]
    exact begun
  case ours =>
    rw [phase_update, profiles]
    exact on.ours
  case order =>
    rw [phase_update]
    unfold awaited
    rw [opens, same]
    exact on.order
  case changes =>
    rw [phase_update, rows]
    exact fun other mem => on.changes other (later mem)
  case written =>
    rw [rows]
    intro id q wrote
    rcases Table.pending_write_cases wrote with ⟨-, rfl, rfl⟩ | old
    · obtain ⟨entry, returned, unwritten⟩ := on.changes change first
      exact ⟨entry, returned, unwritten.write there⟩
    · exact on.written old
  case covered =>
    rw [phase_update, rows]
    intro entry returned
    rcases on.covered entry returned with ⟨other, mem, unwritten⟩ | ⟨id, q, wrote, written⟩
    · rw [changes] at mem
      rcases List.mem_cons.mp mem with rfl | left
      · exact Or.inr ⟨other.id, _, now, unwritten.write there⟩
      · exact Or.inl ⟨other, left, unwritten⟩
    · exact Or.inr ⟨id, q, pending_update_of_ne clean wrote, written⟩
  case sorted =>
    rw [phase_update]
    exact sorted.2
  case after =>
    rw [phase_update, rows, same]
    intro id q row wrote stored'
    rcases Table.pending_write_cases wrote with ⟨-, rfl, rfl⟩ | old
    · refine ⟨on.no_calls first ?_, sorted.1⟩
      intro other rest changes probed
      rw [probed] at sends
      cases sends
    · obtain ⟨none, smaller⟩ := on.after old stored'
      exact ⟨none, fun other mem => smaller other (later mem)⟩
  case last =>
    intro opened
    have none := on.last opened
    rw [changes] at none
    cases none
  case absent =>
    rw [phase_update, opens]
    intro new mem
    obtain ⟨count, key, name, unseen⟩ := on.absent new mem
    refine ⟨count, key, name, fun {id row} sees keyed => ?_⟩
    rcases Table.visible_write_cases sees with ⟨rfl, rfl⟩ | old
    · rcases ((inv.phases w).sends sends seen).key with kept | none
      · exact unseen seen (kept.symm.trans keyed)
      · cases none.symm.trans keyed
    · exact unseen old keyed

theorem Reconciling.insert (on : Reconciling source s w transitions) {other : SourceProfile}
    {rest : List (Call HealthDetails)} {new : Incident}
    (phase : s.phase w = .inserting other rest [] new) :
    Reconciling source (s.insert w new (.probing other rest [])) w
      (transitions ++ [(new.triggerType, "opened")]) := by
  obtain ⟨begun, ours, order, before, written, covered, sorted, after, last, absent⟩ := on
  rw [phase] at ours order before covered sorted last absent
  obtain ⟨count, key, name, unseen⟩ := absent new rfl
  have now : (s.insert w new (.probing other rest [])).incidents.pending w
      s.incidents.rows.nextId = some new := by
    simp [Incidents.State.insert, Incidents.State.moveTo]
  have opened : Written source s.incidents.rows.get (new.triggerType, "opened")
      s.incidents.rows.nextId new :=
    .opened new.triggerType _ new name (s.incidents.rows.unused _ (Nat.le_refl _)) key count
  have rows : (s.insert w new (.probing other rest [])).incidents.rows.get =
      s.incidents.rows.get := rfl
  refine ⟨?begun, ?ours, ?order, ?changes, ?written, ?covered, ?sorted, ?after, ?last, ?absent⟩
  case begun =>
    rw [phase_insert]
    intro idle
    cases idle
  case ours =>
    rw [phase_insert]
    exact ours
  case order =>
    rw [phase_insert]
    simpa [awaited, opening, calls] using order
  case changes =>
    rw [phase_insert]
    intro change mem
    cases mem
  case written =>
    rw [rows]
    intro id q wrote
    rcases Table.pending_insert_cases wrote with ⟨-, rfl, rfl⟩ | old
    · exact ⟨_, List.mem_append_right _ (List.mem_singleton_self _), opened⟩
    · obtain ⟨entry, returned, is⟩ := written old
      exact ⟨entry, List.mem_append_left _ returned, is⟩
  case covered =>
    rw [rows]
    intro entry mem
    rcases List.mem_append.mp mem with returned | last
    · rcases covered entry returned with ⟨change, none, -⟩ | ⟨id, q, wrote, is⟩
      · cases none
      · exact Or.inr ⟨id, q, Table.pending_insert_of_some new wrote, is⟩
    · rw [List.mem_singleton] at last
      subst last
      exact Or.inr ⟨_, new, now, opened⟩
  case sorted =>
    rw [phase_insert]
    exact List.Pairwise.nil
  case after =>
    rw [phase_insert, rows]
    intro id q row wrote stored
    rcases Table.pending_insert_cases wrote with ⟨-, rfl, -⟩ | old
    · rw [s.incidents.rows.unused _ (Nat.le_refl _)] at stored
      cases stored
    · have none := (after old stored).1
      rw [phase] at none
      exact ⟨none, fun change mem => absurd mem List.not_mem_nil⟩
  case last =>
    rw [phase_insert]
    exact fun _ => rfl
  case absent =>
    rw [phase_insert]
    intro new mem
    cases mem

theorem Reconciling.reconciles (on : Reconciling source s w transitions)
    (inv : Incidents.Invariant s) {returns : List Transition}
    (reconciles : Reconciles s w s' returns) :
    Reconciling source s' w (transitions ++ returns) := by
  cases reconciles with
  | load other call rest changes change text phase seen keyed made =>
    exact on.load inv phase seen keyed made
  | skip other call rest changes phase =>
    rw [List.append_nil]
    exact on.skip phase
  | create other call rest changes severity summary details now phase free =>
    rw [List.append_nil]
    exact on.create phase free
  | finish other changes phase =>
    rw [List.append_nil]
    exact on.finish phase
  | update change p stored sends seen unlocked =>
    rw [List.append_nil]
    exact on.update inv sends seen unlocked
  | insert other rest new phase uncontested free => exact on.insert phase

/-- No call fails: the rows of changed objects are there, and the key of a new
incident is free. -/
theorem Reconciling.not_fails (on : Reconciling source s w transitions) : ¬ Fails s w := by
  intro fails
  cases fails with
  | gone change p sends gone =>
    have mem : change ∈ (s.phase w).changes := by
      rw [(sends_frame sends).1]
      exact List.mem_cons_self
    obtain ⟨clean, row, there⟩ := on.unwritten mem
    rw [Table.visible_eq_rows clean, there] at gone
    cases gone
  | taken other rest new row id phase seen keyed =>
    have absent := on.absent
    rw [phase] at absent
    exact (absent new rfl).2.2.2 seen keyed

/-- **The frame of a session**: what the other sessions may do to the committed
rows. -/
theorem Reconciling.frame (on : Reconciling source s w transitions) (phase : s'.phase w = s.phase w)
    (keeps : Table.Keeps w s.incidents s'.incidents)
    (named : ∀ {id row}, s.incidents.rows.get id = some row →
      ∃ row', s'.incidents.rows.get id = some row' ∧ row'.fingerprint = row.fingerprint)
    (counted : ∀ change ∈ (s.phase w).changes,
      change.loaded.activeKey = some (fingerprint source .availability) →
      change.changed.occurrenceCount ≠ change.loaded.occurrenceCount →
      s'.incidents.rows.get change.id = s.incidents.rows.get change.id)
    (unopened : ∀ new ∈ opening (s.phase w), ∀ {id row}, s'.incidents.rows.get id = some row →
      row.activeKey = some new.fingerprint → s.incidents.rows.get id = some row) :
    Reconciling source s' w transitions := by
  obtain ⟨begun, ours, order, before, written, covered, sorted, after, last, absent⟩ := on
  have held : ∀ {id p}, s.incidents.pending w id = some p →
      s'.incidents.rows.get id = s.incidents.rows.get id :=
    fun wrote => keeps.row _ (s.incidents.held wrote)
  have unwritten : ∀ {entry change}, change ∈ (s.phase w).changes →
      Unwritten source s.incidents.rows.get entry change →
      Unwritten source s'.incidents.rows.get entry change := by
    rintro entry change mem ⟨made, keyed, row, there, name, counts⟩
    obtain ⟨row', there', name'⟩ := named there
    refine ⟨made, keyed, row', there', name'.trans name, fun is => ?_⟩
    obtain rfl : row' = row := by
      have same := counted change mem (by rw [keyed, is]) ?_
      · rw [there', there] at same
        exact Option.some.inj same
      · rw [is] at made
        exact made.counts
    exact counts is
  have wrote' : ∀ {entry id p}, s.incidents.pending w id = some p →
      Written source s.incidents.rows.get entry id p →
      Written source s'.incidents.rows.get entry id p := by
    intro entry id p wrote is
    have same := held wrote
    cases is with
    | opened triggerType id p name absent key count =>
      exact .opened triggerType id p name (same.trans absent) key count
    | deduplicated triggerType id p row name there counts =>
      exact .deduplicated triggerType id p row name (same.trans there) counts
    | resolved triggerType id p row name there key =>
      exact .resolved triggerType id p row name (same.trans there) key
  refine ⟨?begun, ?ours, ?order, ?changes, ?written, ?covered, ?sorted, ?after, ?last, ?absent⟩
  case begun =>
    rw [phase]
    exact begun
  case ours =>
    rw [phase]
    exact ours
  case order =>
    rw [phase]
    exact order
  case changes =>
    rw [phase]
    intro change mem
    obtain ⟨entry, returned, is⟩ := before change mem
    exact ⟨entry, returned, unwritten mem is⟩
  case written =>
    rw [keeps.pending]
    intro id p wrote
    obtain ⟨entry, returned, is⟩ := written wrote
    exact ⟨entry, returned, wrote' wrote is⟩
  case covered =>
    rw [phase, keeps.pending]
    intro entry returned
    rcases covered entry returned with ⟨change, mem, is⟩ | ⟨id, p, wrote, is⟩
    · exact Or.inl ⟨change, mem, unwritten mem is⟩
    · exact Or.inr ⟨id, p, wrote, wrote' wrote is⟩
  case sorted =>
    rw [phase]
    exact sorted
  case after =>
    rw [phase, keeps.pending]
    intro id p row wrote stored
    exact after wrote ((held wrote).symm.trans stored)
  case last =>
    rw [phase]
    exact last
  case absent =>
    rw [phase]
    intro new mem
    obtain ⟨count, key, name, unseen⟩ := absent new mem
    refine ⟨count, key, name, fun {id row} sees keyed => ?_⟩
    rcases Table.pending_or_stored sees with wrote | ⟨clean, stored⟩
    · rw [keeps.pending] at wrote
      exact unseen (Table.visible_of_pending wrote) keyed
    · rw [keeps.pending] at clean
      have before := unopened new mem stored keyed
      exact unseen ((Table.visible_eq_rows clean).trans before) keyed

end Session

/-! ### Waiting -/

/-- The session `w` waits for `v`: for a row it holds, or for the key of a row it
has written. -/
inductive Waits (s : Incidents.State HealthDetails) (w v : Worker) : Prop where
  | row (change : Change HealthDetails) : change ∈ (s.phase w).changes →
      s.incidents.holder change.id = some v → Waits s w v
  | key (new p : Incident) (id : Nat) : new ∈ opening (s.phase w) → v ≠ w →
      s.incidents.pending v id = some p → p.activeKey = some new.fingerprint → Waits s w v

section Waiting

variable {source : SourceProfile} {s : Incidents.State HealthDetails} {w v : Worker}
  {transitions : List Transition}

theorem waits_of_sendUpdate {change : Change HealthDetails} {p : Phase HealthDetails}
    (mem : change ∈ (s.phase w).changes) (blocked : s.sendUpdate w change p = none) :
    ∃ v, Waits s w v := by
  unfold Incidents.State.sendUpdate at blocked
  split at blocked
  · cases blocked
  · split at blocked
    · cases blocked
    · rename_i locked
      cases held : s.incidents.holder change.id with
      | none => exact absurd (Or.inl held) locked
      | some v => exact ⟨v, .row change mem held⟩

theorem Reconciling.waits_of_sendInsert (on : Reconciling source s w transitions) {new : Incident}
    {p : Phase HealthDetails} (mem : new ∈ opening (s.phase w))
    (blocked : s.sendInsert w new p = none) : ∃ v, Waits s w v := by
  unfold Incidents.State.sendInsert at blocked
  split at blocked
  · rename_i contested
    obtain ⟨v, id, row, ne, wrote, keyed⟩ := Table.contested_eq_true contested
    exact ⟨v, .key new row id mem ne wrote (beq_iff_eq.mp keyed)⟩
  · split at blocked
    · cases blocked
    · rename_i id row found
      obtain ⟨seen, keyed⟩ := selectActive_some found
      exact absurd keyed ((on.absent new mem).2.2.2 seen)

/-- A reconciliation that cannot go on waits for another one. -/
theorem Reconciling.waits (on : Reconciling source s w transitions)
    (blocked : Incidents.advance s w = none) : ∃ v, Waits s w v := by
  unfold Incidents.advance at blocked
  split at blocked
  · rename_i phase
    exact absurd phase on.begun
  · cases blocked
  · cases blocked
  · rename_i other calls change rest new phase
    exact waits_of_sendUpdate (by rw [phase]; exact List.mem_cons_self) blocked
  · rename_i other calls new phase
    exact on.waits_of_sendInsert (by rw [phase]; rfl) blocked
  · rename_i change rest phase
    exact waits_of_sendUpdate (by rw [phase]; exact List.mem_cons_self) blocked
  · cases blocked

/-- A session that has a transition opens a latency incident at most. -/
theorem Reconciling.opening_latency (on : Reconciling source s w transitions) {entry : Transition}
    (returned : entry ∈ transitions) {new : Incident} (mem : new ∈ opening (s.phase w)) :
    new.triggerType = .latency := by
  have later : (transitions.map Prod.fst ++ awaited (s.phase w)).Pairwise
      fun _ b => b = .latency := .sublist on.order (by decide)
  refine (List.pairwise_append.mp later).2.2 _ (List.mem_map_of_mem returned) _ ?_
  rw [awaited, Option.mem_def.mp mem]
  exact List.mem_cons_self

/-- A session that has opened a latency incident waits for no one. -/
theorem Reconciling.not_waits (on : Reconciling source s w transitions)
    (opened : (.latency, "opened") ∈ transitions) : ¬ Waits s w v := by
  intro waits
  cases waits with
  | row change mem held =>
    rw [on.last opened] at mem
    cases mem
  | key new p id mem ne wrote keyed =>
    have none := nothing_after_latency on.order (List.mem_map_of_mem opened)
    rw [awaited, Option.mem_def.mp mem] at none
    cases none

/-- The row that takes the key of a new incident is a new row itself. -/
theorem Reconciling.opened_of_key (on : Reconciling source s w transitions)
    {others : List Transition} (other : Reconciling source s v others)
    (inv : Incidents.Invariant s) {new p : Incident} {id : Nat} (mem : new ∈ opening (s.phase w))
    (ne : v ≠ w) (wrote : s.incidents.pending v id = some p)
    (keyed : p.activeKey = some new.fingerprint) : (new.triggerType, "opened") ∈ others := by
  obtain ⟨-, -, name, unseen⟩ := on.absent new mem
  obtain ⟨coherent, evolves⟩ := inv.pending wrote
  have taken : ∀ row, s.incidents.rows.get id = some row → False := by
    intro row there
    have clean : s.incidents.pending w id = none := by
      refine Table.pending_eq_none ?_
      rw [s.incidents.held wrote]
      simpa using ne
    rcases (evolves row there).key with kept | none
    · exact unseen ((Table.visible_eq_rows clean).trans there) (kept.symm.trans keyed)
    · cases none.symm.trans keyed
  obtain ⟨entry, returned, written⟩ := other.written wrote
  have own := coherent.key_of_active (coherent.active_of_key (by rw [keyed]; simp))
  have named : new.fingerprint = p.fingerprint := Option.some.inj (keyed.symm.trans own)
  have trigger : entry.1 = new.triggerType :=
    fingerprint_injective source (written.fingerprint.symm.trans (named.symm.trans name))
  cases written with
  | opened triggerType id p => exact trigger ▸ returned
  | deduplicated triggerType id p row is there => exact (taken row there).elim
  | resolved triggerType id p row is there => exact (taken row there).elim

end Waiting

end ApiObservatory.Health.Overlap
