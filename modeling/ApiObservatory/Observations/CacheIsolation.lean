import ApiObservatory.Foundation.Alike
import ApiObservatory.Observations.Isolation
import ApiObservatory.Observations.Routes

/-
The read cache and row-level security.

Both cache layers are shared by all tenants. Two runs on databases that agree on the
rows of a tenant keep agreeing on them, so what the database answers the tenant is the
same in both; what the tenant gets is the same exactly when each of its reads that is
answered from the cache gets what the database would have answered
(`reads_isolated_iff`).
-/

namespace ApiObservatory.Observations

open Foundation

/-- The row-level policy for a tenant. -/
def visible (tenant : Int) (row : Observation) : Bool :=
  row.tenantId.isNone || row.tenantId == some tenant

abbrev Visible (tenant : Int) (row : Observation) : Prop := visible tenant row = true

/-- Databases with one registry and the same rows of a tenant. -/
structure Agree (tenant : Int) (db db' : ObservationDb) : Prop where
  sources : db.sources = db'.sources
  observations : Alike (Visible tenant) db.observations db'.observations

theorem policy_of_tenant {request : Request} {tenant : Int} (own : request.tenantId = some tenant)
    (row : Observation) : request.session.policy row = visible tenant row := by
  simp [Session.policy, Request.session, own, visible]

/-- A tenant does not see the rows of another one. -/
theorem invisible_of_tenant {tenant other : Int} {row : Observation}
    (owned : row.tenantId = some other) (differs : other ≠ tenant) : visible tenant row = false := by
  simp [visible, owned, differs]

/-! ### Writes of one row -/

/-- Only one row may have changed, and it keeps its tenant. -/
structure Framed (observationId : Nat) (db db' : ObservationDb) : Prop where
  sources : db'.sources = db.sources
  nextId : db'.observations.nextId = db.observations.nextId
  others : ∀ {id}, id ≠ observationId → db'.observations.get id = db.observations.get id
  tenant : ∀ {row'}, db'.observations.get observationId = some row' →
    ∃ row, db.observations.get observationId = some row ∧ row'.tenantId = row.tenantId

section Writes

variable {session : Session} {db db' : ObservationDb} {observationId : Nat} {now : Int}
  {row changed : Observation}

theorem framed_refl (observationId : Nat) (db : ObservationDb) : Framed observationId db db :=
  ⟨rfl, rfl, fun _ => rfl, fun {row'} stored => ⟨row', stored, rfl⟩⟩

/-- What a flush leaves under the id is the row it returns. -/
theorem flush_get_self (stored : db.observations.get observationId = some row) :
    (flush db observationId row changed now).1.observations.get observationId =
      some (flush db observationId row changed now).2 := by
  unfold flush
  split
  · exact stored
  · simp [stored]

theorem flush_snd :
    (flush db observationId row changed now).2 = (flush db' observationId row changed now).2 := by
  unfold flush
  split <;> rfl

theorem framed_flush (stored : db.observations.get observationId = some row)
    (kept : changed.tenantId = row.tenantId) :
    Framed observationId db (flush db observationId row changed now).1 := by
  refine ⟨?_, ?_, flush_others, fun {row'} found => ⟨row, stored, ?_⟩⟩
  · unfold flush; split <;> rfl
  · unfold flush; split <;> rfl
  · rw [flush_get_self stored, Option.some.injEq] at found
    subst found
    unfold flush
    split
    · rfl
    · exact kept

theorem framed_markProcessed :
    Framed observationId db (markProcessed session db observationId now).1 := by
  unfold markProcessed
  cases loaded : sessionGet session db observationId with
  | none => exact framed_refl _ _
  | some row => exact framed_flush (sessionGet_eq_some.mp loaded).1 rfl

theorem framed_softDeleteObservation :
    Framed observationId db (softDeleteObservation session db observationId now).1 := by
  unfold softDeleteObservation
  cases loaded : sessionGet session db observationId with
  | none => exact framed_refl _ _
  | some row =>
    simp only
    split
    · exact framed_refl _ _
    · exact framed_flush (sessionGet_eq_some.mp loaded).1 rfl

theorem framed_deleteObservation :
    Framed observationId db (deleteObservation session db observationId).1 := by
  unfold deleteObservation
  cases sessionGet session db observationId with
  | none => exact framed_refl _ _
  | some row =>
    refine ⟨rfl, rfl, Rows.get_remove_of_ne, fun found => ?_⟩
    rw [Rows.get_remove_self] at found
    cases found

/-- The database after an update that may fail. -/
def updated (session : Session) (db : ObservationDb) (observationId : Nat)
    (request : UpdateObservationRequest) (now : Int) : ObservationDb :=
  match updateObservation session db observationId request now with
  | .ok (db, _) => db
  | .error _ => db

theorem framed_updated {request : UpdateObservationRequest} :
    Framed observationId db (updated session db observationId request now) := by
  unfold updated updateObservation
  cases loaded : sessionGet session db observationId with
  | none => exact framed_refl _ _
  | some row =>
    simp only
    cases applied : request.apply db row with
    | error => exact framed_refl _ _
    | ok changed =>
      obtain ⟨sourceId, -, rfl⟩ := ok_of_map applied
      simp only
      split
      · rename_i result
        split at result
        · cases result
        · cases result
          exact framed_flush (sessionGet_eq_some.mp loaded).1 rfl
      · exact framed_refl _ _

/-- **Writes of one row** keep the agreement when they do the same to a visible row. -/
theorem agree_of_framed {tenant : Int} {db₁ db₁' : ObservationDb} (agree : Agree tenant db db')
    (framed : Framed observationId db db₁) (framed' : Framed observationId db' db₁')
    (same : ∀ row, visible tenant row = true → db.observations.get observationId = some row →
      db'.observations.get observationId = some row →
      db₁.observations.get observationId = db₁'.observations.get observationId) :
    Agree tenant db₁ db₁' := by
  have keeps : ∀ {row row' : Observation}, row'.tenantId = row.tenantId →
      visible tenant row' = true → visible tenant row = true := by
    intro row row' kept seen
    unfold visible at seen ⊢
    rwa [← kept]
  refine ⟨by rw [framed.sources, framed'.sources, agree.sources], ⟨?_, ?_⟩⟩
  · rw [framed.nextId, framed'.nextId, agree.observations.nextId]
  · intro id row seen
    by_cases here : id = observationId
    · subst here
      constructor
      · intro found
        obtain ⟨old, stored, kept⟩ := framed.tenant found
        have stored' := (agree.observations.rows (keeps kept seen)).mp stored
        rwa [← same old (keeps kept seen) stored stored']
      · intro found
        obtain ⟨old, stored', kept⟩ := framed'.tenant found
        have stored := (agree.observations.rows (keeps kept seen)).mpr stored'
        rwa [same old (keeps kept seen) stored stored']
    · rw [framed.others here, framed'.others here]
      exact agree.observations.rows seen

theorem sessionGet_congr
    (same : db.observations.get observationId = db'.observations.get observationId) :
    sessionGet session db observationId = sessionGet session db' observationId := by
  unfold sessionGet
  rw [same]

end Writes

/-! ### Inserts -/

section Inserts

variable {tenant : Int} {table table' : Rows Observation} {row : Observation}

theorem keyTaken_insert (new : Observation) :
    keyTaken (table.insert new) row =
      (keyTaken table row || (new.sourceId == row.sourceId && new.timestamp == row.timestamp)) := by
  simp [keyTaken, Rows.toList_insert]

/-- Inserts that meet the same refusals keep the agreement. -/
theorem insertAll_agree {rows : List Observation} (agree : Alike (Visible tenant) table table')
    (taken : ∀ row ∈ rows, keyTaken table row = keyTaken table' row) :
    (insertAll rows table).2 = (insertAll rows table').2 ∧
      Alike (Visible tenant) (insertAll rows table).1 (insertAll rows table').1 := by
  induction rows generalizing table table' with
  | nil => exact ⟨rfl, agree⟩
  | cons row rest ih =>
    have here := taken row List.mem_cons_self
    have later := ih (agree.insert row) fun other mem => by
      rw [keyTaken_insert, keyTaken_insert, taken other (List.mem_cons_of_mem _ mem)]
    unfold insertAll
    rw [← here]
    cases keyTaken table row with
    | true => exact ⟨rfl, agree.reserve⟩
    | false =>
      simp only [Bool.false_eq_true, if_false]
      obtain ⟨flag, tables⟩ := later
      cases first : insertAll rest (table.insert row) with
      | mk inserted complete =>
        cases second : insertAll rest (table'.insert row) with
        | mk inserted' complete' =>
          rw [first, second] at flag tables
          simp only at flag tables
          subst flag
          cases complete with
          | true => exact ⟨rfl, tables⟩
          | false =>
            refine ⟨rfl, ?_, agree.rows⟩
            simp only [Rows.reserveTo, agree.nextId, tables.nextId]

/-- A single row the tenant does not see may be refused in one table only. -/
theorem insertAll_agree_hidden {rows : List Observation} (agree : Alike (Visible tenant) table table')
    (single : rows.length ≤ 1) (hidden : ∀ row ∈ rows, visible tenant row = false) :
    Alike (Visible tenant) (insertAll rows table).1 (insertAll rows table').1 := by
  cases rows with
  | nil => exact agree
  | cons row rest =>
    have none_left : rest = [] :=
      List.length_eq_zero_iff.mp (Nat.le_zero.mp (Nat.le_of_succ_le_succ single))
    subst none_left
    have unseen : ¬ visible tenant row = true := by simp [hidden row List.mem_cons_self]
    simp only [insertAll]
    split
    · split
      · exact agree.reserve
      · exact (agree.symm.insert_reserve unseen).symm
    · split
      · exact agree.insert_reserve unseen
      · exact agree.insert row

end Inserts

/-! ### Requests -/

/-- No row the tenant does not see has the key. -/
def KeyFree (tenant : Int) (table : Rows Observation) (row : Observation) : Prop :=
  ∀ id other, table.get id = some other → visible tenant other = false →
    ¬ (other.sourceId = row.sourceId ∧ other.timestamp = row.timestamp)

/-- Rows the tenant does not see do not refuse a write: neither a create or an update of
a row the tenant sees, nor a batch, whose refusal shows in the ids that follow. -/
def Unblocked {Response : Type} (tenant : Int) (state : State Response) (request : Request) : Prop :=
  match request.action with
  | .create requests =>
      (request.tenantId = none ∨ request.tenantId = some tenant ∨ 1 < requests.length) →
        ∀ rows, newRows request.session state.db requests request.now = .ok rows →
          ∀ row ∈ rows, KeyFree tenant state.db.observations row
  | .update observationId patch =>
      ∀ row changed, sessionGet request.session state.db observationId = some row →
        visible tenant row = true → patch.apply state.db row = .ok changed →
          KeyFree tenant state.db.observations changed
  | _ => True

section Requests

variable {Response : Type} {validate : Nat → Observation → Response} {tenant : Int}
  {state state' : State Response} {request : Request} {db db' : ObservationDb} {row : Observation}

theorem keyTaken_congr (agree : Alike (Visible tenant) db.observations db'.observations)
    (free : KeyFree tenant db.observations row) (free' : KeyFree tenant db'.observations row) :
    keyTaken db.observations row = keyTaken db'.observations row := by
  rw [Bool.eq_iff_iff, keyTaken_iff, keyTaken_iff]
  refine exists_congr fun id => exists_congr fun other => and_congr_left fun key => ?_
  cases seen : visible tenant other with
  | true => exact agree.rows seen
  | false =>
    exact iff_of_false (fun stored => free id other stored seen key)
      fun stored => free' id other stored seen key

theorem timestampTaken_iff {observationId : Nat} :
    timestampTaken db observationId row = true ↔ ∃ id other, id ≠ observationId ∧
      db.observations.get id = some other ∧ other.sourceId = row.sourceId ∧
        other.timestamp = row.timestamp := by
  simp [timestampTaken, Rows.mem_toList, and_assoc, and_left_comm]

theorem timestampTaken_congr (observationId : Nat)
    (agree : Alike (Visible tenant) db.observations db'.observations)
    (free : KeyFree tenant db.observations row) (free' : KeyFree tenant db'.observations row) :
    timestampTaken db observationId row = timestampTaken db' observationId row := by
  rw [Bool.eq_iff_iff, timestampTaken_iff, timestampTaken_iff]
  refine exists_congr fun id => exists_congr fun other =>
    and_congr_right fun _ => and_congr_left fun key => ?_
  cases seen : visible tenant other with
  | true => exact agree.rows seen
  | false =>
    exact iff_of_false (fun stored => free id other stored seen key)
      fun stored => free' id other stored seen key

theorem resolveSourceId_congr (sources : db.sources = db'.sources) :
    resolveSourceId db = resolveSourceId db' := by
  unfold resolveSourceId
  rw [sources]

theorem apply_congr (sources : db.sources = db'.sources) (patch : UpdateObservationRequest)
    (row : Observation) : patch.apply db row = patch.apply db' row := by
  unfold UpdateObservationRequest.apply
  rw [resolveSourceId_congr sources]

theorem newRows_congr {session : Session} (sources : db.sources = db'.sources)
    (requests : List ObservationRequest) (now : Int) :
    newRows session db requests now = newRows session db' requests now := by
  unfold newRows
  rw [resolveSourceId_congr sources]

/-- The rows of a create belong to its caller. -/
theorem newRows_spec {session : Session} {requests : List ObservationRequest} {now : Int}
    {rows : List Observation} (built : newRows session db requests now = .ok rows) :
    rows.length = requests.length ∧ ∀ row ∈ rows, row.tenantId = session.tenantId := by
  unfold newRows at built
  induction requests generalizing rows with
  | nil =>
    cases built
    exact ⟨rfl, fun row mem => absurd mem List.not_mem_nil⟩
  | cons request rest ih =>
    rw [List.mapM_cons] at built
    obtain ⟨row, one, built⟩ := ok_of_bind built
    obtain ⟨later, others, built⟩ := ok_of_bind built
    cases built
    obtain ⟨length, owned⟩ := ih others
    obtain ⟨sourceId, -, rfl⟩ := ok_of_map one
    refine ⟨congrArg (· + 1) length, fun row mem => ?_⟩
    rcases List.mem_cons.mp mem with rfl | mem
    · rfl
    · exact owned row mem

/-! ### What a request does to the table -/

theorem getObservationEndpoint_db {session : Session} {observationId : Nat} {now : Int}
    {faults : RedisFaults} :
    (getObservationEndpoint validate state session observationId now faults).1.db = state.db := by
  unfold getObservationEndpoint
  cases state.caches.getObservationWithLru observationId now faults with
  | mk answer caches =>
    cases answer with
    | some response => rfl
    | none => cases getObservation session state.db observationId <;> rfl

theorem updateObservationEndpoint_db {session : Session} {observationId : Nat} {now : Int}
    {patch : UpdateObservationRequest} :
    (updateObservationEndpoint validate state session observationId now patch).1.db =
      updated session state.db observationId patch now := by
  unfold updateObservationEndpoint updated
  cases updateObservation session state.db observationId patch now with
  | error => rfl
  | ok result =>
    obtain ⟨db, answer⟩ := result
    cases answer <;> rfl

theorem processObservation_db {session : Session} {observationId : Nat} {now : Int}
    {faults : RedisFaults} :
    (processObservation validate state session observationId now faults).1.db =
      (markProcessed session state.db observationId now).1 := by
  unfold processObservation
  cases markProcessed session state.db observationId now with
  | mk db answer => cases answer <;> rfl

theorem archiveObservation_db {session : Session} {observationId : Nat} {now : Int} :
    (archiveObservation validate state session observationId now).1.db =
      (softDeleteObservation session state.db observationId now).1 := by
  unfold archiveObservation
  cases softDeleteObservation session state.db observationId now with
  | mk db answer => cases answer <;> rfl

theorem deleteObservationEndpoint_db {session : Session} {observationId : Nat}
    {faults : RedisFaults} :
    (deleteObservationEndpoint state session observationId faults).1.db =
      (deleteObservation session state.db observationId).1 := by
  unfold deleteObservationEndpoint
  cases deleteObservation session state.db observationId with
  | mk db answer => cases answer <;> rfl

theorem createObservationEndpoint_db (state : State Response) (session : Session)
    (requests : List ObservationRequest) (now : Int) :
    (createObservationEndpoint state session now requests).1.db =
      (createObservations session state.db requests now).1 := by
  unfold createObservationEndpoint
  cases createObservations session state.db requests now with
  | mk db result => cases result <;> rfl

/-! ### The agreement is kept -/

theorem agree_markProcessed {session : Session} {observationId : Nat} {now : Int}
    (agree : Agree tenant db db') :
    Agree tenant (markProcessed session db observationId now).1
      (markProcessed session db' observationId now).1 := by
  refine agree_of_framed agree framed_markProcessed framed_markProcessed
    fun row _ stored stored' => ?_
  unfold markProcessed
  rw [← sessionGet_congr (stored.trans stored'.symm)]
  cases loaded : sessionGet session db observationId with
  | none => exact stored.trans stored'.symm
  | some found =>
    cases stored.symm.trans (sessionGet_eq_some.mp loaded).1
    simp only [flush_get_self stored, flush_get_self stored', Option.some.injEq]
    exact flush_snd

theorem agree_softDeleteObservation {session : Session} {observationId : Nat} {now : Int}
    (agree : Agree tenant db db') :
    Agree tenant (softDeleteObservation session db observationId now).1
      (softDeleteObservation session db' observationId now).1 := by
  refine agree_of_framed agree framed_softDeleteObservation framed_softDeleteObservation
    fun row _ stored stored' => ?_
  unfold softDeleteObservation
  rw [← sessionGet_congr (stored.trans stored'.symm)]
  cases loaded : sessionGet session db observationId with
  | none => exact stored.trans stored'.symm
  | some found =>
    cases stored.symm.trans (sessionGet_eq_some.mp loaded).1
    simp only
    split
    · exact stored.trans stored'.symm
    · simp only [flush_get_self stored, flush_get_self stored', Option.some.injEq]
      exact flush_snd

theorem agree_deleteObservation {session : Session} {observationId : Nat}
    (agree : Agree tenant db db') :
    Agree tenant (deleteObservation session db observationId).1
      (deleteObservation session db' observationId).1 := by
  refine agree_of_framed agree framed_deleteObservation framed_deleteObservation
    fun row _ stored stored' => ?_
  unfold deleteObservation
  rw [← sessionGet_congr (stored.trans stored'.symm)]
  cases sessionGet session db observationId with
  | none => exact stored.trans stored'.symm
  | some found => simp only [Rows.get_remove_self]

theorem agree_updated {session : Session} {observationId : Nat} {now : Int}
    {patch : UpdateObservationRequest} (agree : Agree tenant db db')
    (free : ∀ row changed, sessionGet session db observationId = some row →
      visible tenant row = true → patch.apply db row = .ok changed →
        KeyFree tenant db.observations changed)
    (free' : ∀ row changed, sessionGet session db' observationId = some row →
      visible tenant row = true → patch.apply db' row = .ok changed →
        KeyFree tenant db'.observations changed) :
    Agree tenant (updated session db observationId patch now)
      (updated session db' observationId patch now) := by
  refine agree_of_framed agree framed_updated framed_updated fun row seen stored stored' => ?_
  have loads : sessionGet session db observationId = sessionGet session db' observationId :=
    sessionGet_congr (stored.trans stored'.symm)
  unfold updated updateObservation
  rw [← loads]
  cases loaded : sessionGet session db observationId with
  | none => exact stored.trans stored'.symm
  | some found =>
    cases stored.symm.trans (sessionGet_eq_some.mp loaded).1
    simp only [← apply_congr agree.sources patch row]
    cases applied : patch.apply db row with
    | error => exact stored.trans stored'.symm
    | ok changed =>
      have taken := timestampTaken_congr observationId agree.observations
        (free row changed loaded seen applied)
        (free' row changed (loads.symm.trans loaded) seen
          ((apply_congr agree.sources patch row).symm.trans applied))
      simp only [← taken]
      by_cases refused : changed ≠ row ∧ timestampTaken db observationId changed = true
      · rw [if_pos refused, if_pos refused]
        exact stored.trans stored'.symm
      · rw [if_neg refused, if_neg refused]
        simp only [flush_get_self stored, flush_get_self stored', Option.some.injEq]
        exact flush_snd

theorem agree_createObservations {session : Session} {requests : List ObservationRequest}
    {now : Int} (agree : Agree tenant db db')
    (free : (session.tenantId = none ∨ session.tenantId = some tenant ∨ 1 < requests.length) →
      ∀ rows, newRows session db requests now = .ok rows →
        ∀ row ∈ rows, KeyFree tenant db.observations row ∧ KeyFree tenant db'.observations row) :
    Agree tenant (createObservations session db requests now).1
      (createObservations session db' requests now).1 := by
  unfold createObservations
  rw [← newRows_congr agree.sources]
  cases built : newRows session db requests now with
  | error => exact agree
  | ok rows =>
    have tables : Alike (Visible tenant) (insertAll rows db.observations).1
        (insertAll rows db'.observations).1 := by
      by_cases shown : session.tenantId = none ∨ session.tenantId = some tenant ∨
          1 < requests.length
      · refine (insertAll_agree agree.observations fun row mem => ?_).2
        obtain ⟨here, there⟩ := free shown rows built row mem
        exact keyTaken_congr agree.observations here there
      · obtain ⟨length, owned⟩ := newRows_spec built
        simp only [not_or, Nat.not_lt] at shown
        obtain ⟨owner, hasOwner⟩ := Option.ne_none_iff_exists'.mp shown.1
        refine insertAll_agree_hidden agree.observations (length ▸ shown.2.2) fun row mem => ?_
        refine invisible_of_tenant ((owned row mem).trans hasOwner) fun same => shown.2.1 ?_
        rw [hasOwner, same]
    cases first : insertAll rows db.observations with
    | mk inserted complete =>
      cases second : insertAll rows db'.observations with
      | mk inserted' complete' =>
        rw [first, second] at tables
        simp only [first, second]
        cases complete <;> cases complete' <;> exact ⟨agree.sources, tables⟩

/-- **One request** keeps the agreement. -/
theorem handle_agree (agree : Agree tenant state.db state'.db)
    (free : Unblocked tenant state request) (free' : Unblocked tenant state' request) :
    Agree tenant (handle validate state request).1.db (handle validate state' request).1.db := by
  unfold handle
  unfold Unblocked at free free'
  cases action : request.action with
  | create requests =>
    simp only [action] at free free'
    simp only [createObservationEndpoint_db]
    refine agree_createObservations agree fun shown rows built row mem => ⟨?_, ?_⟩
    · exact free shown rows built row mem
    · exact free' shown rows ((newRows_congr agree.sources _ _).symm.trans built) row mem
  | get observationId =>
    simp only [getObservationEndpoint_db]
    exact agree
  | update observationId patch =>
    simp only [action] at free free'
    simp only [updateObservationEndpoint_db]
    exact agree_updated agree free free'
  | process observationId =>
    simp only [processObservation_db]
    exact agree_markProcessed agree
  | archive observationId =>
    simp only [archiveObservation_db]
    exact agree_softDeleteObservation agree
  | delete observationId =>
    simp only [deleteObservationEndpoint_db]
    exact agree_deleteObservation agree

end Requests

/-! ### Reads -/

section Reads

variable {Response : Type} (validate : Nat → Observation → Response) (tenant : Int)

/-- The reads of a tenant. -/
def observed (request : Request) : Bool :=
  match request.action with
  | .get _ => request.tenantId == some tenant
  | _ => false

/-- A read of the tenant that is answered from the cache gets what its own read of the
database gives. -/
def Coherent (state : State Response) (request : Request) : Prop :=
  ∀ observationId, request.tenantId = some tenant → request.action = .get observationId →
    ∀ response, state.caches.found observationId request.now request.faults = some response →
      ∃ row, getObservation request.session state.db observationId = some row ∧
        validate observationId row = response

/-- The state with empty caches. -/
def start (db : ObservationDb) : State Response := { db, caches := Caches.empty }

variable {validate tenant} {state state' : State Response} {request : Request}
  {db db' : ObservationDb}

/-- What the database answers a read. -/
def databaseAnswer (validate : Nat → Observation → Response) (session : Session)
    (db : ObservationDb) (observationId : Nat) : Answer Response :=
  match getObservation session db observationId with
  | none => .notFound
  | some row => .ok (validate observationId row)

theorem getObservationEndpoint_snd {session : Session} {observationId : Nat} {now : Int}
    {faults : RedisFaults} :
    (getObservationEndpoint validate state session observationId now faults).2 =
      match state.caches.found observationId now faults with
      | some response => .ok response
      | none => databaseAnswer validate session state.db observationId := by
  rw [← Caches.getObservationWithLru_fst]
  unfold getObservationEndpoint databaseAnswer
  cases state.caches.getObservationWithLru observationId now faults with
  | mk answer caches =>
    cases answer with
    | some response => rfl
    | none => cases getObservation session state.db observationId <;> rfl

/-- A read gets the answer of the database exactly when it is coherent. -/
theorem answer_iff_coherent {observationId : Nat} (own : request.tenantId = some tenant)
    (action : request.action = .get observationId) :
    (handle validate state request).2 =
        databaseAnswer validate request.session state.db observationId ↔
      Coherent validate tenant state request := by
  have this_read : Coherent validate tenant state request ↔
      ∀ response, state.caches.found observationId request.now request.faults = some response →
        ∃ row, getObservation request.session state.db observationId = some row ∧
          validate observationId row = response := by
    refine ⟨fun coherent => coherent observationId own action, fun coherent id _ other => ?_⟩
    cases action.symm.trans other
    exact coherent
  rw [this_read]
  unfold handle
  simp only [action, getObservationEndpoint_snd]
  unfold databaseAnswer
  cases state.caches.found observationId request.now request.faults with
  | none => simp
  | some response =>
    cases getObservation request.session state.db observationId with
    | none => simp
    | some row => simp [eq_comm]

theorem databaseAnswer_agree (agree : Agree tenant db db') (own : request.tenantId = some tenant)
    (observationId : Nat) :
    databaseAnswer validate request.session db observationId =
      databaseAnswer validate request.session db' observationId := by
  have same : getObservation request.session db observationId =
      getObservation request.session db' observationId := by
    ext row
    simp only [getObservation, Option.filter_eq_some_iff, policy_of_tenant own, Bool.and_eq_true]
    exact and_congr_left fun selected => agree.observations.rows selected.1
  unfold databaseAnswer
  rw [same]

/-- **The read cache and row-level security.** Take two databases that agree on the rows of
a tenant, and requests of any callers. If the reads of the tenant are coherent in the second
run, it gets the same answers in both exactly when they are coherent in the first. -/
theorem reads_isolated_iff (agree : Agree tenant db db') {requests : List Request}
    (free : Every (handle validate) (Unblocked tenant) (start db) requests)
    (free' : Every (handle validate) (Unblocked tenant) (start db') requests)
    (coherent : Every (handle validate) (Coherent validate tenant) (start db') requests) :
    outputs (handle validate) (observed tenant) (start db) requests =
        outputs (handle validate) (observed tenant) (start db') requests ↔
      Every (handle validate) (Coherent validate tenant) (start db) requests := by
  refine outputs_eq_iff (R := fun s t => Agree tenant s.db t.db) ?_ ?_ ?_ agree free free' coherent
  · intro s t request agree free free'
    exact handle_agree agree free free'
  · intro s t request agree seen clean
    unfold observed at seen
    cases action : request.action with
    | get observationId =>
      simp only [action, beq_iff_eq] at seen
      rw [(answer_iff_coherent seen action).mpr clean,
        ← databaseAnswer_agree agree seen observationId]
      exact answer_iff_coherent seen action
    | create | update | process | archive | delete => simp [action] at seen
  · intro s request unseen observationId own action
    simp [observed, own, action] at unseen

end Reads

/-! ### Coherent reads

The cache cannot leak while it holds current rows of the tenant only: then no read may
fill it with another row, no cached row may be updated or archived, and no invalidation
may fail.
-/

section Sharing

variable {Response : Type} (validate : Nat → Observation → Response) (tenant : Int)

/-- The response is that of a current row of the tenant. -/
def Current (db : ObservationDb) (observationId : Nat) (response : Response) : Prop :=
  ∃ row, db.observations.get observationId = some row ∧ row.deletedAt = none ∧
    visible tenant row = true ∧ validate observationId row = response

/-- Everything in the cache is current. -/
structure Fresh (state : State Response) : Prop where
  lru : ∀ {id response}, state.caches.lru.lookup id = some response →
    Current validate tenant state.db id response
  redis : ∀ {id response expires}, state.caches.redis id = some (response, expires) →
    Current validate tenant state.db id response

/-- The requests that keep it so. -/
def Shared (state : State Response) (request : Request) : Prop :=
  match request.action with
  | .create _ => True
  | .get observationId => ∀ row,
      getObservation request.session state.db observationId = some row → visible tenant row = true
  | .update observationId _ | .archive observationId =>
      state.caches.lru.lookup observationId = none ∧ state.caches.redis observationId = none
  | .process _ | .delete _ => request.faults.delete = false

variable {validate tenant} {state : State Response} {request : Request} {db : ObservationDb}

/-- A write of one row keeps a cache that holds nothing under its id fresh. -/
theorem Fresh.of_framed {observationId : Nat} {caches : Caches Response}
    (fresh : Fresh validate tenant state) (framed : Framed observationId state.db db)
    (lru : ∀ {id response}, caches.lru.lookup id = some response →
      id ≠ observationId ∧ state.caches.lru.lookup id = some response)
    (redis : ∀ {id entry}, caches.redis id = some entry →
      id ≠ observationId ∧ state.caches.redis id = some entry) :
    Fresh validate tenant { db, caches } := by
  have current : ∀ {id response}, id ≠ observationId → Current validate tenant state.db id response →
      Current validate tenant db id response := by
    rintro id response other ⟨row, stored, rest⟩
    exact ⟨row, (framed.others other).trans stored, rest⟩
  constructor
  · intro id response cached
    exact current (lru cached).1 (fresh.lru (lru cached).2)
  · intro id response expires cached
    exact current (redis cached).1 (fresh.redis (redis cached).2)

theorem fresh_invalidated {observationId : Nat} (fresh : Fresh validate tenant state)
    (framed : Framed observationId state.db db) {faults : RedisFaults}
    (answers : faults.delete = false) :
    Fresh validate tenant
      { db, caches := state.caches.invalidateObservationAllLayers observationId faults } := by
  refine fresh.of_framed framed (fun {id response} cached => ?_) fun {id entry} cached => ?_
  · simp only [Caches.invalidateObservationAllLayers, Lru.lookup_invalidate] at cached
    split at cached
    · cases cached
    · exact ⟨‹_›, cached⟩
  · simp only [Caches.invalidateObservationAllLayers, answers, Bool.false_eq_true, if_false] at cached
    by_cases here : id = observationId
    · subst here
      rw [Function.update_self] at cached
      cases cached
    · rw [Function.update_of_ne here] at cached
      exact ⟨here, cached⟩

theorem fresh_uncached {observationId : Nat} (fresh : Fresh validate tenant state)
    (framed : Framed observationId state.db db)
    (uncached : state.caches.lru.lookup observationId = none ∧
      state.caches.redis observationId = none) :
    Fresh validate tenant { db, caches := state.caches } := by
  refine fresh.of_framed framed (fun {id response} cached => ⟨?_, cached⟩)
    fun {id entry} cached => ⟨?_, cached⟩
  · rintro rfl
    rw [uncached.1] at cached
    cases cached
  · rintro rfl
    rw [uncached.2] at cached
    cases cached

theorem createObservationEndpoint_caches (state : State Response) (session : Session)
    (requests : List ObservationRequest) (now : Int) :
    (createObservationEndpoint state session now requests).1.caches = state.caches := by
  unfold createObservationEndpoint
  cases createObservations session state.db requests now with
  | mk db result => cases result <;> rfl

theorem fresh_create (fresh : Fresh validate tenant state) {session : Session}
    {requests : List ObservationRequest} {now : Int} :
    Fresh validate tenant (createObservationEndpoint state session now requests).1 := by
  constructor
  · intro id response cached
    rw [createObservationEndpoint_caches] at cached
    obtain ⟨row, stored, rest⟩ := fresh.lru cached
    exact ⟨row, createObservationEndpoint_db state _ _ _ ▸ createObservations_kept stored, rest⟩
  · intro id response expires cached
    rw [createObservationEndpoint_caches] at cached
    obtain ⟨row, stored, rest⟩ := fresh.redis cached
    exact ⟨row, createObservationEndpoint_db state _ _ _ ▸ createObservations_kept stored, rest⟩

theorem fresh_getObservationWithLru (fresh : Fresh validate tenant state) (observationId : Nat)
    (now : Int) (faults : RedisFaults) :
    Fresh validate tenant
      { state with caches := (state.caches.getObservationWithLru observationId now faults).2 } := by
  unfold Caches.getObservationWithLru
  have order : ∀ {id response},
      (state.caches.lru.get observationId).2.lookup id = some response →
        state.caches.lru.lookup id = some response := Lru.lookup_get
  cases looked : state.caches.lru.get observationId with
  | mk answer lru =>
    rw [looked] at order
    cases answer with
    | some response => exact ⟨fun cached => fresh.lru (order cached), fresh.redis⟩
    | none =>
      cases found : state.caches.getObservation observationId now faults with
      | none => exact fresh
      | some response =>
        refine ⟨fun {id stored} cached => ?_, fresh.redis⟩
        rcases Lru.lookup_put cached with ⟨rfl, rfl⟩ | ⟨-, before⟩
        · obtain ⟨expires, entry⟩ := Caches.getObservation_eq_some found
          exact fresh.redis entry
        · exact fresh.lru before

theorem fresh_setObservation (fresh : Fresh validate tenant state) {observationId : Nat} {now : Int}
    {faults : RedisFaults} {response : Response}
    (current : Current validate tenant state.db observationId response) :
    Fresh validate tenant
      { state with caches := state.caches.setObservation observationId now faults response } := by
  unfold Caches.setObservation
  split
  · exact fresh
  · refine ⟨fresh.lru, fun {id stored expires} cached => ?_⟩
    by_cases here : id = observationId
    · subst here
      simp only [Function.update_self, Option.some.injEq, Prod.mk.injEq] at cached
      exact cached.1 ▸ current
    · simp only [Function.update_of_ne here] at cached
      exact fresh.redis cached

theorem fresh_get (fresh : Fresh validate tenant state) {session : Session} {observationId : Nat}
    {now : Int} {faults : RedisFaults}
    (own : ∀ row, getObservation session state.db observationId = some row →
      visible tenant row = true) :
    Fresh validate tenant
      (getObservationEndpoint validate state session observationId now faults).1 := by
  have looked := fresh_getObservationWithLru fresh observationId now faults
  unfold getObservationEndpoint
  cases answered : state.caches.getObservationWithLru observationId now faults with
  | mk answer caches =>
    rw [answered] at looked
    cases answer with
    | some response => exact looked
    | none =>
      cases read : getObservation session state.db observationId with
      | none => exact looked
      | some row =>
        obtain ⟨stored, selected⟩ := Option.filter_eq_some_iff.mp read
        simp only [Bool.and_eq_true, Option.isNone_iff_eq_none] at selected
        exact fresh_setObservation looked ⟨row, stored, selected.2, own row read, rfl⟩

theorem fresh_handle (fresh : Fresh validate tenant state)
    (shared : Shared tenant state request) :
    Fresh validate tenant (handle validate state request).1 := by
  unfold handle
  unfold Shared at shared
  cases action : request.action with
  | create requests => exact fresh_create fresh
  | get observationId =>
    simp only [action] at shared
    exact fresh_get fresh shared
  | update observationId patch =>
    simp only [action] at shared
    have framed : Framed observationId state.db
        (updated request.session state.db observationId patch request.now) := framed_updated
    have after := fresh_uncached fresh framed shared
    simp only [updateObservationEndpoint]
    unfold updated at after
    cases result : updateObservation request.session state.db observationId patch request.now with
    | error => exact fresh
    | ok result' =>
      obtain ⟨db, answer⟩ := result'
      rw [result] at after
      cases answer <;> exact after
  | process observationId =>
    simp only [action] at shared
    have framed : Framed observationId state.db
        (markProcessed request.session state.db observationId request.now).1 :=
      framed_markProcessed
    simp only [processObservation]
    unfold markProcessed at framed ⊢
    cases loaded : sessionGet request.session state.db observationId with
    | none => exact fresh
    | some row =>
      rw [loaded] at framed
      exact fresh_invalidated fresh framed shared
  | archive observationId =>
    simp only [action] at shared
    have framed : Framed observationId state.db
        (softDeleteObservation request.session state.db observationId request.now).1 :=
      framed_softDeleteObservation
    have after := fresh_uncached fresh framed shared
    simp only [archiveObservation]
    cases result : softDeleteObservation request.session state.db observationId request.now with
    | mk db answer =>
      rw [result] at after
      cases answer <;> exact after
  | delete observationId =>
    simp only [action] at shared
    have framed : Framed observationId state.db
        (deleteObservation request.session state.db observationId).1 := framed_deleteObservation
    simp only [deleteObservationEndpoint]
    unfold deleteObservation at framed ⊢
    cases loaded : sessionGet request.session state.db observationId with
    | none => exact fresh
    | some row =>
      rw [loaded] at framed
      exact fresh_invalidated fresh framed shared

/-- A fresh cache answers a read of the tenant as the database does. -/
theorem coherent_of_fresh (fresh : Fresh validate tenant state) :
    Coherent validate tenant state request := by
  intro observationId own _ response found
  have current : Current validate tenant state.db observationId response := by
    unfold Caches.found at found
    cases cached : state.caches.lru.lookup observationId with
    | some stored =>
      rw [cached] at found
      cases found
      exact fresh.lru cached
    | none =>
      rw [cached, Option.none_or] at found
      obtain ⟨expires, entry⟩ := Caches.getObservation_eq_some found
      exact fresh.redis entry
  obtain ⟨row, stored, alive, seen, same⟩ := current
  refine ⟨row, Option.filter_eq_some_iff.mpr ⟨stored, ?_⟩, same⟩
  rw [policy_of_tenant own, seen, alive]
  rfl

/-- **Requests that share** the rows of one tenant only keep its reads coherent. -/
theorem coherent_of_shared {requests : List Request}
    (shared : Every (handle validate) (Shared tenant) (start db) requests) :
    Every (handle validate) (Coherent validate tenant) (start db) requests :=
  shared.of_invariant (I := Fresh validate tenant)
    ⟨fun cached => (by cases cached), fun cached => (by cases cached)⟩
    (fun fresh shared => fresh_handle fresh shared) fun fresh _ => coherent_of_fresh fresh

end Sharing

/-! ### Two tenants and one cache -/

/-- The only observation is one of tenant 1. -/
def oneObservation : ObservationDb where
  observations := Rows.single 1
    { sourceId := 1, timestamp := 0, rawData := .object [("value", .number "7")], tenantId := some 1 }
  sources := Rows.empty

def noObservation : ObservationDb := { observations := Rows.empty.reserve, sources := Rows.empty }

def getOne (tenant : Int) : Request := { tenantId := some tenant, action := .get 1 }

theorem observation_hidden : Agree 2 oneObservation noObservation := by
  refine ⟨rfl, rfl, fun {id row} seen => iff_of_false (fun stored => ?_) fun stored => by cases stored⟩
  by_cases here : id = 1
  · subst here
    cases (Rows.get_single 1 _).symm.trans stored
    simp [Visible, visible] at seen
  · simp [oneObservation, Rows.single, here] at stored

/-- Tenant 2 reads first: it finds nothing in either database. -/
theorem reads_isolated_first :
    outputs (handle Prod.mk) (observed 2) (start oneObservation) [getOne 2, getOne 1] =
        outputs (handle Prod.mk) (observed 2) (start noObservation) [getOne 2, getOne 1] ↔
      Every (handle Prod.mk) (Coherent Prod.mk 2) (start oneObservation) [getOne 2, getOne 1] :=
  reads_isolated_iff observation_hidden ⟨trivial, trivial, trivial⟩ ⟨trivial, trivial, trivial⟩
    ⟨fun _ _ same _ cached => (by cases same; cases cached), fun _ own => (by cases own), trivial⟩

/-- Tenant 1 reads its row; tenant 2 gets it from the cache. -/
theorem cached_row_leaked :
    ¬ ∀ db db' : ObservationDb, Agree 2 db db' → ∀ requests : List Request,
      outputs (handle Prod.mk) (observed 2) (start db) requests =
        outputs (handle Prod.mk) (observed 2) (start db') requests := by
  intro isolated
  have same := isolated _ _ observation_hidden [getOne 1, getOne 2]
  have leaked : outputs (handle Prod.mk) (observed 2) (start oneObservation) [getOne 1, getOne 2] ≠
      outputs (handle Prod.mk) (observed 2) (start noObservation) [getOne 1, getOne 2] := by decide
  exact leaked same

end ApiObservatory.Observations
