import ApiObservatory.Foundation.Run
import ApiObservatory.Observations.CacheIsolation

/-
The read cache and the table, one request after another.

Process and delete drop the copies of an observation, update and archive do not. So a GET is
answered as the database answers it exactly as long as no update changes, and no archive hides,
an observation that a layer holds a copy of (`truthful_iff_harmless`).
-/

namespace ApiObservatory.Observations

open Foundation

/-- A request whose calls of Redis all succeed. -/
structure Call where
  session : Session
  now : Int
  action : Action
deriving DecidableEq

/-- One request; `handle` with any session. -/
def serve {Response : Type} (validate : Nat → Observation → Response) (state : State Response)
    (call : Call) : State Response × Answer Response :=
  match call.action with
  | .create requests => createObservationEndpoint state call.session call.now requests
  | .get observationId =>
      getObservationEndpoint validate state call.session observationId call.now {}
  | .update observationId patch =>
      updateObservationEndpoint validate state call.session observationId call.now patch
  | .process observationId =>
      processObservation validate state call.session observationId call.now {}
  | .archive observationId =>
      archiveObservation validate state call.session observationId call.now
  | .delete observationId => deleteObservationEndpoint state call.session observationId {}

theorem handle_eq_serve {Response : Type} (validate : Nat → Observation → Response)
    (state : State Response) (request : Request) (works : request.faults = {}) :
    handle validate state request =
      serve validate state { request with session := request.session } := by
  unfold handle serve
  cases request.action <;> rw [works]

/-! ### The copies in the two layers -/

section Copies

variable {Response : Type} {caches : Caches Response} {observationId id : Nat} {now later : Int}
  {response stored : Response}

/-- A layer holds the response. -/
def Copy (caches : Caches Response) (now : Int) (id : Nat) (response : Response) : Prop :=
  caches.lru.lookup id = some response ∨
    ∃ expires, caches.redis id = some (response, expires) ∧ now < expires

/-- The layers do not hold different responses. -/
def Layered (caches : Caches Response) : Prop :=
  ∀ id response stored expires, caches.lru.lookup id = some response →
    caches.redis id = some (stored, expires) → response = stored

theorem getObservation_eq_some_iff :
    caches.getObservation id now {} = some response ↔
      ∃ expires, caches.redis id = some (response, expires) ∧ now < expires := by
  unfold Caches.getObservation
  simp only [Bool.false_eq_true, if_false]
  cases entry : caches.redis id with
  | none => simp
  | some kept =>
    obtain ⟨stored, expires⟩ := kept
    by_cases live : now < expires
    · simp only [if_pos live, Option.some.injEq, Prod.mk.injEq]
      constructor
      · intro same
        exact ⟨expires, ⟨same, rfl⟩, live⟩
      · rintro ⟨-, ⟨same, -⟩, -⟩
        exact same
    · simp only [if_neg live, Option.some.injEq, Prod.mk.injEq]
      constructor
      · intro same
        cases same
      · rintro ⟨_, ⟨_, rfl⟩, later⟩
        exact absurd later live

/-- What a read finds is a copy. -/
theorem found_iff_copy (layered : Layered caches) :
    caches.found id now {} = some response ↔ Copy caches now id response := by
  unfold Caches.found Copy
  cases cached : caches.lru.lookup id with
  | none =>
    rw [Option.none_or, getObservation_eq_some_iff]
    simp
  | some held =>
    rw [Option.some_or]
    constructor
    · exact .inl
    · rintro (same | ⟨expires, entry, -⟩)
      · exact same
      · rw [layered id held response expires cached entry]

/-- A copy that is held later is held now. -/
theorem Copy.earlier (copy : Copy caches later id response) (order : now ≤ later) :
    Copy caches now id response := by
  rcases copy with cached | ⟨expires, entry, live⟩
  · exact .inl cached
  · exact .inr ⟨expires, entry, Int.lt_of_le_of_lt order live⟩

/-- Looking a key up adds no copy: the LRU cache is filled with what Redis holds. -/
theorem Copy.of_getObservationWithLru (order : now ≤ later)
    (copy : Copy (caches.getObservationWithLru observationId now {}).2 later id response) :
    Copy caches now id response := by
  unfold Caches.getObservationWithLru at copy
  have kept := @Lru.lookup_get _ _ _ _ caches.lru observationId id response
  cases looked : caches.lru.get observationId with
  | mk answer lru =>
    rw [looked] at copy kept
    cases answer with
    | some held =>
      rcases copy with cached | other
      · exact .inl (kept cached)
      · exact (show Copy caches later id response from .inr other).earlier order
    | none =>
      cases hit : caches.getObservation observationId now {} with
      | none =>
        rw [hit] at copy
        exact copy.earlier order
      | some held =>
        rw [hit] at copy
        rcases copy with cached | other
        · rcases Lru.lookup_put cached with ⟨rfl, rfl⟩ | ⟨-, before⟩
          · exact .inr (getObservation_eq_some_iff.mp hit)
          · exact .inl before
        · exact (show Copy caches later id response from .inr other).earlier order

theorem Layered.getObservationWithLru (layered : Layered caches) (observationId : Nat) (now : Int) :
    Layered (caches.getObservationWithLru observationId now {}).2 := by
  intro id response stored expires cached entry
  unfold Caches.getObservationWithLru at cached entry
  have kept := @Lru.lookup_get _ _ _ _ caches.lru observationId id response
  cases looked : caches.lru.get observationId with
  | mk answer lru =>
    rw [looked] at cached entry kept
    cases answer with
    | some held => exact layered id response stored expires (kept cached) entry
    | none =>
      cases hit : caches.getObservation observationId now {} with
      | none =>
        rw [hit] at cached entry
        exact layered id response stored expires cached entry
      | some held =>
        rw [hit] at cached entry
        rcases Lru.lookup_put cached with ⟨rfl, rfl⟩ | ⟨-, before⟩
        · obtain ⟨until_, same, -⟩ := getObservation_eq_some_iff.mp hit
          cases same.symm.trans entry
          rfl
        · exact layered id response stored expires before entry

/-- A miss leaves the layers as they are. -/
theorem getObservationWithLru_of_miss (missed : caches.found observationId now {} = none) :
    (caches.getObservationWithLru observationId now {}).2 = caches ∧
      caches.lru.lookup observationId = none := by
  obtain ⟨cached, entry⟩ := Option.or_eq_none_iff.mp missed
  have looked : caches.lru.get observationId = (none, caches.lru) := by
    unfold Lru.get
    rw [cached]
  unfold Caches.getObservationWithLru
  rw [looked, entry]
  exact ⟨rfl, cached⟩

/-- What a read stores after a miss is the only new copy. -/
theorem Copy.of_setObservation
    (copy : Copy (caches.setObservation observationId now {} stored) later id response) :
    (id = observationId ∧ response = stored) ∨ Copy caches later id response := by
  rcases copy with cached | ⟨expires, entry, live⟩
  · exact .inr (.inl cached)
  · simp only [Caches.setObservation, Bool.false_eq_true, if_false] at entry
    by_cases here : id = observationId
    · subst here
      rw [Function.update_self] at entry
      cases entry
      exact .inl ⟨rfl, rfl⟩
    · rw [Function.update_of_ne here] at entry
      exact .inr (.inr ⟨expires, entry, live⟩)

theorem Layered.setObservation (layered : Layered caches) (missed : caches.lru.lookup observationId = none) :
    Layered (caches.setObservation observationId now {} stored) := by
  intro id response kept expires cached entry
  simp only [Caches.setObservation, Bool.false_eq_true, if_false] at cached entry
  by_cases here : id = observationId
  · subst here
    rw [missed] at cached
    cases cached
  · rw [Function.update_of_ne here] at entry
    exact layered id response kept expires cached entry

/-- An invalidation leaves the copies of the other observations. -/
theorem Copy.of_invalidate
    (copy : Copy (caches.invalidateObservationAllLayers observationId {}) later id response) :
    id ≠ observationId ∧ Copy caches later id response := by
  unfold Copy at copy
  simp only [Caches.invalidateObservationAllLayers, Lru.lookup_invalidate, Bool.false_eq_true,
    if_false] at copy
  by_cases here : id = observationId
  · subst here
    simp at copy
  · rw [if_neg here, Function.update_of_ne here] at copy
    exact ⟨here, copy⟩

theorem Layered.invalidate (layered : Layered caches) (observationId : Nat) :
    Layered (caches.invalidateObservationAllLayers observationId {}) := by
  intro id response stored expires cached entry
  simp only [Caches.invalidateObservationAllLayers, Lru.lookup_invalidate, Bool.false_eq_true,
    if_false] at cached entry
  by_cases here : id = observationId
  · rw [if_pos here] at cached
    cases cached
  · rw [if_neg here] at cached
    rw [Function.update_of_ne here] at entry
    exact layered id response stored expires cached entry

end Copies

/-! ### The condition -/

structure World (Response : Type) where
  state : State Response
  clock : Int

section Coherence

variable {Response : Type} (rls : Bool) (validate : Nat → Observation → Response)

/-- A request after the others, with row-level security on or off. -/
def next (world : World Response) (call : Call) : Option (World Response) :=
  if call.session.rlsEnabled = rls ∧ world.clock ≤ call.now then
    some { state := (serve validate world.state call).1, clock := call.now }
  else none

/-- Whoever asks for an observation gets what the database answers. -/
def Truthful (world : World Response) : Prop :=
  ∀ session observationId now, session.rlsEnabled = rls → world.clock ≤ now →
    (getObservationEndpoint validate world.state session observationId now {}).2 =
      databaseAnswer validate session world.state.db observationId

/-- The response that the table holds. -/
def currentResponse (db : ObservationDb) (observationId : Nat) : Option Response :=
  ((db.observations.get observationId).filter (·.deletedAt.isNone)).map (validate observationId)

/-- Where a layer holds a copy, neither an update nor an archive changes the response; and with
row-level security no read stores a row that has a tenant. -/
def Harmless (world : World Response) (call : Call) : Prop :=
  match call.action with
  | .update observationId _ | .archive observationId =>
      (world.state.caches.found observationId call.now {}).isSome →
        currentResponse validate (serve validate world.state call).1.db observationId =
          currentResponse validate world.state.db observationId
  | .get observationId =>
      rls = true → world.state.caches.found observationId call.now {} = none →
        ∀ row, getObservation call.session world.state.db observationId = some row →
          row.tenantId = none
  | _ => True

variable {rls validate} {state : State Response} {world after : World Response} {call : Call}
  {history : List (World Response × Call)} {db db' : ObservationDb} {observationId : Nat}
  {response : Response}

/-- The response of a row that every session sees. -/
def Served (rls : Bool) (validate : Nat → Observation → Response) (db : ObservationDb)
    (observationId : Nat) (response : Response) : Prop :=
  ∃ row, db.observations.get observationId = some row ∧ row.deletedAt = none ∧
    (rls = true → row.tenantId = none) ∧ validate observationId row = response

theorem databaseAnswer_eq_ok {session : Session} :
    databaseAnswer validate session db observationId = .ok response ↔
      ∃ row, getObservation session db observationId = some row ∧
        validate observationId row = response := by
  unfold databaseAnswer
  cases getObservation session db observationId <;> simp

theorem served_iff :
    Served rls validate db observationId response ↔ ∀ session : Session,
      session.rlsEnabled = rls →
        databaseAnswer validate session db observationId = .ok response := by
  constructor
  · rintro ⟨row, stored, alive, shared, same⟩ session mode
    refine databaseAnswer_eq_ok.mpr ⟨row, Option.filter_eq_some_iff.mpr ⟨stored, ?_⟩, same⟩
    cases rls with
    | false => simp [Session.policy, mode, alive]
    | true => simp [Session.policy, shared rfl, alive]
  · intro answered
    obtain ⟨row, read, same⟩ :=
      databaseAnswer_eq_ok.mp (answered { tenantId := none, rlsEnabled := rls } rfl)
    obtain ⟨stored, selected⟩ := Option.filter_eq_some_iff.mp read
    simp only [Bool.and_eq_true, Option.isNone_iff_eq_none] at selected
    refine ⟨row, stored, selected.2, ?_, same⟩
    rintro rfl
    simpa [Session.policy] using selected.1

/-- A cache answers as the database when its copies are of rows that every session sees. -/
theorem truthful_iff (layered : Layered world.state.caches) :
    Truthful rls validate world ↔ ∀ id response, Copy world.state.caches world.clock id response →
      Served rls validate world.state.db id response := by
  constructor
  · intro truthful id response copy
    refine served_iff.mpr fun session mode => ?_
    rw [← truthful session id world.clock mode (Int.le_refl _), getObservationEndpoint_snd,
      (found_iff_copy layered).mpr copy]
  · intro served session id now mode order
    rw [getObservationEndpoint_snd]
    cases found : world.state.caches.found id now {} with
    | none => rfl
    | some response =>
      have copy := ((found_iff_copy layered).mp found).earlier order
      exact (served_iff.mp (served id response copy) session mode).symm

theorem Served.current (served : Served rls validate db observationId response) :
    currentResponse validate db observationId = some response := by
  obtain ⟨row, stored, alive, -, same⟩ := served
  simp [currentResponse, stored, alive, same]

/-- A write of one row that drops no copy. -/
theorem served_framed_iff {caches : Caches Response} {now : Int} (layered : Layered caches)
    (served : ∀ id response, Copy caches now id response → Served rls validate db id response)
    (framed : Framed observationId db db') :
    (∀ id response, Copy caches now id response → Served rls validate db' id response) ↔
      ((caches.found observationId now {}).isSome →
        currentResponse validate db' observationId = currentResponse validate db observationId) := by
  constructor
  · intro after held
    obtain ⟨response, found⟩ := Option.isSome_iff_exists.mp held
    have copy := (found_iff_copy layered).mp found
    rw [(after observationId response copy).current, (served observationId response copy).current]
  · intro same id response copy
    by_cases here : id = observationId
    · subst here
      have before := served id response copy
      have current := same (Option.isSome_iff_exists.mpr ⟨response, (found_iff_copy layered).mpr copy⟩)
      rw [before.current] at current
      obtain ⟨row', read, valid⟩ := Option.map_eq_some_iff.mp current
      obtain ⟨stored', alive⟩ := Option.filter_eq_some_iff.mp read
      obtain ⟨row, stored, -, shared, -⟩ := before
      obtain ⟨old, stored_old, tenant⟩ := framed.tenant stored'
      cases stored.symm.trans stored_old
      exact ⟨row', stored', Option.isNone_iff_eq_none.mp alive,
        fun mode => tenant.trans (shared mode), valid⟩
    · obtain ⟨row, stored, rest⟩ := served id response copy
      exact ⟨row, (framed.others here).trans stored, rest⟩

/-- A write of one row that drops its copies. -/
theorem served_invalidated {caches : Caches Response} {now : Int}
    (served : ∀ id response, Copy caches now id response → Served rls validate db id response)
    (framed : Framed observationId db db') :
    ∀ id response, Copy (caches.invalidateObservationAllLayers observationId {}) now id response →
      Served rls validate db' id response := by
  intro id response copy
  obtain ⟨other, copy⟩ := copy.of_invalidate
  obtain ⟨row, stored, rest⟩ := served id response copy
  exact ⟨row, (framed.others other).trans stored, rest⟩

/-! ### One request -/

/-- What a request does to the table and to the layers. -/
inductive Effect (validate : Nat → Observation → Response) (state : State Response) (call : Call) :
    State Response → Prop where
  | created {requests : List ObservationRequest} {db : ObservationDb}
      (action : call.action = .create requests)
      (kept : ∀ {id row}, state.db.observations.get id = some row →
        db.observations.get id = some row) : Effect validate state call { state with db }
  | looked {observationId : Nat} (action : call.action = .get observationId)
      (idle : state.caches.found observationId call.now {} = none →
        getObservation call.session state.db observationId = none) :
      Effect validate state call
        { state with caches := (state.caches.getObservationWithLru observationId call.now {}).2 }
  | filled {observationId : Nat} {row : Observation} (action : call.action = .get observationId)
      (missed : state.caches.found observationId call.now {} = none)
      (read : getObservation call.session state.db observationId = some row) :
      Effect validate state call
        { state with
          caches := state.caches.setObservation observationId call.now {}
            (validate observationId row) }
  | written {observationId : Nat} {db : ObservationDb}
      (action : (∃ patch, call.action = .update observationId patch) ∨
        call.action = .archive observationId)
      (framed : Framed observationId state.db db) : Effect validate state call { state with db }
  | absent {observationId : Nat}
      (action : call.action = .process observationId ∨ call.action = .delete observationId) :
      Effect validate state call state
  | dropped {observationId : Nat} {db : ObservationDb}
      (action : call.action = .process observationId ∨ call.action = .delete observationId)
      (framed : Framed observationId state.db db) :
      Effect validate state call
        { db, caches := state.caches.invalidateObservationAllLayers observationId {} }

theorem effect_get {observationId : Nat} (action : call.action = .get observationId) :
    Effect validate state call
      (getObservationEndpoint validate state call.session observationId call.now {}).1 := by
  have answer := @Caches.getObservationWithLru_fst _ state.caches observationId call.now {}
  unfold getObservationEndpoint
  cases looked : state.caches.getObservationWithLru observationId call.now {} with
  | mk hit caches =>
    have caches_eq : caches = (state.caches.getObservationWithLru observationId call.now {}).2 := by
      rw [looked]
    rw [looked] at answer
    subst caches_eq
    cases hit with
    | some response => exact .looked action fun missed => by cases answer.trans missed
    | none =>
      cases read : getObservation call.session state.db observationId with
      | none => exact .looked action fun _ => read
      | some row =>
        rw [(getObservationWithLru_of_miss answer.symm).1]
        exact .filled action answer.symm read

theorem effect_serve (validate : Nat → Observation → Response) (state : State Response)
    (call : Call) : Effect validate state call (serve validate state call).1 := by
  unfold serve
  cases action : call.action with
  | create requests =>
    simp only [createObservationEndpoint]
    have kept := @createObservations_kept state.db call.session requests call.now
    cases created : createObservations call.session state.db requests call.now with
    | mk db result =>
      rw [created] at kept
      cases result <;> exact .created action kept
  | get observationId => exact effect_get action
  | update observationId patch =>
    simp only [updateObservationEndpoint]
    have framed : Framed observationId state.db
        (updated call.session state.db observationId patch call.now) := framed_updated
    unfold updated at framed
    cases result : updateObservation call.session state.db observationId patch call.now with
    | error => exact .written (.inl ⟨patch, action⟩) (framed_refl _ _)
    | ok result' =>
      obtain ⟨db, answer⟩ := result'
      rw [result] at framed
      cases answer <;> exact .written (.inl ⟨patch, action⟩) framed
  | process observationId =>
    simp only [processObservation]
    have framed : Framed observationId state.db
        (markProcessed call.session state.db observationId call.now).1 := framed_markProcessed
    unfold markProcessed at framed ⊢
    cases loaded : sessionGet call.session state.db observationId with
    | none => exact .absent (.inl action)
    | some row =>
      rw [loaded] at framed
      exact .dropped (.inl action) framed
  | archive observationId =>
    simp only [archiveObservation]
    have framed : Framed observationId state.db
        (softDeleteObservation call.session state.db observationId call.now).1 :=
      framed_softDeleteObservation
    cases result : softDeleteObservation call.session state.db observationId call.now with
    | mk db answer =>
      rw [result] at framed
      cases answer <;> exact .written (.inr action) framed
  | delete observationId =>
    simp only [deleteObservationEndpoint]
    have framed : Framed observationId state.db
        (deleteObservation call.session state.db observationId).1 := framed_deleteObservation
    unfold deleteObservation at framed ⊢
    cases loaded : sessionGet call.session state.db observationId with
    | none => exact .absent (.inr action)
    | some row =>
      rw [loaded] at framed
      exact .dropped (.inr action) framed

/-- The layers never hold different responses. -/
theorem layered_serve (layered : Layered state.caches) (call : Call) :
    Layered (serve validate state call).1.caches := by
  have effect := effect_serve validate state call
  generalize (serve validate state call).1 = result at effect
  cases effect with
  | created | written | absent => exact layered
  | looked => exact layered.getObservationWithLru _ _
  | filled action missed => exact layered.setObservation (getObservationWithLru_of_miss missed).2
  | dropped => exact layered.invalidate _

theorem layered_next (layered : Layered world.state.caches)
    (step : next rls validate world call = some after) : Layered after.state.caches := by
  unfold next at step
  split at step
  · cases step
    exact layered_serve layered call
  · cases step

/-- A request keeps the answers of the cache those of the database exactly when it is
harmless. -/
theorem truthful_step (layered : Layered world.state.caches)
    (truthful : Truthful rls validate world) (step : next rls validate world call = some after) :
    Truthful rls validate after ↔ Harmless rls validate world call := by
  rw [truthful_iff (layered_next layered step)]
  unfold next at step
  split at step
  · rename_i enabled
    cases step
    have served : ∀ id response, Copy world.state.caches call.now id response →
        Served rls validate world.state.db id response := fun id response copy =>
      (truthful_iff layered).mp truthful id response (copy.earlier enabled.2)
    have effect := effect_serve validate world.state call
    unfold Harmless
    generalize (serve validate world.state call).1 = result at effect ⊢
    cases effect with
    | created action kept =>
      rw [action]
      refine iff_of_true (fun id response copy => ?_) trivial
      obtain ⟨row, stored, rest⟩ := served id response copy
      exact ⟨row, kept stored, rest⟩
    | looked action idle =>
      rw [action]
      refine iff_of_true (fun id response copy => ?_) fun _ missed row read => ?_
      · exact served id response (copy.of_getObservationWithLru (Int.le_refl _))
      · rw [idle missed] at read
        cases read
    | @filled observationId row action missed read =>
      rw [action]
      obtain ⟨stored, selected⟩ := Option.filter_eq_some_iff.mp read
      simp only [Bool.and_eq_true, Option.isNone_iff_eq_none] at selected
      constructor
      · intro after mode _ other read'
        cases read.symm.trans read'
        have new : Copy (world.state.caches.setObservation observationId call.now {}
            (validate observationId row)) call.now observationId (validate observationId row) := by
          refine .inr ⟨call.now + seconds cacheTtlObservation, ?_, ?_⟩
          · simp [Caches.setObservation]
          · simp only [seconds, cacheTtlObservation]
            omega
        obtain ⟨found, stored', -, shared, -⟩ := after observationId _ new
        cases stored.symm.trans stored'
        exact shared mode
      · intro shared id response copy
        rcases copy.of_setObservation with ⟨rfl, rfl⟩ | copy
        · exact ⟨row, stored, selected.2, fun mode => shared mode missed row read, rfl⟩
        · exact served id response copy
    | written action framed =>
      have exactly := served_framed_iff layered served framed
      rcases action with ⟨patch, action⟩ | action <;> rw [action] <;> exact exactly
    | absent action =>
      rcases action with action | action <;> rw [action] <;> exact iff_of_true served trivial
    | dropped action framed =>
      have dropped := served_invalidated served framed
      rcases action with action | action <;> rw [action] <;> exact iff_of_true dropped trivial
  · cases step

/-- **The read cache and the table.** In every state of a run whoever asks for an observation
gets what the database answers, exactly when every request of the run is harmless. -/
theorem truthful_iff_harmless {db : ObservationDb} {clock : Int}
    (run : Run (next rls validate) { state := start db, clock } history world) :
    Throughout (fun _ => Truthful rls validate) history world ↔
      Meets (fun _ => Harmless rls validate) history := by
  have uncached : Layered (start db : State Response).caches := fun _ _ _ _ cached => by cases cached
  refine run.throughout_iff_meets ?_ fun run truthful step => ?_
  · exact (truthful_iff uncached).mpr fun id response copy => by
      rcases copy with cached | ⟨_, entry, -⟩
      · cases cached
      · cases entry
  · have layered := Run.stateInvariant (I := fun world => Layered world.state.caches) uncached
      (fun layered step => layered_next layered step) run
    exact truthful_step layered truthful step

end Coherence

/-! ### A copy that is not dropped -/

/-- A request of tenant 1 without row-level security. -/
def callOne (now : Int) (action : Action) : Call :=
  { session := { tenantId := some 1 }, now, action }

/-- The only observation is read and then processed. -/
theorem truthful_processed : ∃ history world,
    Run (next false Prod.mk) { state := start oneObservation, clock := 0 } history world ∧
      (Throughout (fun _ => Truthful false Prod.mk) history world ↔
        Meets (fun _ => Harmless false Prod.mk) history) := by
  obtain ⟨history, run⟩ := run_of_isSome (show (finalState (next false Prod.mk)
    { state := start oneObservation, clock := 0 }
    [callOne 0 (.get 1), callOne 1 (.process 1), callOne 2 (.get 1)]).isSome = true by decide)
  exact ⟨history, _, run, truthful_iff_harmless run⟩

/-- After an update the copy in Redis is still the answer. -/
theorem stale_after_update :
    ¬ ∀ (db : ObservationDb) (history : List (World (Nat × Observation) × Call))
      (world : World (Nat × Observation)),
      Run (next false Prod.mk) { state := start db, clock := 0 } history world →
        Truthful false Prod.mk world := by
  intro all
  obtain ⟨history, run⟩ := run_of_isSome (show (finalState (next false Prod.mk)
    { state := start oneObservation, clock := 0 }
    [callOne 0 (.get 1), callOne 1 (.update 1 { tags := some ["late"] })]).isSome = true by decide)
  have answered := all _ _ _ run { tenantId := some 1 } 1 2 rfl (by decide)
  revert answered
  decide

end ApiObservatory.Observations
