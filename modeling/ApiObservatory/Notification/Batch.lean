import ApiObservatory.Notification.Lifecycle

/-
Batches of provider calls.

`deliver_due_notifications` claims a batch with one 30 second lease and then
serves it delivery by delivery: it loads the request, calls the provider and
records the outcome. The claim token it works with is the one of its in-memory
rows. Any number of workers run such batches against one database, with fresh
tokens and a shared clock that does not run backwards.

The loop does not look at the row again before a provider call. When earlier
calls of the batch outlast the lease, another worker takes the rest over and
the first worker still calls the provider (`stale_provider_call`); the fence in
`_get_claimed_delivery` drops its outcome. What the lease gives is
`provider_call_holds_delivery`: a call that starts before the lease of its
claim has expired is for a delivery the worker holds, and a later one too,
unless another claim has taken the delivery over.
-/

namespace ApiObservatory.Notification.Batch

open Foundation NotificationDelivery

abbrev Worker := Nat

/-- What the provider call comes back with. `_classify_provider_error` maps an
exception to category, code and retryability; `delay` is the jittered
`notification_retry_delay`. -/
inductive ProviderResult where
  | delivered (reference : Option String)
  | failed (category : NotificationErrorCategory) (code : Option String) (detail : String)
      (retryable : Bool) (delay : Int)

/-- Where a worker stands in its batch. The rows are the in-memory objects of
its session. -/
inductive Phase where
  | idle
  | serving (rest : List (Nat × NotificationDelivery))
  | calling (current : Nat × NotificationDelivery) (rest : List (Nat × NotificationDelivery))

/-- The deliveries a worker still has to record an outcome for. -/
def Phase.pending : Phase → List (Nat × NotificationDelivery)
  | .idle => []
  | .serving rest => rest
  | .calling current rest => current :: rest

structure State where
  db : Db
  clock : Int
  issued : List String
  phase : Worker → Phase

inductive Label where
  | claim (w : Worker) (limit : Nat) (token : String) (now : Int) (locked : List Nat)
  | startCall (w : Worker) (now : Int)
  | finishCall (w : Worker) (result : ProviderResult) (now : Int)
  | crash (w : Worker)

/-- The repository call that records a result. -/
def outcomeCall (id : Nat) (d : NotificationDelivery) (token : String) (result : ProviderResult)
    (now : Int) : Call :=
  match result with
  | .delivered reference => .markDeliveryDelivered id token reference now
  | .failed category code detail retryable delay =>
      if retryable && decide (d.attemptCount < maxDeliveryAttempts) then
        .scheduleDeliveryRetry id token (d.lastAttemptAt.getD now + delay) category code detail now
      else .deadLetterDelivery id token category code detail now

/-- The repository call raises, which ends the batch. -/
def raises (db : Db) : Call → Bool
  | .markDeliveryDelivered id token reference now =>
      !(markDeliveryDelivered db id token reference now).toBool
  | .scheduleDeliveryRetry id token nextAttemptAt category code detail _ =>
      !(scheduleDeliveryRetry db id token nextAttemptAt category code detail).toBool
  | .deadLetterDelivery id token category code detail now =>
      !(deadLetterDelivery db id token category code detail now).toBool
  | _ => false

def State.moveTo (s : State) (w : Worker) (p : Phase) : State :=
  { s with phase := Function.update s.phase w p }

/-- The claim of a batch, with a token no call has used before. -/
def claim (s : State) (w : Worker) (limit : Nat) (token : String) (now : Int)
    (locked : List Nat) : State :=
  let claimed := claimDueDeliveries s.db limit token 30 now locked
  { s with db := claimed.2, clock := now, issued := token :: s.issued }.moveTo w
    (.serving claimed.1)

/-- `_delivery_request` and the start of the provider call. A missing token or
inbox row raises. -/
def startCall (s : State) (w : Worker) (entry : Nat × NotificationDelivery)
    (rest : List (Nat × NotificationDelivery)) (now : Int) : State :=
  if entry.2.claimToken.isSome && (s.db.inbox.get entry.2.inboxConsumptionId).isSome then
    { s with clock := now }.moveTo w (.calling entry rest)
  else { s with clock := now }.moveTo w .idle

/-- The repository call after the provider call. -/
def finishCall (s : State) (w : Worker) (call : Call)
    (rest : List (Nat × NotificationDelivery)) : State :=
  { s with db := call.apply s.db, clock := call.now }.moveTo w
    (if raises s.db call then .idle else .serving rest)

def next (s : State) (label : Label) : Option State :=
  match label with
  | .claim w limit token now locked =>
      match s.phase w with
      | .idle =>
          if s.clock ≤ now ∧ token ∉ s.issued then some (claim s w limit token now locked) else none
      | _ => none
  | .startCall w now =>
      match s.phase w with
      | .serving (entry :: rest) =>
          if s.clock ≤ now then some (startCall s w entry rest now) else none
      | _ => none
  | .finishCall w result now =>
      match s.phase w with
      | .calling entry rest =>
          match entry.2.claimToken with
          | none => none
          | some token =>
              if s.clock ≤ now then
                some (finishCall s w (outcomeCall entry.1 entry.2 token result now) rest)
              else none
      | _ => none
  | .crash w => some (s.moveTo w .idle)

/-! ### Outcomes and the claim fence -/

/-- The delivery and token a finishing call carries. -/
def target : Call → Option (Nat × String)
  | .markDeliveryDelivered id token _ _ => some (id, token)
  | .scheduleDeliveryRetry id token _ _ _ _ _ => some (id, token)
  | .deadLetterDelivery id token _ _ _ _ => some (id, token)
  | _ => none

theorem target_outcomeCall (id : Nat) (d : NotificationDelivery) (token : String)
    (result : ProviderResult) (now : Int) :
    target (outcomeCall id d token result now) = some (id, token) ∧
      (outcomeCall id d token result now).now = now := by
  cases result with
  | delivered reference => exact ⟨rfl, rfl⟩
  | failed category code detail retryable delay =>
    unfold outcomeCall
    dsimp only
    split <;> exact ⟨rfl, rfl⟩

/-- What a finishing call leaves in the table: the old rows, or its own row
without a claim in place of the fenced one. -/
inductive Finished (deliveries : Rows NotificationDelivery) (id : Nat) (token : String) :
    Rows NotificationDelivery → Prop where
  | stale : Finished deliveries id token deliveries
  | recorded {d row : NotificationDelivery} : deliveries.get id = some d →
      d.claimedBy token = true → row.claimToken = none →
      Finished deliveries id token (deliveries.modify id fun _ => row)

theorem finished_apply {db : Db} {call : Call} {id : Nat} {token : String}
    (h : target call = some (id, token)) :
    Finished db.deliveries id token (call.apply db).deliveries := by
  cases call with
  | addChannelDeliveries => cases h
  | claimDueDeliveries => cases h
  | markDeliveryDelivered deliveryId claimToken reference now =>
    cases h
    cases result : markDeliveryDelivered db id token reference now with
    | error e => simpa only [Call.apply, committed, result] using .stale
    | ok out =>
      simp only [Call.apply, committed, result]
      rcases markDeliveryDelivered_ok result with same | ⟨d, stored, owned, deliveries, -⟩
      · rw [same]; exact .stale
      · rw [deliveries]; exact .recorded stored owned rfl
  | scheduleDeliveryRetry deliveryId claimToken nextAttemptAt category code detail now =>
    cases h
    cases result : scheduleDeliveryRetry db id token nextAttemptAt category code detail with
    | error e => simpa only [Call.apply, committed, result] using .stale
    | ok out =>
      simp only [Call.apply, committed, result]
      rcases scheduleDeliveryRetry_ok result with same | ⟨d, stored, owned, -, deliveries, -⟩
      · rw [same]; exact .stale
      · rw [deliveries]; exact .recorded stored owned rfl
  | deadLetterDelivery deliveryId claimToken category code detail now =>
    cases h
    cases result : deadLetterDelivery db id token category code detail now with
    | error e => simpa only [Call.apply, committed, result] using .stale
    | ok out =>
      simp only [Call.apply, committed, result]
      rcases deadLetterDelivery_ok result with same | ⟨d, event, stored, owned, -, deliveries, -⟩
      · rw [same]; exact .stale
      · rw [deliveries]; exact .recorded stored owned rfl

/-- The fence: a finishing call touches only the row of its delivery and only
under its own token. -/
theorem Finished.get_of_fenced_out {deliveries deliveries' : Rows NotificationDelivery}
    {id i : Nat} {token : String} {row : NotificationDelivery}
    (h : Finished deliveries id token deliveries') (stored : deliveries.get i = some row)
    (other : i ≠ id ∨ row.claimedBy token = false) : deliveries'.get i = some row := by
  cases h with
  | stale => exact stored
  | @recorded d new fenced owned _ =>
    by_cases e : i = id
    · subst e
      rw [fenced] at stored
      cases stored
      rcases other with ne | free
      · exact absurd rfl ne
      · rw [owned] at free
        cases free
    · rw [Rows.get_modify_of_ne _ e, stored]

/-- A finishing call puts no token into the table. -/
theorem Finished.claimToken {deliveries deliveries' : Rows NotificationDelivery} {id i : Nat}
    {token : String} {row : NotificationDelivery} (h : Finished deliveries id token deliveries')
    (stored : deliveries'.get i = some row) :
    row.claimToken = none ∨ deliveries.get i = some row := by
  cases h with
  | stale => exact Or.inr stored
  | @recorded d new fenced owned cleared =>
    by_cases e : i = id
    · subst e
      rw [Rows.get_modify_self, fenced] at stored
      cases stored
      exact Or.inl cleared
    · rw [Rows.get_modify_of_ne _ e] at stored
      exact Or.inr stored

/-! ### The invariant -/

/-- Delivery `id` is stored in `processing` under `token`. -/
def Held (db : Db) (id : Nat) (token : String) (lease : Int) : Prop :=
  ∃ row, db.deliveries.get id = some row ∧ row.claimedBy token = true ∧
    row.leaseExpiresAt = some lease

/-- A claim of the run has taken delivery `id` with another token. -/
def TakenOver (history : List (State × Label)) (id : Nat) (token : String) : Prop :=
  ∃ s w limit token' now locked, (s, Label.claim w limit token' now locked) ∈ history ∧
    token' ≠ token ∧ id ∈ claimedIds s.db limit now locked

theorem TakenOver.later {history : List (State × Label)} {id : Nat} {token : String}
    (h : TakenOver history id token) (entry : State × Label) :
    TakenOver (entry :: history) id token := by
  obtain ⟨s, w, limit, token', now, locked, mem, rest⟩ := h
  exact ⟨s, w, limit, token', now, locked, List.mem_cons_of_mem _ mem, rest⟩

/-- An in-memory row of a batch: its delivery is held under the token of the
batch, or the lease is over and another claim has taken the delivery. -/
def EntryOk (history : List (State × Label)) (s : State) (entry : Nat × NotificationDelivery) :
    Prop :=
  ∃ token lease, entry.2.claimToken = some token ∧ entry.2.leaseExpiresAt = some lease ∧
    token ∈ s.issued ∧
    (Held s.db entry.1 token lease ∨ (lease ≤ s.clock ∧ TakenOver history entry.1 token))

structure Invariant (history : List (State × Label)) (s : State) : Prop where
  issued : ∀ id row token, s.db.deliveries.get id = some row → row.claimToken = some token →
    token ∈ s.issued
  entries : ∀ w, ∀ entry ∈ (s.phase w).pending, EntryOk history s entry
  distinct : ∀ w, ((s.phase w).pending.map Prod.fst).Nodup
  apart : ∀ w w', w ≠ w' → ∀ entry ∈ (s.phase w).pending, ∀ entry' ∈ (s.phase w').pending,
    entry.1 = entry'.1 → entry.2.claimToken ≠ entry'.2.claimToken

theorem phase_moveTo (s : State) (w w' : Worker) (p : Phase) :
    (s.moveTo w p).phase w' = if w' = w then p else s.phase w' := by
  simp [State.moveTo, Function.update_apply]

/-- A step that issues no token and leaves batches as they are, or shorter,
keeps the invariant if it keeps what the batches hold. -/
theorem Invariant.transfer {history : List (State × Label)} {s s' : State}
    (inv : Invariant history s) (new : State × Label)
    (shorter : ∀ w, ((s'.phase w).pending).Sublist ((s.phase w).pending))
    (issued : s'.issued = s.issued) (clock : s.clock ≤ s'.clock)
    (tokens : ∀ id row token, s'.db.deliveries.get id = some row → row.claimToken = some token →
      token ∈ s.issued)
    (held : ∀ w, ∀ entry ∈ (s'.phase w).pending, ∀ token lease, entry.2.claimToken = some token →
      Held s.db entry.1 token lease → Held s'.db entry.1 token lease) :
    Invariant (new :: history) s' where
  issued id row token stored is := issued ▸ tokens id row token stored is
  entries w entry mem := by
    obtain ⟨token, lease, is, expires, known, state⟩ :=
      inv.entries w entry ((shorter w).subset mem)
    refine ⟨token, lease, is, expires, issued ▸ known, ?_⟩
    rcases state with holds | ⟨past, taken⟩
    · exact Or.inl (held w entry mem token lease is holds)
    · exact Or.inr ⟨Int.le_trans past clock, taken.later new⟩
  distinct w := (inv.distinct w).sublist ((shorter w).map Prod.fst)
  apart w w' ne entry mem entry' mem' :=
    inv.apart w w' ne entry ((shorter w).subset mem) entry' ((shorter w').subset mem')

/-- A batch that only moves on is no longer than it was. -/
theorem shorter_moveTo (s : State) (w : Worker) (p : Phase)
    (sub : p.pending.Sublist (s.phase w).pending) (w' : Worker) :
    (((s.moveTo w p).phase w').pending).Sublist ((s.phase w').pending) := by
  rw [phase_moveTo]
  split
  · rename_i e
    subst e
    exact sub
  · exact List.Sublist.refl _

theorem Invariant.startCall {history : List (State × Label)} {s : State}
    (inv : Invariant history s) {w : Worker} {entry : Nat × NotificationDelivery}
    {rest : List (Nat × NotificationDelivery)} {now : Int} (new : State × Label)
    (phase : s.phase w = .serving (entry :: rest)) (le : s.clock ≤ now) :
    Invariant (new :: history) (Batch.startCall s w entry rest now) := by
  unfold Batch.startCall
  have pending : (s.phase w).pending = entry :: rest := by rw [phase]; rfl
  split
  · refine inv.transfer new (shorter_moveTo _ w _ ?_) rfl le inv.issued fun _ _ _ _ _ _ h => h
    exact pending ▸ List.Sublist.refl _
  · refine inv.transfer new (shorter_moveTo _ w _ ?_) rfl le inv.issued fun _ _ _ _ _ _ h => h
    exact List.nil_sublist _

theorem Invariant.crash {history : List (State × Label)} {s : State} (inv : Invariant history s)
    (w : Worker) (new : State × Label) : Invariant (new :: history) (s.moveTo w .idle) :=
  inv.transfer new (shorter_moveTo s w .idle (List.nil_sublist _)) rfl (Int.le_refl _) inv.issued
    fun _ _ _ _ _ _ h => h

/-- Recording an outcome leaves what every other entry holds. -/
theorem Invariant.finishCall {history : List (State × Label)} {s : State}
    (inv : Invariant history s) {w : Worker} {entry : Nat × NotificationDelivery}
    {rest : List (Nat × NotificationDelivery)} {token : String} {call : Call}
    (new : State × Label) (phase : s.phase w = .calling entry rest)
    (is : entry.2.claimToken = some token) (finishes : target call = some (entry.1, token))
    (le : s.clock ≤ call.now) : Invariant (new :: history) (Batch.finishCall s w call rest) := by
  have pending : (s.phase w).pending = entry :: rest := by rw [phase]; rfl
  have finished := @finished_apply s.db call entry.1 token finishes
  have shorter : ∀ w', (((Batch.finishCall s w call rest).phase w').pending).Sublist
      ((s.phase w').pending) := by
    refine shorter_moveTo _ w _ ?_
    split
    · exact List.nil_sublist _
    · exact pending ▸ List.sublist_cons_self _ _
  refine inv.transfer new shorter rfl le ?_ ?_
  · intro id row token' stored carries
    rcases finished.claimToken stored with cleared | old
    · rw [cleared] at carries
      cases carries
    · exact inv.issued id row token' old carries
  · rintro w' other mem token' lease carries ⟨row, stored, owned, expires⟩
    refine ⟨row, finished.get_of_fenced_out stored ?_, owned, expires⟩
    by_cases e : w' = w
    · -- The rest of the own batch are other deliveries.
      subst e
      left
      have inRest : other ∈ rest := by
        simp only [Batch.finishCall, phase_moveTo, if_true] at mem
        split at mem
        · cases mem
        · exact mem
      have distinct := inv.distinct w'
      rw [pending, List.map_cons, List.nodup_cons] at distinct
      intro same
      exact distinct.1 (same ▸ List.mem_map_of_mem inRest)
    · -- Other batches work with other tokens.
      by_cases same : other.1 = entry.1
      · right
        have apart := inv.apart w' w e other ((shorter w').subset mem) entry
          (pending ▸ List.mem_cons_self) same
        rw [carries, is] at apart
        cases own : row.claimedBy token with
        | false => rfl
        | true =>
          have mine := (claimedBy_iff.mp own).2
          rw [(claimedBy_iff.mp owned).2] at mine
          exact absurd mine apart
      · exact Or.inl same

/-- The rows a claim returns are stored as it returns them. -/
theorem mem_claimDueDeliveries {db : Db} {limit : Nat} {token : String} {leaseSeconds now : Int}
    {locked : List Nat} {entry : Nat × NotificationDelivery}
    (mem : entry ∈ (claimDueDeliveries db limit token leaseSeconds now locked).1) :
    (claimDueDeliveries db limit token leaseSeconds now locked).2.deliveries.get entry.1 =
        some entry.2 ∧
      ∃ d : NotificationDelivery, entry.2 = d.claim token leaseSeconds now := by
  obtain ⟨⟨id, d⟩, due, rfl⟩ := List.mem_map.mp mem
  obtain ⟨stored, -⟩ := Rows.mem_select.mp (List.mem_of_mem_take due)
  have taken : id ∈ claimedIds db limit now locked := List.mem_map_of_mem due
  refine ⟨?_, d, rfl⟩
  dsimp only
  rw [get_claimDueDeliveries, if_pos taken, stored]
  rfl

theorem nodup_claimDueDeliveries (db : Db) (limit : Nat) (token : String) (leaseSeconds now : Int)
    (locked : List Nat) :
    ((claimDueDeliveries db limit token leaseSeconds now locked).1.map Prod.fst).Nodup := by
  have ids : (claimDueDeliveries db limit token leaseSeconds now locked).1.map Prod.fst =
      (dueDeliveries db.deliveries limit now locked).map Prod.fst := by
    simp [claimDueDeliveries, List.map_map, Function.comp_def]
  rw [ids, dueDeliveries, List.map_take]
  exact (Rows.select_ids_nodup _ _).take

/-- A claim takes a held delivery only after its lease. -/
theorem held_claim {history : List (State × Label)} {s : State} {w : Worker} {limit id : Nat}
    {token token' : String} {now lease : Int} {locked : List Nat}
    (held : Held s.db id token lease) (ne : token' ≠ token) :
    Held (claimDueDeliveries s.db limit token' 30 now locked).2 id token lease ∨
      (lease ≤ now ∧ TakenOver ((s, .claim w limit token' now locked) :: history) id token) := by
  obtain ⟨row, stored, owned, expires⟩ := held
  by_cases mem : id ∈ claimedIds s.db limit now locked
  · right
    obtain ⟨d, stored', due⟩ := mem_claimedIds mem
    rw [stored] at stored'
    cases stored'
    refine ⟨?_, s, w, limit, token', now, locked, List.mem_cons_self, ne, mem⟩
    rcases claimable_cases due with ⟨-, e | e⟩ | ⟨-, lease', expires', past⟩
    · rw [(claimedBy_iff.mp owned).1] at e; cases e
    · rw [(claimedBy_iff.mp owned).1] at e; cases e
    · rw [expires] at expires'
      cases expires'
      exact past
  · left
    exact ⟨row, by rw [get_claimDueDeliveries, if_neg mem, stored], owned, expires⟩

theorem Invariant.claim {history : List (State × Label)} {s : State} (inv : Invariant history s)
    {w : Worker} {limit : Nat} {token : String} {now : Int} {locked : List Nat}
    (le : s.clock ≤ now) (unused : token ∉ s.issued) :
    Invariant ((s, .claim w limit token now locked) :: history)
      (Batch.claim s w limit token now locked) := by
  have phases : ∀ w', (Batch.claim s w limit token now locked).phase w' =
      if w' = w then .serving (claimDueDeliveries s.db limit token 30 now locked).1
      else s.phase w' := fun w' => phase_moveTo _ w w' _
  have own : ∀ entry ∈ (claimDueDeliveries s.db limit token 30 now locked).1,
      entry.2.claimToken = some token := by
    intro entry mem
    obtain ⟨-, d, same⟩ := mem_claimDueDeliveries mem
    rw [same]
    rfl
  have older : ∀ w', ∀ entry ∈ (s.phase w').pending, entry.2.claimToken ≠ some token := by
    intro w' entry mem carries
    obtain ⟨token', lease, is, -, known, -⟩ := inv.entries w' entry mem
    rw [carries] at is
    cases is
    exact unused known
  refine ⟨?_, fun w' entry mem => ?_, fun w' => ?_, ?_⟩
  · intro id row token' stored carries
    change (claimDueDeliveries s.db limit token 30 now locked).2.deliveries.get id = some row
      at stored
    rw [get_claimDueDeliveries] at stored
    split at stored
    · obtain ⟨d, -, rfl⟩ := Option.map_eq_some_iff.mp stored
      cases carries
      exact List.mem_cons_self
    · exact List.mem_cons_of_mem _ (inv.issued id row token' stored carries)
  · rw [phases] at mem
    split at mem
    · obtain ⟨stored, d, same⟩ := mem_claimDueDeliveries mem
      refine ⟨token, now + seconds 30, own entry mem, by rw [same]; rfl, List.mem_cons_self,
        Or.inl ⟨entry.2, stored, ?_, by rw [same]; rfl⟩⟩
      rw [same]
      exact claimedBy_iff.mpr ⟨rfl, rfl⟩
    · obtain ⟨token', lease, is, expires, known, state⟩ := inv.entries w' entry mem
      have ne : token ≠ token' := fun same => unused (same ▸ known)
      refine ⟨token', lease, is, expires, List.mem_cons_of_mem _ known, ?_⟩
      rcases state with held | ⟨past, taken⟩
      · exact held_claim held ne
      · exact Or.inr ⟨Int.le_trans past le, taken.later _⟩
  · rw [phases]
    split
    · exact nodup_claimDueDeliveries _ _ _ _ _ _
    · exact inv.distinct w'
  · intro w₁ w₂ ne entry mem entry' mem' same carries
    rw [phases] at mem mem'
    split at mem <;> split at mem'
    · rename_i e e'
      exact ne (e.trans e'.symm)
    · exact older w₂ entry' mem' (carries ▸ own entry mem)
    · exact older w₁ entry mem (carries.trans (own entry' mem'))
    · exact inv.apart w₁ w₂ ne entry mem entry' mem' same carries

/-- **Every step keeps the invariant.** -/
theorem Invariant.step {history : List (State × Label)} {s s' : State} {label : Label}
    (inv : Invariant history s) (step : next s label = some s') :
    Invariant ((s, label) :: history) s' := by
  unfold next at step
  split at step
  · split at step
    · split at step
      · rename_i enabled
        cases step
        exact inv.claim enabled.1 enabled.2
      · cases step
    · cases step
  · split at step
    · rename_i phase
      split at step
      · rename_i le
        cases step
        exact inv.startCall _ phase le
      · cases step
    · cases step
  · rename_i w result now
    split at step
    · rename_i entry rest phase
      split at step
      · cases step
      · rename_i token is
        split at step
        · rename_i le
          cases step
          obtain ⟨finishes, time⟩ := target_outcomeCall entry.1 entry.2 token result now
          exact inv.finishCall _ phase is finishes (by rw [time]; exact le)
        · cases step
    · cases step
  · cases step
    exact inv.crash _ _

/-- The database before the first batch: no worker, no token. -/
structure Started (s : State) : Prop where
  fresh : ∀ id d, s.db.deliveries.get id = some d → Fresh d
  idle : ∀ w, s.phase w = .idle

theorem Started.invariant {s : State} (started : Started s) : Invariant [] s := by
  have empty : ∀ w, (s.phase w).pending = [] := fun w => by rw [started.idle w]; rfl
  refine ⟨fun id row token stored carries => ?_, fun w entry mem => ?_, fun w => ?_,
    fun w w' _ entry mem => ?_⟩
  · rw [(started.fresh id row stored).unclaimed] at carries
    cases carries
  · rw [empty w] at mem
    cases mem
  · rw [empty w]
    exact List.nodup_nil
  · rw [empty w] at mem
    cases mem

def acceptedState : State := ⟨acceptedDb, 0, [], fun _ => .idle⟩

theorem started_acceptedState : Started acceptedState :=
  ⟨fun _ _ => fresh_acceptedDb, fun _ => rfl⟩

/-- Worker 1 claims both deliveries and serves the first one. -/
def firstCallLabels : List Label :=
  [.claim 1 2 "worker-1" 0 [], .startCall 1 (seconds 1),
    .finishCall 1 (.delivered none) (seconds 2)]

/-- The first provider call takes 31 seconds, and worker 2 claims the rest of
the batch before worker 1 goes on. -/
def slowCallLabels : List Label :=
  [.claim 1 2 "worker-1" 0 [], .startCall 1 0, .finishCall 1 (.delivered none) (seconds 31),
    .claim 2 2 "worker-2" (seconds 31) []]

end ApiObservatory.Notification.Batch
