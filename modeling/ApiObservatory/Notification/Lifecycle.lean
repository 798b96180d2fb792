import ApiObservatory.Foundation.Run
import ApiObservatory.Repositories.NotificationDelivery

/-
The life of a notification delivery.

`RowStep` is the abstract machine of one delivery row: the five changes a
committed transaction can make to it, with their guards. `next` runs the
repository functions as whole transactions, in any order and for any number of
workers; a call that raises commits nothing. The two layers meet in
`next_row`: each transaction moves each delivery row by `RowStep`. Every
invariant below is a case analysis on `RowStep`.
-/

namespace ApiObservatory.Notification

open Foundation NotificationDelivery

/-! ### One delivery row -/

/-- What a transaction committed at clock time `now` does to one delivery row. -/
inductive RowStep (now : Int) (d : NotificationDelivery) : NotificationDelivery → Prop where
  | keep : RowStep now d d
  | claim (token : String) (leaseSeconds : Int) :
      d.claimable now = true → RowStep now d (d.claim token leaseSeconds now)
  | deliver {token : String} (reference : Option String) (t : Int) :
      d.claimedBy token = true → RowStep now d (d.markDelivered reference t)
  | retry {token : String} (nextAttemptAt : Int) (category : NotificationErrorCategory)
      (code : Option String) (detail : String) :
      d.claimedBy token = true → d.attemptCount < maxDeliveryAttempts →
      RowStep now d (d.scheduleRetry nextAttemptAt category code detail)
  | deadLetter {token : String} (category : NotificationErrorCategory) (code : Option String)
      (detail : String) (t : Int) :
      d.claimedBy token = true → RowStep now d (d.deadLetter category code detail t)

/-- The claim conditions, spelled out over status, counter and lease. -/
theorem claimable_cases {now : Int} {d : NotificationDelivery} (h : d.claimable now = true) :
    (d.attemptCount < 3 ∧ (d.status = .pending ∨ d.status = .retryScheduled)) ∨
      (d.status = .processing ∧ ∃ lease, d.leaseExpiresAt = some lease ∧ lease ≤ now) := by
  simp only [claimable, Bool.and_eq_true, Bool.or_eq_true] at h
  rcases h.2 with due | abandoned
  · left
    simp only [dueUnclaimedWork, Bool.and_eq_true, Bool.or_eq_true, beq_iff_eq] at due
    refine ⟨of_decide_eq_true due.1.1, ?_⟩
    rcases due.1.2 with pending | retry
    · exact Or.inl pending
    · exact Or.inr retry.1
  · right
    simp only [abandonedWork, Bool.and_eq_true, beq_iff_eq] at abandoned
    refine ⟨abandoned.1, ?_⟩
    cases lease : d.leaseExpiresAt with
    | none => simp [lease] at abandoned
    | some t => exact ⟨t, rfl, by simpa [lease] using abandoned.2⟩

/-- A terminal delivery is neither due nor abandoned. -/
theorem not_claimable_of_terminal {now : Int} {d : NotificationDelivery}
    (h : d.status.terminal = true) : d.claimable now = false := by
  cases c : d.claimable now with
  | false => rfl
  | true =>
    rcases claimable_cases c with ⟨-, e | e⟩ | ⟨e, -⟩ <;> rw [e] at h <;> cases h

/-- A terminal delivery carries no claim. -/
theorem not_claimedBy_of_terminal {token : String} {d : NotificationDelivery}
    (h : d.status.terminal = true) : d.claimedBy token = false := by
  cases c : d.claimedBy token with
  | false => rfl
  | true =>
    rw [(claimedBy_iff.mp c).1] at h
    cases h

/-- **Terminal rows are final**: no transaction changes them at all. -/
theorem RowStep.eq_of_terminal {now : Int} {d d' : NotificationDelivery} (step : RowStep now d d')
    (h : d.status.terminal = true) : d' = d := by
  cases step with
  | keep => rfl
  | claim _ _ due => rw [not_claimable_of_terminal h] at due; cases due
  | deliver _ _ owned => rw [not_claimedBy_of_terminal h] at owned; cases owned
  | retry _ _ _ _ owned _ => rw [not_claimedBy_of_terminal h] at owned; cases owned
  | deadLetter _ _ _ _ owned => rw [not_claimedBy_of_terminal h] at owned; cases owned

/-- The columns that say which request a delivery serves. -/
structure SameRequest (d d' : NotificationDelivery) : Prop where
  inboxConsumptionId : d'.inboxConsumptionId = d.inboxConsumptionId
  messageId : d'.messageId = d.messageId
  channel : d'.channel = d.channel
  deletedAt : d'.deletedAt = d.deletedAt

/-- A row step never moves a delivery to another request. -/
theorem RowStep.sameRequest {now : Int} {d d' : NotificationDelivery} (step : RowStep now d d') :
    SameRequest d d' := by
  cases step <;> exact ⟨rfl, rfl, rfl, rfl⟩

/-- The joint invariant of a delivery row at clock time `clock`. -/
structure RowInvariant (clock : Int) (d : NotificationDelivery) : Prop where
  budget : d.attemptCount ≤ 3
  pending : d.status = .pending → d.attemptCount = 0
  processing : d.status = .processing →
    1 ≤ d.attemptCount ∧ d.claimToken.isSome ∧ d.leaseExpiresAt.isSome ∧
      ∃ first last, d.firstAttemptAt = some first ∧ d.lastAttemptAt = some last ∧ first ≤ last
  retry : d.status = .retryScheduled →
    1 ≤ d.attemptCount ∧ d.attemptCount ≤ 2 ∧ d.nextAttemptAt.isSome ∧ d.claimToken = none
  seen : ∀ t, d.firstAttemptAt = some t → t ≤ clock

/-- A claim counts a new attempt only when it does not take over an old one. -/
theorem attemptCount_claim (token : String) (leaseSeconds now : Int) (d : NotificationDelivery) :
    (d.claim token leaseSeconds now).attemptCount =
      if d.status = .processing then d.attemptCount else d.attemptCount + 1 := by
  simp [NotificationDelivery.claim]

theorem RowInvariant.claim {clock now : Int} {d : NotificationDelivery} {token : String}
    {leaseSeconds : Int} (inv : RowInvariant clock d) (le : clock ≤ now)
    (due : d.claimable now = true) : RowInvariant now (d.claim token leaseSeconds now) := by
  have first : d.firstAttemptAt.getD now ≤ now := by
    cases h : d.firstAttemptAt with
    | none => exact Int.le_refl now
    | some t => exact Int.le_trans (inv.seen t h) le
  have count : (d.claim token leaseSeconds now).attemptCount ≤ 3 ∧
      1 ≤ (d.claim token leaseSeconds now).attemptCount := by
    rw [attemptCount_claim]
    rcases claimable_cases due with ⟨budget, fresh⟩ | ⟨abandoned, -⟩
    · rw [if_neg (by rcases fresh with e | e <;> simp [e])]
      omega
    · rw [if_pos abandoned]
      exact ⟨inv.budget, (inv.processing abandoned).1⟩
  refine ⟨count.1, nofun, fun _ => ⟨count.2, rfl, rfl, _, _, rfl, rfl, first⟩, nofun, ?_⟩
  intro t h
  have same : d.firstAttemptAt.getD now = t := Option.some.inj h
  exact same ▸ first

/-- **The invariant is kept by every row step** as the clock moves on. -/
theorem RowInvariant.step {clock now : Int} {d d' : NotificationDelivery}
    (inv : RowInvariant clock d) (le : clock ≤ now) (step : RowStep now d d') :
    RowInvariant now d' := by
  have seen : ∀ t, d.firstAttemptAt = some t → t ≤ now := fun t h =>
    Int.le_trans (inv.seen t h) le
  cases step with
  | keep => exact ⟨inv.budget, inv.pending, inv.processing, inv.retry, seen⟩
  | claim token leaseSeconds due => exact inv.claim le due
  | deliver reference t owned => exact ⟨inv.budget, nofun, nofun, nofun, seen⟩
  | retry nextAttemptAt category code detail owned below =>
    have attempts := (inv.processing (claimedBy_iff.mp owned).1).1
    exact ⟨inv.budget, nofun, nofun,
      fun _ => ⟨attempts, Nat.le_of_lt_succ below, rfl, rfl⟩, seen⟩
  | deadLetter category code detail t owned =>
    refine ⟨inv.budget, nofun, nofun, nofun, ?_⟩
    obtain ⟨-, -, -, first, -, hfirst, -⟩ := inv.processing (claimedBy_iff.mp owned).1
    intro u h
    have same : d.firstAttemptAt.getD t = u := Option.some.inj h
    rw [hfirst] at same
    exact same ▸ seen first hfirst

/-- What `add_channel_deliveries` inserts: pending, uncounted and unclaimed. -/
structure Fresh (d : NotificationDelivery) : Prop where
  pending : d.status = .pending
  uncounted : d.attemptCount = 0
  unclaimed : d.claimToken = none
  unleased : d.leaseExpiresAt = none
  untried : d.firstAttemptAt = none

theorem fresh_channelDelivery (inboxId : Nat) (event : NotificationDeliveryRequestedV1)
    (channel : NotificationChannel) : Fresh (channelDelivery inboxId event channel) :=
  ⟨rfl, rfl, rfl, rfl, rfl⟩

theorem Fresh.rowInvariant {d : NotificationDelivery} (fresh : Fresh d) (clock : Int) :
    RowInvariant clock d where
  budget := by rw [fresh.uncounted]; decide
  pending _ := fresh.uncounted
  processing h := by rw [fresh.pending] at h; cases h
  retry h := by rw [fresh.pending] at h; cases h
  seen t h := by rw [fresh.untried] at h; cases h

/-! ### Whole transactions -/

/-- The committed database and the clock all workers read. -/
structure State where
  db : Db
  clock : Int

/-- One committed call of a repository function. -/
inductive Call where
  | addChannelDeliveries (inboxId : Nat) (event : NotificationDeliveryRequestedV1) (now : Int)
  | claimDueDeliveries (limit : Nat) (token : String) (leaseSeconds : Int) (now : Int)
      (locked : List Nat)
  | markDeliveryDelivered (deliveryId : Nat) (token : String) (providerReference : Option String)
      (now : Int)
  | scheduleDeliveryRetry (deliveryId : Nat) (token : String) (nextAttemptAt : Int)
      (category : NotificationErrorCategory) (code : Option String) (detail : String) (now : Int)
  | deadLetterDelivery (deliveryId : Nat) (token : String) (category : NotificationErrorCategory)
      (code : Option String) (detail : String) (now : Int)

/-- The clock time of a call. -/
def Call.now : Call → Int
  | .addChannelDeliveries _ _ now => now
  | .claimDueDeliveries _ _ _ now _ => now
  | .markDeliveryDelivered _ _ _ now => now
  | .scheduleDeliveryRetry _ _ _ _ _ _ now => now
  | .deadLetterDelivery _ _ _ _ _ now => now

/-- The database after a transaction: a raise discards the session. -/
def committed {α : Type} (db : Db) : Except RepositoryError (α × Db) → Db
  | .ok (_, db') => db'
  | .error _ => db

/-- The database a call leaves behind. -/
def Call.apply (db : Db) : Call → Db
  | .addChannelDeliveries inboxId event _ => ApiObservatory.addChannelDeliveries db inboxId event
  | .claimDueDeliveries limit token leaseSeconds now locked =>
      (ApiObservatory.claimDueDeliveries db limit token leaseSeconds now locked).2
  | .markDeliveryDelivered deliveryId token reference now =>
      committed db (ApiObservatory.markDeliveryDelivered db deliveryId token reference now)
  | .scheduleDeliveryRetry deliveryId token nextAttemptAt category code detail _ =>
      committed db
        (ApiObservatory.scheduleDeliveryRetry db deliveryId token nextAttemptAt category code detail)
  | .deadLetterDelivery deliveryId token category code detail now =>
      committed db
        (ApiObservatory.deadLetterDelivery db deliveryId token category code detail now)

/-- One transaction of some worker. The clock does not run backwards. -/
def next (s : State) (call : Call) : Option State :=
  if s.clock ≤ call.now then some ⟨call.apply s.db, call.now⟩ else none

theorem next_some {s s' : State} {call : Call} (h : next s call = some s') :
    s.clock ≤ call.now ∧ s' = ⟨call.apply s.db, call.now⟩ := by
  unfold next at h
  split at h
  · rename_i le
    exact ⟨le, (Option.some.inj h).symm⟩
  · cases h

/-! ### What a transaction leaves under each delivery id -/

/-- The ids a claim takes in state `db`. -/
def claimedIds (db : Db) (limit : Nat) (now : Int) (locked : List Nat) : List Nat :=
  (dueDeliveries db.deliveries limit now locked).map Prod.fst

theorem mem_claimedIds {db : Db} {limit : Nat} {now : Int} {locked : List Nat} {id : Nat}
    (h : id ∈ claimedIds db limit now locked) :
    ∃ d, db.deliveries.get id = some d ∧ d.claimable now = true := by
  obtain ⟨⟨i, d⟩, mem, rfl⟩ := List.mem_map.mp h
  obtain ⟨stored, due⟩ := Rows.mem_select.mp (List.mem_of_mem_take mem)
  exact ⟨d, stored, (Bool.and_eq_true_iff.mp due).1⟩

theorem get_claimDueDeliveries (db : Db) (limit : Nat) (token : String) (leaseSeconds now : Int)
    (locked : List Nat) (id : Nat) :
    (claimDueDeliveries db limit token leaseSeconds now locked).2.deliveries.get id =
      if id ∈ claimedIds db limit now locked then
        (db.deliveries.get id).map (·.claim token leaseSeconds now)
      else db.deliveries.get id := rfl

/-- An insertion of the intake keeps the old rows. -/
theorem get_addChannelDelivery {deliveries : Rows NotificationDelivery} {inboxId id : Nat}
    {event : NotificationDeliveryRequestedV1} {channel : NotificationChannel}
    {d : NotificationDelivery} (h : deliveries.get id = some d) :
    (addChannelDelivery inboxId event deliveries channel).get id = some d := by
  unfold addChannelDelivery
  split
  · exact Rows.get_insert_of_some h
  · exact h

/-- What the intake adds under an unused id is one of its own rows. -/
theorem get_addChannelDelivery_new {deliveries : Rows NotificationDelivery} {inboxId id : Nat}
    {event : NotificationDeliveryRequestedV1} {channel : NotificationChannel}
    {d : NotificationDelivery} (absent : deliveries.get id = none)
    (h : (addChannelDelivery inboxId event deliveries channel).get id = some d) :
    d = channelDelivery inboxId event channel := by
  unfold addChannelDelivery at h
  split at h
  · rcases Rows.get_insert_cases h with ⟨-, new⟩ | ⟨-, old⟩
    · exact new
    · rw [absent] at old; cases old
  · rw [absent] at h; cases h

theorem get_addChannelDeliveries_some {inboxId id : Nat} {event : NotificationDeliveryRequestedV1}
    {d : NotificationDelivery} (channels : List NotificationChannel) :
    ∀ {deliveries : Rows NotificationDelivery}, deliveries.get id = some d →
      (channels.foldl (addChannelDelivery inboxId event) deliveries).get id = some d := by
  induction channels with
  | nil => intro _ h; exact h
  | cons channel rest ih =>
    intro deliveries h
    exact ih (get_addChannelDelivery h)

theorem get_addChannelDeliveries_new {inboxId id : Nat} {event : NotificationDeliveryRequestedV1}
    {d : NotificationDelivery} (channels : List NotificationChannel) :
    ∀ {deliveries : Rows NotificationDelivery}, deliveries.get id = none →
      (channels.foldl (addChannelDelivery inboxId event) deliveries).get id = some d →
      ∃ channel ∈ channels, d = channelDelivery inboxId event channel := by
  induction channels with
  | nil => intro deliveries absent h; rw [List.foldl_nil, absent] at h; cases h
  | cons channel rest ih =>
    intro deliveries absent h
    cases added : (addChannelDelivery inboxId event deliveries channel).get id with
    | none =>
      obtain ⟨c, mem, rfl⟩ := ih added h
      exact ⟨c, List.mem_cons_of_mem _ mem, rfl⟩
    | some new =>
      rw [List.foldl_cons, get_addChannelDeliveries_some rest added] at h
      refine ⟨channel, List.mem_cons_self, ?_⟩
      rw [← Option.some.inj h]
      exact get_addChannelDelivery_new absent added

/-- The call is a claim that takes delivery `id` as new work: it finds the row
pending or scheduled for a retry. -/
def countsAttempt (db : Db) (call : Call) (id : Nat) : Bool :=
  match call with
  | .claimDueDeliveries limit _ _ now locked =>
      (claimedIds db limit now locked).contains id &&
        (db.deliveries.get id).any fun d => d.status == .pending || d.status == .retryScheduled
  | _ => false

theorem countsAttempt_of_absent {db : Db} {id : Nat} (call : Call)
    (absent : db.deliveries.get id = none) : countsAttempt db call id = false := by
  cases call <;> simp [countsAttempt, absent]

/-- A transaction that replaces the row under `deliveryId`, keeping its attempt
count, leaves a row step under every id. -/
theorem rowStep_of_modify {deliveries : Rows NotificationDelivery} {deliveryId id : Nat}
    {now : Int} {d d' row : NotificationDelivery} (stored : deliveries.get deliveryId = some d)
    (step : RowStep now d d') (count : d'.attemptCount = d.attemptCount)
    (h : deliveries.get id = some row) :
    ∃ row', (deliveries.modify deliveryId fun _ => d').get id = some row' ∧
      RowStep now row row' ∧ row'.attemptCount = row.attemptCount := by
  by_cases e : id = deliveryId
  · subst e
    have same : row = d := Option.some.inj (h.symm.trans stored)
    subst same
    exact ⟨d', by rw [Rows.get_modify_self, h]; rfl, step, count⟩
  · exact ⟨row, by rw [Rows.get_modify_of_ne _ e, h], .keep, rfl⟩

/-- **Each transaction moves each delivery row by `RowStep`**, and the attempt
count grows exactly when the transaction claims the row as new work. -/
theorem apply_row {db : Db} (call : Call) {id : Nat} {d : NotificationDelivery}
    (h : db.deliveries.get id = some d) :
    ∃ d', (call.apply db).deliveries.get id = some d' ∧ RowStep call.now d d' ∧
      d'.attemptCount = d.attemptCount + (countsAttempt db call id).toNat := by
  cases call with
  | addChannelDeliveries inboxId event now =>
    exact ⟨d, get_addChannelDeliveries_some event.channels h, .keep, rfl⟩
  | claimDueDeliveries limit token leaseSeconds now locked =>
    have get := get_claimDueDeliveries db limit token leaseSeconds now locked id
    by_cases mem : id ∈ claimedIds db limit now locked
    · obtain ⟨row, stored, due⟩ := mem_claimedIds mem
      have same : row = d := Option.some.inj (stored.symm.trans h)
      subst same
      rw [if_pos mem, h] at get
      refine ⟨row.claim token leaseSeconds now, get, .claim token leaseSeconds due, ?_⟩
      rw [attemptCount_claim]
      rcases claimable_cases due with ⟨-, e | e⟩ | ⟨e, -⟩ <;> simp [countsAttempt, mem, h, e]
    · rw [if_neg mem, h] at get
      exact ⟨d, get, .keep, by simp [countsAttempt, mem]⟩
  | markDeliveryDelivered deliveryId token reference now =>
    cases result : markDeliveryDelivered db deliveryId token reference now with
    | error e => exact ⟨d, by simp [Call.apply, committed, result, h], .keep, rfl⟩
    | ok out =>
      simp only [Call.apply, committed, result]
      rcases markDeliveryDelivered_ok result with same | ⟨row, stored, owned, deliveries, -⟩
      · exact ⟨d, by rw [same, h], .keep, rfl⟩
      · rw [deliveries]
        exact rowStep_of_modify stored (.deliver reference now owned) rfl h
  | scheduleDeliveryRetry deliveryId token nextAttemptAt category code detail now =>
    cases result : scheduleDeliveryRetry db deliveryId token nextAttemptAt category code detail with
    | error e => exact ⟨d, by simp [Call.apply, committed, result, h], .keep, rfl⟩
    | ok out =>
      simp only [Call.apply, committed, result]
      rcases scheduleDeliveryRetry_ok result with same | ⟨row, stored, owned, below, deliveries, -⟩
      · exact ⟨d, by rw [same, h], .keep, rfl⟩
      · rw [deliveries]
        exact rowStep_of_modify stored (.retry nextAttemptAt category code detail owned below) rfl h
  | deadLetterDelivery deliveryId token category code detail now =>
    cases result : deadLetterDelivery db deliveryId token category code detail now with
    | error e => exact ⟨d, by simp [Call.apply, committed, result, h], .keep, rfl⟩
    | ok out =>
      simp only [Call.apply, committed, result]
      rcases deadLetterDelivery_ok result with same | ⟨row, event, stored, owned, -, deliveries, -⟩
      · exact ⟨d, by rw [same, h], .keep, rfl⟩
      · rw [deliveries]
        exact rowStep_of_modify stored (.deadLetter category code detail now owned) rfl h

/-- The call adds deliveries; all others claim or finish them. -/
def Call.isIntake : Call → Bool
  | .addChannelDeliveries .. => true
  | _ => false

/-- Claims and finishing calls insert no delivery. -/
theorem apply_absent {db : Db} {call : Call} {id : Nat} (other : call.isIntake = false)
    (absent : db.deliveries.get id = none) : (call.apply db).deliveries.get id = none := by
  have modified : ∀ {deliveryId : Nat} {row : NotificationDelivery},
      (db.deliveries.modify deliveryId fun _ => row).get id = none := by
    intro deliveryId row
    by_cases e : id = deliveryId
    · subst e; rw [Rows.get_modify_self, absent]; rfl
    · rw [Rows.get_modify_of_ne _ e, absent]
  cases call with
  | addChannelDeliveries inboxId event now => cases other
  | claimDueDeliveries limit token leaseSeconds now locked =>
    rw [Call.apply, get_claimDueDeliveries, absent]
    split <;> rfl
  | markDeliveryDelivered deliveryId token reference now =>
    cases result : markDeliveryDelivered db deliveryId token reference now with
    | error e => simp [Call.apply, committed, result, absent]
    | ok out =>
      simp only [Call.apply, committed, result]
      rcases markDeliveryDelivered_ok result with same | ⟨row, -, -, deliveries, -⟩
      · rw [same, absent]
      · rw [deliveries, modified]
  | scheduleDeliveryRetry deliveryId token nextAttemptAt category code detail now =>
    cases result : scheduleDeliveryRetry db deliveryId token nextAttemptAt category code detail with
    | error e => simp [Call.apply, committed, result, absent]
    | ok out =>
      simp only [Call.apply, committed, result]
      rcases scheduleDeliveryRetry_ok result with same | ⟨row, -, -, -, deliveries, -⟩
      · rw [same, absent]
      · rw [deliveries, modified]
  | deadLetterDelivery deliveryId token category code detail now =>
    cases result : deadLetterDelivery db deliveryId token category code detail now with
    | error e => simp [Call.apply, committed, result, absent]
    | ok out =>
      simp only [Call.apply, committed, result]
      rcases deadLetterDelivery_ok result with same | ⟨row, event, -, -, -, deliveries, -⟩
      · rw [same, absent]
      · rw [deliveries, modified]

/-- A delivery that a transaction adds is fresh: only the intake inserts. -/
theorem apply_new {db : Db} {call : Call} {id : Nat} {d : NotificationDelivery}
    (absent : db.deliveries.get id = none) (h : (call.apply db).deliveries.get id = some d) :
    Fresh d := by
  cases intake : call.isIntake with
  | false =>
    rw [apply_absent intake absent] at h
    cases h
  | true =>
    cases call with
    | addChannelDeliveries inboxId event now =>
      obtain ⟨channel, -, rfl⟩ := get_addChannelDeliveries_new event.channels absent h
      exact fresh_channelDelivery inboxId event channel
    | _ => cases intake

/-- What a transaction does to an inbox row: nothing, or the refresh of a row
that has a stored delivery. -/
inductive InboxStep (db : Db) (id : Nat) (row : InboxConsumption) : InboxConsumption → Prop where
  | keep : InboxStep db id row row
  | refresh {deliveryId : Nat} {d : NotificationDelivery} (statuses : List DeliveryStatus)
      (now : Int) : db.deliveries.get deliveryId = some d → d.inboxConsumptionId = id →
      InboxStep db id row (row.refreshed statuses now)

/-- A refresh through delivery `d` leaves an inbox step under every id. -/
theorem inboxStep_of_modify {db : Db} {deliveryId id : Nat} {d : NotificationDelivery}
    {statuses : List DeliveryStatus} {now : Int}
    (stored : db.deliveries.get deliveryId = some d) :
    match db.inbox.get id with
    | none => (db.inbox.modify d.inboxConsumptionId (·.refreshed statuses now)).get id = none
    | some row => ∃ row',
        (db.inbox.modify d.inboxConsumptionId (·.refreshed statuses now)).get id = some row' ∧
          InboxStep db id row row' := by
  by_cases e : id = d.inboxConsumptionId
  · subst e
    rw [Rows.get_modify_self]
    cases db.inbox.get d.inboxConsumptionId with
    | none => rfl
    | some row => exact ⟨_, rfl, .refresh statuses now stored rfl⟩
  · rw [Rows.get_modify_of_ne _ e]
    cases db.inbox.get id with
    | none => rfl
    | some row => exact ⟨row, rfl, .keep⟩

/-- **Each delivery transaction moves each inbox row by `InboxStep`.** -/
theorem apply_inbox {db : Db} (call : Call) (id : Nat) :
    match db.inbox.get id with
    | none => (call.apply db).inbox.get id = none
    | some row => ∃ row', (call.apply db).inbox.get id = some row' ∧ InboxStep db id row row' := by
  have keep : (call.apply db).inbox = db.inbox →
      match db.inbox.get id with
      | none => (call.apply db).inbox.get id = none
      | some row => ∃ row', (call.apply db).inbox.get id = some row' ∧
          InboxStep db id row row' := by
    intro same
    rw [same]
    cases db.inbox.get id with
    | none => rfl
    | some row => exact ⟨row, rfl, .keep⟩
  cases call with
  | addChannelDeliveries => exact keep rfl
  | claimDueDeliveries => exact keep rfl
  | markDeliveryDelivered deliveryId token reference now =>
    cases result : markDeliveryDelivered db deliveryId token reference now with
    | error e => exact keep (by simp [Call.apply, committed, result])
    | ok out =>
      rcases markDeliveryDelivered_ok result with same | ⟨d, stored, -, -, -, statuses, inbox⟩
      · exact keep (by simp [Call.apply, committed, result, same])
      · simp only [Call.apply, committed, result, inbox]
        exact inboxStep_of_modify stored
  | scheduleDeliveryRetry deliveryId token nextAttemptAt category code detail now =>
    cases result : scheduleDeliveryRetry db deliveryId token nextAttemptAt category code detail with
    | error e => exact keep (by simp [Call.apply, committed, result])
    | ok out =>
      rcases scheduleDeliveryRetry_ok result with same | ⟨d, -, -, -, -, -, inbox⟩
      · exact keep (by simp [Call.apply, committed, result, same])
      · exact keep (by simp [Call.apply, committed, result, inbox])
  | deadLetterDelivery deliveryId token category code detail now =>
    cases result : deadLetterDelivery db deliveryId token category code detail now with
    | error e => exact keep (by simp [Call.apply, committed, result])
    | ok out =>
      rcases deadLetterDelivery_ok result with same | ⟨d, event, stored, -, -, -, -, statuses, inbox⟩
      · exact keep (by simp [Call.apply, committed, result, same])
      · simp only [Call.apply, committed, result, inbox]
        exact inboxStep_of_modify stored

/-! ### Runs -/

/-- How often a run claimed delivery `id` as new work. -/
def claimsAsNewWork (history : List (State × Call)) (id : Nat) : Nat :=
  history.countP fun entry => countsAttempt entry.1.db entry.2 id

theorem claimsAsNewWork_cons (history : List (State × Call)) (s : State) (call : Call) (id : Nat) :
    claimsAsNewWork ((s, call) :: history) id =
      claimsAsNewWork history id + (countsAttempt s.db call id).toNat := by
  rw [claimsAsNewWork, claimsAsNewWork, List.countP_cons]
  cases countsAttempt s.db call id <;> rfl

/-- Every stored delivery meets the row invariant and its attempt count is the
number of claims that took it as new work. An id without a row has no claims. -/
def RunInvariant (history : List (State × Call)) (s : State) : Prop :=
  ∀ id, match s.db.deliveries.get id with
    | some d => RowInvariant s.clock d ∧ d.attemptCount = claimsAsNewWork history id
    | none => claimsAsNewWork history id = 0

theorem RunInvariant.step {history : List (State × Call)} {s s' : State} {call : Call}
    (inv : RunInvariant history s) (step : next s call = some s') :
    RunInvariant ((s, call) :: history) s' := by
  obtain ⟨le, rfl⟩ := next_some step
  intro id
  rw [claimsAsNewWork_cons]
  have before := inv id
  cases stored : s.db.deliveries.get id with
  | some d =>
    rw [stored] at before
    obtain ⟨d', stored', rowStep, count⟩ := apply_row call stored
    simp only [stored']
    exact ⟨before.1.step le rowStep, by rw [count, before.2]⟩
  | none =>
    rw [stored] at before
    have noClaims : claimsAsNewWork history id + (countsAttempt s.db call id).toNat = 0 := by
      rw [before, countsAttempt_of_absent call stored]; rfl
    cases stored' : (call.apply s.db).deliveries.get id with
    | none => exact noClaims
    | some d' =>
      have fresh := apply_new stored stored'
      exact ⟨fresh.rowInvariant _, by rw [fresh.uncounted, noClaims]⟩

theorem runInvariant {start s : State} {history : List (State × Call)}
    (fresh : ∀ id d, start.db.deliveries.get id = some d → Fresh d)
    (run : Run next start history s) : RunInvariant history s := by
  refine Run.invariant ?_ (fun _ inv step => inv.step step) run
  intro id
  cases stored : start.db.deliveries.get id with
  | none => rfl
  | some d => exact ⟨(fresh id d stored).rowInvariant _, (fresh id d stored).uncounted⟩

/-- A terminal delivery is stored unchanged in every later state. -/
theorem terminal_stays {s s' : State} {later : List (State × Call)} {id : Nat}
    {d : NotificationDelivery} (terminal : d.status.terminal = true)
    (stored : s.db.deliveries.get id = some d) (run : Run next s later s') :
    s'.db.deliveries.get id = some d := by
  refine Run.stateInvariant (I := fun s => s.db.deliveries.get id = some d) stored ?_ run
  intro s call s' stored step
  obtain ⟨-, rfl⟩ := next_some step
  obtain ⟨d', stored', rowStep, -⟩ := apply_row call stored
  rw [stored', rowStep.eq_of_terminal terminal]

/-- **The delivery state machine.** From fresh rows, in every state that any
interleaving of the repository transactions reaches, every delivery keeps its
attempt budget, its status agrees with counter, claim, lease and timestamps,
a terminal row is final, and the attempt count is the number of committed
claims that took the row as new work, so a reclaim of an abandoned attempt does
not count. -/
theorem delivery_state_machine {start s : State} {history : List (State × Call)}
    (fresh : ∀ id d, start.db.deliveries.get id = some d → Fresh d)
    (run : Run next start history s) {id : Nat} {d : NotificationDelivery}
    (stored : s.db.deliveries.get id = some d) :
    d.attemptCount ≤ 3 ∧
      (d.status = .processing →
        1 ≤ d.attemptCount ∧ d.claimToken.isSome ∧ d.leaseExpiresAt.isSome ∧
          ∃ first last, d.firstAttemptAt = some first ∧ d.lastAttemptAt = some last ∧
            first ≤ last) ∧
      (d.status = .retryScheduled →
        1 ≤ d.attemptCount ∧ d.attemptCount ≤ 2 ∧ d.nextAttemptAt.isSome ∧ d.claimToken = none) ∧
      (d.status = .pending → d.attemptCount = 0) ∧
      (d.status.terminal = true → ∀ later s', Run next s later s' →
        s'.db.deliveries.get id = some d) ∧
      d.attemptCount = claimsAsNewWork history id ∧
      (d.status = .processing → ∀ call s', next s call = some s' →
        ∃ d', s'.db.deliveries.get id = some d' ∧ d'.attemptCount = d.attemptCount) := by
  have inv := runInvariant fresh run id
  rw [stored] at inv
  refine ⟨inv.1.budget, inv.1.processing, inv.1.retry, inv.1.pending,
    fun terminal _ _ later => terminal_stays terminal stored later, inv.2, ?_⟩
  intro processing call s' step
  obtain ⟨-, rfl⟩ := next_some step
  obtain ⟨d', stored', -, count⟩ := apply_row call stored
  refine ⟨d', stored', count.trans ?_⟩
  cases call <;> simp [countsAttempt, stored, processing]

/-! ### A run with a retry and an abandoned attempt -/

/-- A valid request for two channels. -/
def twoChannelRequest : NotificationDeliveryRequestedV1 where
  messageId := "incident:7:notification:2"
  occurredAt := 0
  incidentId := 7
  sourceId := 3
  tenantId := some 11
  severity := "critical"
  summary := "Dependency unavailable."
  triggerType := .availability
  occurrenceCount := 2
  guidance := "Verify the dependency independently."
  channels := [.webhook, .email]
  valid := by decide

/-- The database after the intake of `twoChannelRequest` at clock time zero. -/
def acceptedDb : Db :=
  addChannelDeliveries
    (claimNotificationRequest ⟨.empty, .empty, .empty⟩ twoChannelRequest 30 0).2.2 1
    twoChannelRequest

theorem fresh_acceptedDb {id : Nat} {d : NotificationDelivery}
    (h : acceptedDb.deliveries.get id = some d) : Fresh d := by
  have absent : (Rows.empty : Rows NotificationDelivery).get id = none := rfl
  obtain ⟨channel, -, rfl⟩ :=
    @get_addChannelDeliveries_new 1 id twoChannelRequest d twoChannelRequest.channels _ absent h
  exact fresh_channelDelivery 1 twoChannelRequest channel

/-- Delivery 1 fails once, is claimed again, loses its worker and is taken over
by a third claim. -/
def abandonedCalls : List Call :=
  [.claimDueDeliveries 1 "worker-a" 30 0 [],
    .scheduleDeliveryRetry 1 "worker-a" (seconds 30) .transport (some "timeout") "timed out" 0,
    .claimDueDeliveries 1 "worker-b" 30 (seconds 30) [2],
    .claimDueDeliveries 1 "worker-c" 30 (seconds 60) []]

theorem delivery_state_machine_abandoned :
    ∃ history s d, Run next ⟨acceptedDb, 0⟩ history s ∧ s.db.deliveries.get 1 = some d ∧
      d.claimToken = some "worker-c" ∧ d.attemptCount = 2 ∧ claimsAsNewWork history 1 = 2 := by
  obtain ⟨history, run⟩ := run_of_isSome
    (show (finalState next ⟨acceptedDb, 0⟩ abandonedCalls).isSome = true by decide)
  obtain ⟨d, stored, token, count⟩ :
      ∃ d, ((finalState next ⟨acceptedDb, 0⟩ abandonedCalls).get (by decide)).db.deliveries.get 1 =
        some d ∧ d.claimToken = some "worker-c" ∧ d.attemptCount = 2 := ⟨_, rfl, rfl, rfl⟩
  have claims := (delivery_state_machine (fun _ _ => fresh_acceptedDb) run stored).2.2.2.2.2.1
  exact ⟨history, _, d, run, stored, token, count, claims.symm.trans count⟩

end ApiObservatory.Notification
