import ApiObservatory.Outbox.Publisher

/-
The fence of the mark functions.

A mark function checks the claim token in a `SELECT` without a lock and writes
by primary key in a later statement. The fence holds in every run in which no
claim of an event commits while another pass stands between these two
statements for the same event: there a mark with an old token is refused, and
a committed claim stays until its own pass marks the event or its lease is
over. `late_mark_clears_claim` is the overlap.
-/

namespace ApiObservatory.Outbox

open Foundation

variable {Payload Value : Type}

/-- The token of a pass, from its claim on. -/
def Phase.token : Phase Payload Value → Option String
  | .idle => none
  | .claimSelected _ token _ _ => some token
  | .claimFlushed _ token _ _ => some token
  | .serving pass => some pass.token
  | .publishing pass _ _ _ => some pass.token
  | .fencing pass _ _ => some pass.token
  | .marking pass _ _ => some pass.token
  | .marked pass _ _ => some pass.token

/-- The pass has passed the fence of event `id` with `token` and has not
committed its mark. -/
def Phase.FencedAs (p : Phase Payload Value) (id : Nat) (token : String) : Prop :=
  ∃ pass entry mark, (p = .marking pass entry mark ∨ p = .marked pass entry mark) ∧
    entry.1 = id ∧ pass.token = token

/-- The step commits a claim of an event for which a pass stands between its
fence and its `UPDATE`. -/
def Overlaps (s : State Payload Value) (label : Label Payload) : Prop :=
  ∃ w pass entry mark, s.phase w = .marking pass entry mark ∧
    commitsClaim s label entry.1 = true

/-- The step commits a mark of event `id` by the pass with `token`. -/
def MarksAs (s : State Payload Value) (label : Label Payload) (id : Nat) (token : String) : Prop :=
  ∃ w pass entry mark, label = .advance w ∧ s.phase w = .marked pass entry mark ∧
    entry.1 = id ∧ pass.token = token

/-- The step commits a claim of event `id` made at `now`. -/
def ClaimsAt (s : State Payload Value) (label : Label Payload) (id : Nat) (now : Int) : Prop :=
  ∃ w due token leaseSeconds e, label = .advance w ∧
    s.phase w = .claimFlushed due token leaseSeconds now ∧ (id, e) ∈ due

/-! ### Tokens and fences along one statement -/

section Statement

variable {serialize : Payload → Value} {s s' : State Payload Value} {label : Label Payload}
  {w : Worker}

theorem Phase.FencedAs.token_eq {p : Phase Payload Value} {id : Nat} {token : String}
    (fenced : p.FencedAs id token) : p.token = some token := by
  obtain ⟨pass, entry, mark, rfl | rfl, -, rfl⟩ := fenced
  · rfl
  · rfl

theorem token_afterFailure {pass : Pass Payload} {entry : Nat × OutboxEvent Payload}
    {exceptionName token : String}
    (is : (afterFailure pass entry exceptionName : Phase Payload Value).token = some token) :
    pass.token = token := by
  unfold afterFailure at is
  split at is
  · cases is
  · exact Option.some.inj is

theorem token_serve {pass : Pass Payload} {token : String}
    (is : (serve serialize pass).token = some token) : pass.token = token := by
  unfold serve at is
  split at is
  · cases is
  · split at is
    · exact Option.some.inj is
    · have same := token_afterFailure is
      exact same

theorem Moves.token {seen : Nat → Option (OutboxEvent Payload)} {p p' : Phase Payload Value}
    (moves : Moves serialize seen w p label p') {token : String}
    (is : p'.token = some token) : p.token = some token := by
  cases moves with
  | serve pass => exact congrArg some (token_serve is)
  | failed pass entry topic value exceptionName => exact congrArg some (token_afterFailure is)
  | returned => exact is
  | refused => exact is
  | passed => exact is

/-- A pass keeps its token, and a new pass takes an unused one. -/
theorem Step.token (step : Step serialize s label s') {token : String}
    (is : (s'.phase label.worker).token = some token) :
    (s.phase label.worker).token = some token ∨ (token ∉ s.issued ∧ token ∈ s'.issued) := by
  cases step with
  | add => exact Or.inl is
  | duplicate => exact Or.inl is
  | selectPending w₁ limit token₁ leaseSeconds now phase unused =>
    simp only [State.selectPending, Label.worker, State.phase_moveTo_self, Phase.token] at is
    cases is
    exact Or.inr ⟨unused, List.mem_cons_self⟩
  | updateClaims w₁ due token₁ leaseSeconds now phase =>
    simp only [State.updateClaims, Label.worker, State.phase_moveTo_self, Phase.token] at is
    simp only [Label.worker, phase, Phase.token]
    exact Or.inl is
  | commitClaims w₁ due token₁ leaseSeconds now phase =>
    simp only [State.commit, Label.worker, State.phase_moveTo_self, Phase.token] at is
    simp only [Label.worker, phase, Phase.token]
    exact Or.inl is
  | move w₁ label p same moves =>
    subst same
    rw [State.phase_moveTo_self] at is
    exact Or.inl (moves.token is)
  | updateMark w₁ pass entry mark stored phase =>
    simp only [State.updateMark, Label.worker, State.phase_moveTo_self, Phase.token] at is
    simp only [Label.worker, phase, Phase.token]
    exact Or.inl is
  | commitMark w₁ pass entry mark phase =>
    simp only [State.commit, Label.worker, State.phase_moveTo_self, Phase.token] at is
    simp only [Label.worker, phase, Phase.token]
    exact Or.inl is
  | missingRow => simp [State.rollback, Label.worker, Phase.token] at is
  | rollback => simp [State.rollback, Label.worker, Phase.token] at is

theorem Step.issued (step : Step serialize s label s') {token : String}
    (used : token ∈ s.issued) : token ∈ s'.issued := by
  cases step with
  | selectPending => exact List.mem_cons_of_mem _ used
  | _ => exact used

theorem not_fencedAs_afterFailure {pass : Pass Payload} {entry : Nat × OutboxEvent Payload}
    {exceptionName : String} {id : Nat} {token : String} :
    ¬ (afterFailure pass entry exceptionName : Phase Payload Value).FencedAs id token := by
  rintro ⟨_, _, _, same, -⟩
  unfold afterFailure at same
  split at same <;> simp at same

theorem not_fencedAs_serve {pass : Pass Payload} {id : Nat} {token : String} :
    ¬ (serve serialize pass).FencedAs id token := by
  unfold serve
  split
  · rintro ⟨_, _, _, same, -⟩
    simp at same
  · split
    · rintro ⟨_, _, _, same, -⟩
      simp at same
    · exact not_fencedAs_afterFailure

/-- A move of phase passes the fence of `id` only over a committed version with
the token. -/
theorem Moves.fencedAs {seen : Nat → Option (OutboxEvent Payload)} {p p' : Phase Payload Value}
    (moves : Moves serialize seen w p label p') {id : Nat} {token : String}
    (fenced : p'.FencedAs id token) :
    ∃ row, seen id = some row ∧ row.claimToken = some token := by
  cases moves with
  | serve => exact absurd fenced not_fencedAs_serve
  | returned =>
    obtain ⟨_, _, _, same, -⟩ := fenced
    simp at same
  | failed => exact absurd fenced not_fencedAs_afterFailure
  | refused =>
    obtain ⟨_, _, _, same, -⟩ := fenced
    simp at same
  | passed pass entry mark row found carries =>
    obtain ⟨_, _, _, same, rfl, rfl⟩ := fenced
    simp only [Phase.marking.injEq, reduceCtorEq, or_false] at same
    obtain ⟨rfl, rfl, -⟩ := same
    exact ⟨row, found, carries⟩

/-- **The worker behind a fence**: its step left the committed rows alone, and
it either stood behind the fence before or has just read the token. -/
theorem Step.fencedAs (step : Step serialize s label s') (ok : PhaseOk s label.worker) {id : Nat}
    {token : String} (fenced : (s'.phase label.worker).FencedAs id token) :
    s'.outbox.rows.get id = s.outbox.rows.get id ∧
      ((s.phase label.worker).FencedAs id token ∨
        ∃ row, s.outbox.rows.get id = some row ∧ row.claimToken = some token) := by
  cases step with
  | add w₁ event phase =>
    have same : s.phase w₁ = .idle := phase
    obtain ⟨_, _, _, behind, -⟩ := fenced
    simp [Label.worker, same] at behind
  | duplicate => exact ⟨rfl, Or.inl fenced⟩
  | move w₁ label p same moves =>
    subst same
    rw [State.phase_moveTo_self] at fenced
    obtain ⟨row, seen, carries⟩ := moves.fencedAs fenced
    rw [(ok.unwritten moves.quiet.1).visible] at seen
    exact ⟨rfl, Or.inr ⟨row, seen, carries⟩⟩
  | updateMark w₁ pass entry mark stored phase =>
    obtain ⟨_, _, _, same, rfl, rfl⟩ := fenced
    simp only [State.updateMark, Label.worker, State.phase_moveTo_self, reduceCtorEq, false_or,
      Phase.marked.injEq] at same
    obtain ⟨rfl, rfl, rfl⟩ := same
    refine ⟨by simp [State.updateMark, State.moveTo], Or.inl ⟨pass, entry, mark, Or.inl ?_, rfl, rfl⟩⟩
    exact phase
  | _ =>
    obtain ⟨_, _, _, same, -⟩ := fenced
    simp [State.selectPending, State.updateClaims, State.commit, State.rollback,
      Label.worker] at same

end Statement

/-! ### The invariant -/

section Invariant

variable {serialize : Payload → Value} {s s' : State Payload Value} {label : Label Payload}
  {history : List (State Payload Value × Label Payload)}

/-- Passes have their own tokens, and behind a fence the committed event still
carries the token of the pass. -/
structure FenceInvariant (s : State Payload Value) : Prop where
  phases : PhasesOk s
  issued : ∀ {w token}, (s.phase w).token = some token → token ∈ s.issued
  distinct : ∀ {w w' token}, (s.phase w).token = some token → (s.phase w').token = some token →
    w = w'
  fenced : ∀ {w id token}, (s.phase w).FencedAs id token →
    ∃ row, s.outbox.rows.get id = some row ∧ row.claimToken = some token

theorem FenceInvariant.issued_step (inv : FenceInvariant s) (step : Step serialize s label s')
    {w : Worker} {token : String} (is : (s'.phase w).token = some token) : token ∈ s'.issued := by
  by_cases e : w = label.worker
  · subst e
    rcases step.token is with before | ⟨-, used⟩
    · exact step.issued (inv.issued before)
    · exact used
  · rw [(step.frame e).1] at is
    exact step.issued (inv.issued is)

theorem FenceInvariant.distinct_step (inv : FenceInvariant s) (step : Step serialize s label s')
    {w w' : Worker} {token : String} (is : (s'.phase w).token = some token)
    (is' : (s'.phase w').token = some token) : w = w' := by
  -- A worker other than the moving one keeps its issued token.
  have mover : ∀ other, other ≠ label.worker → (s'.phase other).token = some token →
      (s'.phase label.worker).token = some token → other = label.worker := by
    intro other ne isOther isMover
    rw [(step.frame ne).1] at isOther
    rcases step.token isMover with before | ⟨unused, -⟩
    · exact inv.distinct isOther before
    · exact absurd (inv.issued isOther) unused
  by_cases e : w = label.worker
  · by_cases e' : w' = label.worker
    · rw [e, e']
    · exact e.trans (mover w' e' is' (e ▸ is)).symm
  · by_cases e' : w' = label.worker
    · exact (mover w e is (e' ▸ is')).trans e'.symm
    · rw [(step.frame e).1] at is
      rw [(step.frame e').1] at is'
      exact inv.distinct is is'

/-- Another worker's statement leaves the token of an event behind a fence. -/
theorem FenceInvariant.token_kept (inv : FenceInvariant s) (apart : ¬ Overlaps s label)
    {w : Worker} (ne : w ≠ label.worker) {id : Nat} {token : String}
    (fenced : (s.phase w).FencedAs id token) {row row' : OutboxEvent Payload}
    (stored : s.outbox.rows.get id = some row) (change : RowChange s label id row row') :
    row' = row := by
  cases change with
  | keep => rfl
  | claim w₁ due token₁ leaseSeconds now is phase mem claimable =>
    subst is
    have counted : commitsClaim s (.advance w₁) id = true := by
      simp only [commitsClaim, phase, List.any_eq_true]
      exact ⟨_, mem, beq_self_eq_true id⟩
    obtain ⟨pass, entry, mark, marking | marked, rfl, -⟩ := fenced
    · exact absurd ⟨w, pass, entry, mark, marking, counted⟩ apart
    · -- Both transactions would hold the row.
      have own := inv.phases w
      have other := inv.phases w₁
      simp only [PhaseOk, marked] at own
      simp only [PhaseOk, phase] at other
      obtain ⟨_, locked, -⟩ := own
      have holder := locked.holder.symm.trans (other.1 _ mem).1.holder
      exact absurd (Option.some.inj holder) ne
  | mark w₁ pass entry mark is phase same holder =>
    subst is
    have behind : (s.phase w₁).FencedAs id pass.token :=
      ⟨pass, entry, mark, Or.inr phase, same, rfl⟩
    obtain ⟨seen, found, carries⟩ := inv.fenced behind
    obtain ⟨seen', found', carries'⟩ := inv.fenced fenced
    cases found.symm.trans found'
    have tokens : pass.token = token := Option.some.inj (carries.symm.trans carries')
    exact absurd (inv.distinct fenced.token_eq (tokens ▸ behind.token_eq)) ne

theorem FenceInvariant.fenced_step (inv : FenceInvariant s) (apart : ¬ Overlaps s label)
    (step : Step serialize s label s') {w : Worker} {id : Nat} {token : String}
    (fenced : (s'.phase w).FencedAs id token) :
    ∃ row, s'.outbox.rows.get id = some row ∧ row.claimToken = some token := by
  by_cases e : w = label.worker
  · subst e
    obtain ⟨same, behind | read⟩ := step.fencedAs (inv.phases _) fenced
    · rw [same]
      exact inv.fenced behind
    · rw [same]
      exact read
  · rw [(step.frame e).1] at fenced
    obtain ⟨row, stored, carries⟩ := inv.fenced fenced
    obtain ⟨row', stored', change⟩ := step.row_kept inv.phases stored
    rw [inv.token_kept apart e fenced stored change] at stored'
    exact ⟨row, stored', carries⟩

/-- **Every statement that overlaps no fence keeps the invariant.** -/
theorem FenceInvariant.step (inv : FenceInvariant s) (apart : ¬ Overlaps s label)
    (step : Step serialize s label s') : FenceInvariant s' where
  phases := inv.phases.step step
  issued := inv.issued_step step
  distinct := inv.distinct_step step
  fenced := inv.fenced_step apart step

theorem fenceInvariant_initial : FenceInvariant (initial : State Payload Value) where
  phases _ := Table.unwritten_ofRows _
  issued is := nomatch is
  distinct is := nomatch is
  fenced := fun ⟨_, _, _, same, _⟩ => by simp [initial] at same

/-! ### A committed claim -/

/-- A mark with another token is refused at its `SELECT`. -/
theorem FenceInvariant.refused (inv : FenceInvariant s) {id : Nat} {row : OutboxEvent Payload}
    {token : String} (stored : s.outbox.rows.get id = some row)
    (claimed : row.claimToken = some token) {w : Worker} {pass : Pass Payload}
    {entry : Nat × OutboxEvent Payload} {mark : Mark} (phase : s.phase w = .fencing pass entry mark)
    (named : entry.1 = id) (old : pass.token ≠ token) :
    next serialize s (.advance w) = some (s.moveTo w (.serving pass)) := by
  have clean : s.outbox.Unwritten w := by
    have ok := inv.phases w
    simpa only [PhaseOk, phase] using ok
  have mismatch : row.fence (some pass.token) = false := by
    simp [OutboxEvent.fence, claimed, Ne.symm old]
  have absent : (s.outbox.visible w entry.1).filter (·.fence (some pass.token)) = none := by
    rw [clean.visible, named, stored, Option.filter_some, mismatch]
    rfl
  simp only [next, advance, Label.worker, phase, absent]

/-- **One statement and a committed claim**: the event stays as it is, unless
the pass of the claim marks it or its lease is over. -/
theorem FenceInvariant.claim_kept (inv : FenceInvariant s) {id : Nat}
    {row row' : OutboxEvent Payload} {token : String} {lease : Int}
    (stored : s.outbox.rows.get id = some row) (claimed : row.claimToken = some token)
    (leased : row.leaseExpiresAt = some lease) (unmarked : ¬ MarksAs s label id token)
    (early : ∀ now, ClaimsAt s label id now → now < lease)
    (change : RowChange s label id row row') : row' = row := by
  cases change with
  | keep => rfl
  | claim w due token₁ leaseSeconds now is phase mem claimable =>
    have before := early now ⟨w, due, token₁, leaseSeconds, row, is, phase, mem⟩
    have past : lease ≤ now := by
      simp only [OutboxEvent.claimable, leased, Bool.and_eq_true, Option.isNone_some,
        Bool.false_or, atOrBefore_some, decide_eq_true_eq] at claimable
      exact claimable.1.2
    omega
  | mark w pass entry mark is phase same holder =>
    have behind : (s.phase w).FencedAs id pass.token :=
      ⟨pass, entry, mark, Or.inr phase, same, rfl⟩
    obtain ⟨seen, found, carries⟩ := inv.fenced behind
    cases found.symm.trans stored
    have tokens : pass.token = token := Option.some.inj (carries.symm.trans claimed)
    exact absurd ⟨w, pass, entry, mark, is, phase, same, tokens⟩ unmarked

theorem FenceInvariant.claim_stays (inv : FenceInvariant s) {id : Nat}
    {row : OutboxEvent Payload} {token : String} {lease : Int}
    (stored : s.outbox.rows.get id = some row) (claimed : row.claimToken = some token)
    (leased : row.leaseExpiresAt = some lease) (run : Run (next serialize) s history s')
    (apart : Along (fun s label => ¬ Overlaps s label) history)
    (unmarked : Along (fun s label => ¬ MarksAs s label id token) history)
    (early : Along (fun s label => ∀ now, ClaimsAt s label id now → now < lease) history) :
    FenceInvariant s' ∧ s'.outbox.rows.get id = some row := by
  induction run with
  | init => exact ⟨inv, stored⟩
  | snoc run step ih =>
    rw [along_cons] at apart unmarked early
    obtain ⟨inv₁, stored₁⟩ := ih apart.2 unmarked.2 early.2
    have step := next_step step
    refine ⟨inv₁.step apart.1 step, ?_⟩
    obtain ⟨row', stored', change⟩ := step.row_kept inv₁.phases stored₁
    rw [inv₁.claim_kept stored₁ claimed leased unmarked.1 early.1 change] at stored'
    exact stored'

theorem fenceInvariant (run : Run (next serialize) initial history s)
    (apart : Along (fun s label => ¬ Overlaps s label) history) : FenceInvariant s :=
  run.invariant_of_along fenceInvariant_initial
    (fun inv apart step => inv.step apart (next_step step)) apart

end Invariant

/-- **A committed claim is fenced where no claim overlaps a mark.** In every
run in which no claim of an event commits between the fence and the `UPDATE` of
a mark of that event: a mark of a claimed event with another token is refused
at its `SELECT`, no pass with another token stands behind the fence, and the
event stays as it is until its own pass commits a mark or a claim commits at or
after the end of the lease. -/
theorem outbox_claim_fenced (serialize : Payload → Value)
    (history : List (State Payload Value × Label Payload)) (s : State Payload Value)
    (run : Run (next serialize) initial history s)
    (apart : Along (fun s label => ¬ Overlaps s label) history) (id : Nat)
    (row : OutboxEvent Payload) (token : String) (lease : Int)
    (stored : s.outbox.rows.get id = some row) (claimed : row.claimToken = some token)
    (leased : row.leaseExpiresAt = some lease) :
    (∀ w pass entry mark, s.phase w = .fencing pass entry mark → entry.1 = id →
      pass.token ≠ token → next serialize s (.advance w) = some (s.moveTo w (.serving pass))) ∧
    (∀ w old, (s.phase w).FencedAs id old → old = token) ∧
    (∀ later s', Run (next serialize) s later s' →
      Along (fun s label => ¬ Overlaps s label) later →
      Along (fun s label => ¬ MarksAs s label id token) later →
      Along (fun s label => ∀ now, ClaimsAt s label id now → now < lease) later →
      s'.outbox.rows.get id = some row) := by
  have inv := fenceInvariant run apart
  refine ⟨fun w pass entry mark phase named old => inv.refused stored claimed phase named old,
    fun w old behind => ?_, fun later s' run' apart' unmarked early => ?_⟩
  · obtain ⟨seen, found, carries⟩ := inv.fenced behind
    cases found.symm.trans stored
    exact Option.some.inj (carries.symm.trans claimed)
  · exact (inv.claim_stays stored claimed leased run' apart' unmarked early).2

/-! ### A refused mark and a late one -/

/-- The step takes its worker past no fence. -/
def staysUnfenced (s : State String String) (label : Label String) : Bool :=
  match next id s label with
  | none => true
  | some s' =>
      match s'.phase label.worker with
      | .marking .. => false
      | _ => true

/-- As long as no pass stands behind a fence, no claim overlaps one. -/
theorem apart_of_unfenced {history : List (State String String × Label String)}
    {s : State String String} (run : Run (next id) initial history s)
    (unfenced : Along (fun s label => staysUnfenced s label = true) history) :
    (∀ w pass entry mark, s.phase w ≠ .marking pass entry mark) ∧
      Along (fun s label => ¬ Overlaps s label) history := by
  induction run with
  | init => exact ⟨fun w pass entry mark => nofun, along_nil _⟩
  | @snoc history s s' label run step ih =>
    rw [along_cons] at unfenced
    obtain ⟨before, apart⟩ := ih unfenced.2
    refine ⟨fun w pass entry mark phase => ?_, (along_cons _ _ _).mpr ⟨?_, apart⟩⟩
    · by_cases e : w = label.worker
      · have stays := unfenced.1
        simp [staysUnfenced, step, ← e, phase] at stays
      · rw [((next_step step).frame e).1] at phase
        exact before w pass entry mark phase
    · rintro ⟨w, pass, entry, mark, phase, -⟩
      exact before w pass entry mark phase

/-- An event whose payload is its own serialization. -/
def deadLetteredEvent (key : String) : NewEvent String where
  aggregateType := "notification_delivery"
  aggregateId := "1"
  eventType := eventNotificationDeliveryDeadLetteredV1
  payload := key
  idempotencyKey := key
  tenantId := none

/-- Worker 1 claims the event for 120 seconds and publishes it. -/
def publishedLabels : List (Label String) :=
  [.add 0 (deadLetteredEvent "event"), .selectPending 1 10 "token-1" 120 0, .advance 1, .advance 1,
    .advance 1, .publishReturned 1]

/-- Worker 2 claims the event a second after that lease. -/
def reclaimLabels : List (Label String) :=
  [.selectPending 2 10 "token-2" 120 (seconds 121), .advance 2, .advance 2]

/-- The mark of worker 1 comes after the claim of worker 2 and is refused. -/
theorem outbox_claim_fenced_refused :
    ∃ (history : List (State String String × Label String)) (s : State String String)
      (pass : Pass String) (row : OutboxEvent String), Run (next id) initial history s ∧
      s.outbox.rows.get 1 = some row ∧ row.claimToken = some "token-2" ∧
      pass.token = "token-1" ∧ next id s (.advance 1) = some (s.moveTo 1 (.serving pass)) := by
  obtain ⟨history, run⟩ := run_of_isSome
    (show (finalState (restrict staysUnfenced (next id)) initial
      (publishedLabels ++ reclaimLabels)).isSome = true by decide)
  obtain ⟨run, unfenced⟩ := run.of_restrict
  have fenced := outbox_claim_fenced id history _ run (apart_of_unfenced run unfenced).2 1 _
    "token-2" (seconds 241) rfl rfl rfl
  exact ⟨history, _, _, _, run, rfl, rfl, rfl, fenced.1 1 _ _ _ rfl rfl (by decide)⟩

/-- **A late mark clears a committed claim.** Worker 1 passes its fence, worker
2 commits a claim of the event, and the `UPDATE` of worker 1 then clears the
token and the lease of worker 2, which has marked nothing; no other claim is
made. -/
theorem late_mark_clears_claim :
    ∃ (history later : List (State String String × Label String)) (s s' : State String String)
      (row row' : OutboxEvent String), Run (next id) initial history s ∧
      s.outbox.rows.get 1 = some row ∧ row.claimToken = some "token-2" ∧
      row.leaseExpiresAt = some (seconds 241) ∧ Run (next id) s later s' ∧
      later.map Prod.snd = [.advance 1, .advance 1] ∧
      s'.outbox.rows.get 1 = some row' ∧ row'.claimToken = none ∧
      row'.leaseExpiresAt = none := by
  obtain ⟨history, run⟩ := run_of_isSome
    (show (finalState (next id) initial
      (publishedLabels ++ .advance 1 :: reclaimLabels)).isSome = true by decide)
  obtain ⟨later, run', labels⟩ := run_of_isSome_labels
    (show (finalState (next id) ((finalState (next id) initial
      (publishedLabels ++ .advance 1 :: reclaimLabels)).get (by decide))
      [.advance 1, .advance 1]).isSome = true by decide)
  exact ⟨history, later, _, _, _, _, run, rfl, rfl, rfl, run', labels, rfl, rfl, rfl⟩

end ApiObservatory.Outbox
