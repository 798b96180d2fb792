import ApiObservatory.Foundation.Run
import ApiObservatory.Platform.Breakers
import Mathlib.Logic.Function.Basic

/-
Overlapping calls through a circuit breaker.

The lock is held at the gate and at the end of a call, not between them, so each of the
two is one step and any other calls may run in between. The gate of a breaker that is
HALF_OPEN is not shut (`one_probe_iff`), and the end of a call does not ask when the
call was admitted (`closed_by_probe_iff`).
-/

namespace ApiObservatory.BreakerCalls

open Foundation

/-- A breaker and its calls in flight; a call is a probe when it was admitted in
HALF_OPEN, or by the transition into it. -/
structure World (Exc : Type) where
  breaker : Breaker Exc
  inFlight : Nat → Option Bool
  clock : Int

inductive Label (Exc : Type) where
  | arrive (call : Nat) (now : Int)
  | finish (call : Nat) (raised : Option (Raised Exc)) (now : Int)

variable {Exc : Type}

def Label.time : Label Exc → Int
  | .arrive _ now => now
  | .finish _ _ now => now

def start (breaker : Breaker Exc) (clock : Int) : World Exc where
  breaker := breaker
  inFlight _ := none
  clock := clock

/-- One locked section. -/
def next (world : World Exc) : Label Exc → Option (World Exc)
  | .arrive call now =>
      match world.inFlight call with
      | some _ => none
      | none =>
          match world.breaker.enter now with
          | none => some { world with clock := now }
          | some breaker =>
              some
                { breaker
                  inFlight := Function.update world.inFlight call (some (breaker.state == .halfOpen))
                  clock := now }
  | .finish call raised now =>
      match world.inFlight call with
      | none => none
      | some _ =>
          some
            { breaker := world.breaker.leave raised now
              inFlight := Function.update world.inFlight call none
              clock := now }

/-- What a step does. -/
inductive Step (world : World Exc) : Label Exc → World Exc → Prop where
  | rejected {call : Nat} {now : Int} (shut : world.breaker.enter now = none) :
      Step world (.arrive call now) { world with clock := now }
  | admitted {call : Nat} {now : Int} {breaker : Breaker Exc}
      (enters : world.breaker.enter now = some breaker) :
      Step world (.arrive call now)
        { breaker
          inFlight := Function.update world.inFlight call (some (breaker.state == .halfOpen))
          clock := now }
  | finished {call : Nat} (raised : Option (Raised Exc)) (now : Int) :
      Step world (.finish call raised now)
        { breaker := world.breaker.leave raised now
          inFlight := Function.update world.inFlight call none
          clock := now }

theorem next_step {world world' : World Exc} {label : Label Exc}
    (step : next world label = some world') : Step world label world' := by
  cases label with
  | arrive call now =>
    simp only [next] at step
    split at step
    · cases step
    · split at step
      · obtain rfl := Option.some.inj step
        exact .rejected ‹_›
      · obtain rfl := Option.some.inj step
        exact .admitted ‹_›
  | finish call raised now =>
    simp only [next] at step
    split at step
    · cases step
    · obtain rfl := Option.some.inj step
      exact .finished raised now

end BreakerCalls

/-! ### The gate and the end of a call -/

namespace Breaker

variable {Exc : Type} {breaker breaker' : Breaker Exc} {now : Int}

theorem enter_eq_none_iff :
    breaker.enter now = none ↔
      breaker.state = .opened ∧ now - breaker.openedAt < breaker.recoveryTimeout := by
  cases breaker with
  | classBased breaker =>
    simp only [enter, state, openedAt, recoveryTimeout, Option.map_eq_none_iff,
      CircuitBreaker.enter]
    by_cases isOpen : breaker.state = .opened
    · simp [isOpen]
    · simp [isOpen]
  | decorator breaker =>
    simp only [enter, state, openedAt, recoveryTimeout, Option.map_eq_none_iff,
      DecoratorBreaker.enter, DecoratorBreaker.maybeTransitionToHalfOpen]
    by_cases isOpen : breaker.state = .opened
    · by_cases due : now - breaker.lastFailureTime.getD 0 ≥ breaker.recoveryTimeout
      · simp [isOpen, due]
      · simp [isOpen, due]
        omega
    · simp [isOpen]

/-- What the gate does to the breaker. -/
theorem enter_cases (enters : breaker.enter now = some breaker') :
    breaker'.openedAt = breaker.openedAt ∧ breaker'.recoveryTimeout = breaker.recoveryTimeout ∧
      ((breaker.state = .opened ∧ breaker.openedAt + breaker.recoveryTimeout ≤ now ∧
          breaker'.state = .halfOpen) ∨
        (breaker.state ≠ .opened ∧ breaker'.state = breaker.state)) := by
  cases breaker with
  | classBased breaker =>
    simp only [enter, Option.map_eq_some_iff] at enters
    obtain ⟨entered, enters, rfl⟩ := enters
    simp only [CircuitBreaker.enter] at enters
    split at enters
    · rename_i isOpen
      split at enters
      · rename_i due
        cases enters
        exact ⟨rfl, rfl, Or.inl ⟨isOpen, by simp only [openedAt, recoveryTimeout]; omega, rfl⟩⟩
      · cases enters
    · rename_i isOpen
      cases enters
      exact ⟨rfl, rfl, Or.inr ⟨isOpen, rfl⟩⟩
  | decorator breaker =>
    simp only [enter, Option.map_eq_some_iff] at enters
    obtain ⟨entered, enters, rfl⟩ := enters
    simp only [DecoratorBreaker.enter, DecoratorBreaker.maybeTransitionToHalfOpen] at enters
    by_cases isOpen : breaker.state = .opened
    · by_cases due : now - breaker.lastFailureTime.getD 0 ≥ breaker.recoveryTimeout
      · simp only [if_pos isOpen, if_pos due] at enters
        cases enters
        exact ⟨rfl, rfl, Or.inl ⟨isOpen, by simp only [openedAt, recoveryTimeout]; omega, rfl⟩⟩
      · simp only [if_pos isOpen, if_neg due] at enters
        cases enters
    · rw [if_neg isOpen, if_neg isOpen] at enters
      cases enters
      exact ⟨rfl, rfl, Or.inr ⟨isOpen, rfl⟩⟩

/-- The next success closes the breaker. -/
def closesOnSuccess : Breaker Exc → Prop
  | .classBased breaker =>
      breaker.state = .halfOpen ∧
        (breaker.halfOpenSuccessCount : Int) + 1 ≥ breaker.halfOpenSuccesses
  | .decorator breaker => breaker.state ≠ .closed

theorem not_closed_of_closesOnSuccess (closes : breaker.closesOnSuccess) :
    breaker.state ≠ .closed := by
  cases breaker with
  | classBased breaker =>
    simp only [state, closes.1]
    decide
  | decorator breaker => exact closes

theorem leave_of_closesOnSuccess (closes : breaker.closesOnSuccess) (now : Int) :
    (breaker.leave none now).state = .closed := by
  cases breaker with
  | classBased breaker =>
    simp [leave, state, CircuitBreaker.leave, CircuitBreaker.observationSuccess, closes.1, closes.2]
  | decorator breaker => rfl

@[simp] theorem leave_recoveryTimeout (raised : Option (Raised Exc)) :
    (breaker.leave raised now).recoveryTimeout = breaker.recoveryTimeout := by
  cases breaker with
  | classBased breaker =>
    simp only [leave, recoveryTimeout, CircuitBreaker.leave, CircuitBreaker.observationSuccess,
      CircuitBreaker.observationFailure]
    repeat' split
    all_goals rfl
  | decorator breaker =>
    simp only [leave, recoveryTimeout, DecoratorBreaker.leave]
    split <;> rfl

/-- Where the end of a call can leave a breaker. -/
inductive Leaves (breaker : Breaker Exc) (raised : Option (Raised Exc)) (after : Breaker Exc) :
    Prop where
  | opened (is : after.state = .opened)
  | closed (is : after.state = .closed) (was : breaker.state = .closed)
  | closes (is : after.state = .closed) (success : raised = none)
      (closes : breaker.closesOnSuccess)
  | halfOpen (is : after.state = .halfOpen) (was : breaker.state = .halfOpen)
      (openedAt : after.openedAt = breaker.openedAt)

theorem Leaves.of_unchanged {raised : Option (Raised Exc)} (state : breaker'.state = breaker.state)
    (openedAt : breaker'.openedAt = breaker.openedAt) : Leaves breaker raised breaker' := by
  cases was : breaker.state with
  | opened => exact .opened (state.trans was)
  | closed => exact .closed (state.trans was) was
  | halfOpen => exact .halfOpen (state.trans was) was openedAt

theorem Leaves.of_state {raised : Option (Raised Exc)} (state : breaker'.state = breaker.state)
    (settled : breaker.state ≠ .halfOpen) : Leaves breaker raised breaker' := by
  cases was : breaker.state with
  | opened => exact .opened (state.trans was)
  | closed => exact .closed (state.trans was) was
  | halfOpen => exact absurd was settled

theorem leave_leaves (breaker : Breaker Exc) (raised : Option (Raised Exc)) (now : Int) :
    Leaves breaker raised (breaker.leave raised now) := by
  cases breaker with
  | classBased breaker =>
    cases raised with
    | none =>
      simp only [leave, CircuitBreaker.leave, CircuitBreaker.observationSuccess]
      by_cases half : breaker.state = .halfOpen
      · rw [if_pos half]
        split
        · rename_i last
          exact .closes rfl rfl ⟨half, last⟩
        · exact .halfOpen half half rfl
      · rw [if_neg half]
        exact .of_state rfl half
    | some exc =>
      simp only [leave, CircuitBreaker.leave, CircuitBreaker.observationFailure]
      by_cases failure : breaker.isFailure exc = true
      · rw [if_pos failure]
        by_cases half : breaker.state = .halfOpen
        · rw [if_pos half]
          exact .opened rfl
        · rw [if_neg half]
          split
          · exact .opened rfl
          · exact .of_state rfl half
      · rw [if_neg failure]
        exact .of_unchanged rfl rfl
  | decorator breaker =>
    cases raised with
    | none =>
      by_cases closed : breaker.state = .closed
      · exact .closed rfl closed
      · exact .closes rfl rfl closed
    | some raised =>
      cases raised with
      | exception error =>
        simp only [leave, DecoratorBreaker.leave, DecoratorBreaker.onFailure]
        split
        · exact .opened rfl
        · rename_i kept
          exact .of_state rfl fun half => kept (Or.inr half)
      | exit => exact .of_unchanged rfl rfl

end Breaker

namespace BreakerCalls

open Foundation

variable {Exc : Type} {breaker : Breaker Exc} {clock : Int} {world world' : World Exc}
  {history : List (World Exc × Label Exc)}

/-! ### One probe at a time -/

def Probing (world : World Exc) : Prop := ∃ call, world.inFlight call = some true

/-- At most one probe is in flight, and a call that arrived just now while there was one
has been rejected. -/
structure OneProbe (history : List (World Exc × Label Exc)) (world : World Exc) : Prop where
  single : ∀ {call other}, world.inFlight call = some true → world.inFlight other = some true →
    call = other
  rejected : ∀ {before earlier call now}, history = (before, .arrive call now) :: earlier →
    Probing before → before.breaker.enter now = none

/-- A call that arrives while a probe is in flight finds the breaker open again, for less
than the timeout. -/
def GateShut (_ : List (World Exc × Label Exc)) (world : World Exc) : Label Exc → Prop
  | .arrive _ now => Probing world →
      world.breaker.state = .opened ∧ now - world.breaker.openedAt < world.breaker.recoveryTimeout
  | .finish .. => True

/-- **One probe in HALF_OPEN** holds of a run of overlapping calls exactly when no call
arrives at an open gate while a probe is in flight. -/
theorem one_probe_iff (run : Run next (start breaker clock) history world) :
    Throughout OneProbe history world ↔ Meets GateShut history := by
  refine Run.throughout_iff_meets ⟨fun probe => (by cases probe), nofun⟩ ?_ run
  intro earlier before label after _ one step
  cases next_step step with
  | @rejected call now shut =>
    have kept : OneProbe ((before, .arrive call now) :: earlier) { before with clock := now } :=
      ⟨one.single, fun same _ => by cases same; exact shut⟩
    exact iff_of_true kept fun _ => Breaker.enter_eq_none_iff.mp shut
  | @admitted call now entered enters =>
    have admits : ¬ (before.breaker.state = .opened ∧
        now - before.breaker.openedAt < before.breaker.recoveryTimeout) := by
      intro shut
      rw [Breaker.enter_eq_none_iff.mpr shut] at enters
      cases enters
    constructor
    · intro one' probing
      have shut := one'.rejected rfl probing
      rw [shut] at enters
      cases enters
    · intro gateShut
      have alone : ∀ other, before.inFlight other ≠ some true := fun other probe =>
        admits (gateShut ⟨other, probe⟩)
      refine ⟨?_, fun same probing => ?_⟩
      · have only : ∀ {other}, Function.update before.inFlight call
            (some (entered.state == .halfOpen)) other = some true → other = call := by
          intro other probe
          by_contra differs
          rw [Function.update_of_ne differs] at probe
          exact alone other probe
        exact fun {_ _} probe probe' => (only probe).trans (only probe').symm
      · cases same
        obtain ⟨other, probe⟩ := probing
        exact absurd probe (alone other)
  | @finished call raised now =>
    refine iff_of_true ⟨?_, nofun⟩ trivial
    have before_of : ∀ {other}, Function.update before.inFlight call none other = some true →
        before.inFlight other = some true := by
      intro other probe
      by_cases here : other = call
      · subst here
        rw [Function.update_self] at probe
        cases probe
      · rwa [Function.update_of_ne here] at probe
    exact fun {_ _} probe probe' => one.single (before_of probe) (before_of probe')

/-! ### The call that closes the breaker -/

/-- The step opens a breaker that was not open. -/
def Opens (world : World Exc) : Label Exc → Prop
  | .arrive .. => False
  | .finish _ raised now =>
      world.breaker.state ≠ .opened ∧ (world.breaker.leave raised now).state = .opened

/-- Some step since the breaker last opened satisfies `p`. -/
def SinceOpening (p : World Exc → Label Exc → Prop) : List (World Exc × Label Exc) → Prop
  | [] => False
  | (world, label) :: earlier => p world label ∨ (¬ Opens world label ∧ SinceOpening p earlier)

/-- The call is admitted, not before a time. -/
def Admits (call : Nat) (since : Option Int) (world : World Exc) (label : Label Exc) : Prop :=
  ∃ now, label = .arrive call now ∧ (world.breaker.enter now).isSome = true ∧
    ∀ time ∈ since, time ≤ now

/-- When the recovery timeout runs out. -/
def expiry (world : World Exc) : Int := world.breaker.openedAt + world.breaker.recoveryTimeout

/-- A step that closes the breaker is the success of a call that was admitted after the
breaker last opened, when the timeout had run out. -/
def ByProbe (earlier : List (World Exc × Label Exc)) (world : World Exc) (label : Label Exc) :
    Prop :=
  ∀ world', next world label = some world' → world.breaker.state ≠ .closed →
    world'.breaker.state = .closed →
      ∃ call now, label = .finish call none now ∧
        SinceOpening (Admits call (some (expiry world))) earlier

/-- A success that closes the breaker is not the late one of a call that was admitted
before the breaker last opened. -/
def NoLateSuccess (earlier : List (World Exc × Label Exc)) (world : World Exc)
    (label : Label Exc) : Prop :=
  ∀ call now, label = .finish call none now → world.breaker.closesOnSuccess →
    SinceOpening (Admits call none) earlier

theorem SinceOpening.mono {p q : World Exc → Label Exc → Prop}
    (imp : ∀ world label, p world label → q world label) (since : SinceOpening p history) :
    SinceOpening q history := by
  induction history with
  | nil => exact since
  | cons entry earlier ih => exact since.imp (imp _ _) fun ⟨kept, since⟩ => ⟨kept, ih since⟩

/-- While a breaker is open no call has been admitted since it opened; in HALF_OPEN such
calls were admitted when the timeout had run out. -/
structure Recovering (history : List (World Exc × Label Exc)) (world : World Exc) : Prop where
  opened : world.breaker.state = .opened → ∀ call, ¬ SinceOpening (Admits call none) history
  due : world.breaker.state = .halfOpen → expiry world ≤ world.clock
  probes : world.breaker.state = .halfOpen → ∀ call, SinceOpening (Admits call none) history →
    SinceOpening (Admits call (some (expiry world))) history

theorem Recovering.of_closed (closed : world.breaker.state = .closed) :
    Recovering history world := by
  refine ⟨fun is => ?_, fun is => ?_, fun is => ?_⟩
  · rw [closed] at is; cases is
  · rw [closed] at is; cases is
  · rw [closed] at is; cases is

/-- One step with a clock that does not run backwards. -/
theorem Recovering.step {label : Label Exc} (recovering : Recovering history world)
    (ordered : world.clock ≤ label.time) (step : next world label = some world') :
    Recovering ((world, label) :: history) world' := by
  cases next_step step with
  | @rejected call now shut =>
    have isOpen := (Breaker.enter_eq_none_iff.mp shut).1
    have half : world.breaker.state ≠ .halfOpen := by simp [isOpen]
    refine ⟨fun _ other since => ?_, fun is => absurd is half, fun is => absurd is half⟩
    rcases since with ⟨now', same, admitted, -⟩ | ⟨-, since⟩
    · cases same
      rw [shut] at admitted
      cases admitted
    · exact recovering.opened isOpen other since
  | @admitted call now entered enters =>
    obtain ⟨openedAt, timeout, cases⟩ := Breaker.enter_cases enters
    have sameExpiry : entered.openedAt + entered.recoveryTimeout = expiry world := by
      rw [openedAt, timeout, expiry]
    -- the call just admitted comes at or after the expiry
    have here : expiry world ≤ now → Admits call
        (some (entered.openedAt + entered.recoveryTimeout)) world (.arrive call now) := by
      intro due
      refine ⟨now, rfl, by simp [enters], fun time is => ?_⟩
      rw [← Option.mem_some.mp is, sameExpiry]
      exact due
    rcases cases with ⟨isOpen, due, half⟩ | ⟨notOpen, same⟩
    · refine ⟨fun is => ?_, fun _ => ?_, fun _ other since => ?_⟩
      · rw [half] at is; cases is
      · exact Int.le_trans (Int.le_of_eq sameExpiry) due
      · rcases since with ⟨now', same, -, -⟩ | ⟨-, since⟩
        · cases same
          exact Or.inl (here due)
        · exact absurd since (recovering.opened isOpen other)
    · refine ⟨fun is => absurd (same.symm.trans is) notOpen, fun is => ?_, fun is other since => ?_⟩
      · exact Int.le_trans (Int.le_of_eq sameExpiry)
          (Int.le_trans (recovering.due (same.symm.trans is)) ordered)
      · have half := same.symm.trans is
        rcases since with ⟨now', same, -, -⟩ | ⟨-, since⟩
        · cases same
          exact Or.inl (here (Int.le_trans (recovering.due half) ordered))
        · refine Or.inr ⟨id, ?_⟩
          show SinceOpening (Admits other (some (entered.openedAt + entered.recoveryTimeout))) _
          rw [sameExpiry]
          exact recovering.probes half other since
  | @finished call raised now =>
    have earlier : ∀ {other}, SinceOpening (Admits other none)
        ((world, .finish call raised now) :: history) →
        ¬ Opens world (.finish call raised now) ∧ SinceOpening (Admits other none) history :=
      fun since => since.resolve_left fun ⟨_, same, _⟩ => by cases same
    cases world.breaker.leave_leaves raised now with
    | closed is was => exact .of_closed is
    | closes is success closes => exact .of_closed is
    | opened is =>
      have half : (world.breaker.leave raised now).state ≠ .halfOpen := by simp [is]
      refine ⟨fun _ other since => ?_, fun is => absurd is half, fun is => absurd is half⟩
      obtain ⟨kept, since⟩ := earlier since
      have wasOpen : world.breaker.state = .opened := by
        by_contra notOpen
        exact kept ⟨notOpen, is⟩
      exact recovering.opened wasOpen other since
    | halfOpen is was openedAt =>
      have sameExpiry : (world.breaker.leave raised now).openedAt +
          (world.breaker.leave raised now).recoveryTimeout = expiry world := by
        rw [openedAt, Breaker.leave_recoveryTimeout, expiry]
      have isHalf : (world.breaker.leave raised now).state ≠ .opened := by simp [is]
      refine ⟨fun is => absurd is isHalf, fun _ => ?_, fun _ other since => ?_⟩
      · exact Int.le_trans (Int.le_of_eq sameExpiry) (Int.le_trans (recovering.due was) ordered)
      · obtain ⟨kept, since⟩ := earlier since
        refine Or.inr ⟨kept, ?_⟩
        show SinceOpening (Admits other (some (_ + _))) _
        rw [sameExpiry]
        exact recovering.probes was other since

/-- The clock does not run backwards. -/
abbrev Ordered (world : World Exc) (label : Label Exc) : Prop := world.clock ≤ label.time

theorem Recovering.of_run (fresh : breaker.state = .closed)
    (run : Run next (start breaker clock) history world) (ordered : Along Ordered history) :
    Recovering history world := by
  induction run with
  | init => exact .of_closed fresh
  | snoc run step ih =>
    rw [along_cons] at ordered
    exact (ih ordered.2).step ordered.1 step

/-- **OPEN is left through a recovery probe** in a run of overlapping calls exactly when no
call that was admitted before the breaker opened closes it by a late success. -/
theorem closed_by_probe_iff (fresh : breaker.state = .closed)
    (run : Run next (start breaker clock) history world) (ordered : Along Ordered history) :
    Meets ByProbe history ↔ Meets NoLateSuccess history := by
  induction run with
  | init => exact Iff.rfl
  | @snoc earlier before after label run step ih =>
    rw [along_cons] at ordered
    have recovering := Recovering.of_run fresh run ordered.2
    refine and_congr ?_ (ih ordered.2)
    constructor
    · rintro byProbe call now rfl closes
      have closed : after.breaker.state = .closed := by
        cases next_step step with
        | finished => exact Breaker.leave_of_closesOnSuccess closes now
      obtain ⟨_, _, same, since⟩ :=
        byProbe after step (Breaker.not_closed_of_closesOnSuccess closes) closed
      cases same
      exact since.mono fun _ _ ⟨now, is, admitted, _⟩ => ⟨now, is, admitted, nofun⟩
    · intro noLate world' step' notClosed closed
      cases next_step step' with
      | rejected => exact absurd closed notClosed
      | admitted enters =>
        rcases (Breaker.enter_cases enters).2.2 with ⟨-, -, half⟩ | ⟨-, same⟩
        · rw [half] at closed
          cases closed
        · exact absurd (same.symm.trans closed) notClosed
      | @finished call raised now =>
        cases before.breaker.leave_leaves raised now with
        | opened is => rw [is] at closed; cases closed
        | closed _ was => exact absurd was notClosed
        | halfOpen is => rw [is] at closed; cases closed
        | closes _ success closes =>
          subst success
          have since := noLate call now rfl closes
          refine ⟨call, now, rfl, ?_⟩
          cases was : before.breaker.state with
          | closed => exact absurd was notClosed
          | opened => exact absurd since (recovering.opened was call)
          | halfOpen => exact recovering.probes was call since

/-! ### Two calls at once -/

/-- The breakers that open at the first failure, for ten ticks. -/
def tripping : Breaker Unit := .classBased { failureThreshold := 1, recoveryTimeout := 10 }

def trippingDecorator : Breaker Unit := .decorator { failureThreshold := 1, recoveryTimeout := 10 }

/-- The second call is the probe, and the third one comes after it. -/
theorem one_probe_after_another :
    ∃ history world, Run next (start tripping 0) history world ∧
      (Throughout OneProbe history world ↔ Meets GateShut history) :=
  have run : Run next (start tripping 0) _ _ := execute_run .init
    (rfl : execute next [] (start tripping 0) [.arrive 1 0, .finish 1 (some (.exception ())) 1,
      .arrive 2 11, .finish 2 none 12, .arrive 3 12] = some (_, _))
  ⟨_, _, run, one_probe_iff run⟩

/-- The third call is admitted while the second one is the probe. -/
theorem two_probes_in_flight :
    (¬ ∀ history world, Run next (start tripping 0) history world →
      Throughout OneProbe history world) ∧
    ¬ ∀ history world, Run next (start trippingDecorator 0) history world →
      Throughout OneProbe history world := by
  constructor
  · intro claim
    have run : Run next (start tripping 0) _ _ := execute_run .init
      (rfl : execute next [] (start tripping 0) [.arrive 1 0, .finish 1 (some (.exception ())) 1,
        .arrive 2 11, .arrive 3 12] = some (_, _))
    have same : 2 = 3 := (claim _ _ run).here.single rfl rfl
    cases same
  · intro claim
    have run : Run next (start trippingDecorator 0) _ _ := execute_run .init
      (rfl : execute next [] (start trippingDecorator 0) [.arrive 1 0,
        .finish 1 (some (.exception ())) 1, .arrive 2 11, .arrive 3 12] = some (_, _))
    have same : 2 = 3 := (claim _ _ run).here.single rfl rfl
    cases same

/-- The probe closes the breaker. -/
theorem closed_by_probe_alone :
    ∃ history world, Run next (start tripping 0) history world ∧
      (Meets ByProbe history ↔ Meets NoLateSuccess history) :=
  have run : Run next (start tripping 0) _ _ := execute_run .init
    (rfl : execute next [] (start tripping 0) [.arrive 1 0, .finish 1 (some (.exception ())) 1,
      .arrive 2 11, .finish 2 none 12] = some (_, _))
  ⟨_, _, run, closed_by_probe_iff rfl run (by unfold Along; decide)⟩

/-- The second call was admitted before the first one opened the breaker, and its success
closes the breaker: the class during the probe of the third call, the decorator's at once. -/
theorem closed_by_late_success :
    (¬ ∀ history world, Run next (start tripping 0) history world → Along Ordered history →
      Meets ByProbe history) ∧
    ¬ ∀ history world, Run next (start trippingDecorator 0) history world →
      Along Ordered history → Meets ByProbe history := by
  constructor
  · intro claim
    have run : Run next (start tripping 0) _ _ := execute_run .init
      (rfl : execute next [] (start tripping 0) [.arrive 1 0, .arrive 2 0,
        .finish 1 (some (.exception ())) 1, .arrive 3 11, .finish 2 none 12] = some (_, _))
    obtain ⟨byProbe, -⟩ := claim _ _ run (by unfold Along; decide)
    obtain ⟨call, now, same, since⟩ := byProbe _ rfl (by decide) rfl
    cases same
    rcases since with ⟨_, same, -⟩ | ⟨-, ⟨_, same, -⟩ | ⟨kept, -⟩⟩
    · cases same
    · cases same
    · exact kept ⟨by decide, rfl⟩
  · intro claim
    have run : Run next (start trippingDecorator 0) _ _ := execute_run .init
      (rfl : execute next [] (start trippingDecorator 0) [.arrive 1 0, .arrive 2 0,
        .finish 1 (some (.exception ())) 1, .finish 2 none 2] = some (_, _))
    obtain ⟨byProbe, -⟩ := claim _ _ run (by unfold Along; decide)
    obtain ⟨call, now, same, since⟩ := byProbe _ rfl (by decide) rfl
    cases same
    rcases since with ⟨_, same, -⟩ | ⟨kept, -⟩
    · cases same
    · exact kept ⟨by decide, rfl⟩

end BreakerCalls

end ApiObservatory
