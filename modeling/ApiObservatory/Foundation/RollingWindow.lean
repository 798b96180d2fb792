import ApiObservatory.Foundation.Clock
import Mathlib.Algebra.Order.Group.Unbundled.Basic
import Mathlib.Algebra.Order.Group.Defs
import Mathlib.Data.List.TakeWhile

/-
Rolling windows.

A window keeps the times of its grants, oldest first. A call drops what is older than the
width from the front, which is all it ever drops, and is granted while fewer than the limit
are left. With a clock that does not go back, what is left are exactly the grants of the last
`width`, so no interval of that width holds more than the limit, wherever it lies.
-/

namespace ApiObservatory.Foundation

universe u v w

/-- What a cutoff drops from the front of a sorted list is what lies below it. -/
theorem dropWhile_lt_eq_filter {Time : Type u} [LinearOrder Time] {cutoff : Time}
    {stamps : List Time} (sorted : stamps.Pairwise (· ≤ ·)) :
    stamps.dropWhile (fun stamp => decide (stamp < cutoff)) =
      stamps.filter fun stamp => decide (cutoff ≤ stamp) := by
  induction stamps with
  | nil => rfl
  | cons first rest ih =>
    obtain ⟨least, sorted⟩ := List.pairwise_cons.mp sorted
    by_cases old : first < cutoff
    · rw [List.dropWhile_cons_of_pos (by simpa using old), ih sorted,
        List.filter_cons_of_neg (by simpa using old)]
    · have all : ∀ stamp ∈ first :: rest, decide (cutoff ≤ stamp) = true := by
        intro stamp mem
        rcases List.mem_cons.mp mem with rfl | later
        · exact decide_eq_true (not_lt.mp old)
        · exact decide_eq_true ((not_lt.mp old).trans (least stamp later))
      rw [List.dropWhile_cons_of_neg (by simpa using old), List.filter_eq_self.mpr all]

structure RollingWindow (Time : Type u) where
  limit : Nat
  width : Time

namespace RollingWindow

variable {Time : Type u} [AddCommGroup Time] [LinearOrder Time]

section Definitions

variable (window : RollingWindow Time) (now : Time) (stamps : List Time)

/-- What is left of the stamps. -/
def expire : List Time := stamps.dropWhile fun stamp => decide (stamp < now - window.width)

/-- A call: whether it is granted, and the stamps it leaves. -/
def ask : Bool × List Time :=
  let kept := window.expire now stamps
  if kept.length < window.limit then (true, kept ++ [now]) else (false, kept)

/-- The number of grants in the closed interval of the window's width from `start` on. -/
def within (start : Time) (grants : List Time) : Nat :=
  grants.countP fun stamp => decide (start ≤ stamp ∧ stamp ≤ start + window.width)

/-- No interval holds more grants than the limit, and the one up to a refusal holds as many. -/
structure Exact (grants refusals : List Time) : Prop where
  bound : ∀ start, window.within start grants ≤ window.limit
  full : ∀ now ∈ refusals, window.within (now - window.width) grants = window.limit

/-- The stamps are the grants less some that are out of reach from `clock` on. -/
structure Tracks (clock : Time) (grants stamps : List Time) : Prop where
  ordered : grants.Pairwise (· ≤ ·)
  past : ∀ stamp ∈ grants, stamp ≤ clock
  kept : ∃ dropped, grants = dropped ++ stamps ∧ ∀ stamp ∈ dropped, stamp < clock - window.width
  bound : ∀ start, window.within start grants ≤ window.limit

end Definitions

variable {window : RollingWindow Time} {now clock start : Time} {grants stamps : List Time}

theorem ask_fst_iff :
    (window.ask now stamps).1 = true ↔ (window.expire now stamps).length < window.limit := by
  by_cases room : (window.expire now stamps).length < window.limit
  · simp [ask, room]
  · simp [ask, room]

theorem ask_granted (granted : (window.ask now stamps).1 = true) :
    (window.ask now stamps).2 = window.expire now stamps ++ [now] := by
  simp [ask, ask_fst_iff.mp granted]

theorem ask_refused (refused : (window.ask now stamps).1 = false) :
    (window.ask now stamps).2 = window.expire now stamps := by
  have full : ¬ (window.expire now stamps).length < window.limit := by
    rw [← ask_fst_iff, refused]
    exact Bool.false_ne_true
  simp [ask, full]

/-- A full window grants a call exactly when its oldest stamp is too old. -/
theorem ask_full_iff {oldest : Time} {rest : List Time} (full : (oldest :: rest).length = window.limit) :
    (window.ask now (oldest :: rest)).1 = true ↔ oldest < now - window.width := by
  rw [ask_fst_iff, expire, ← full]
  by_cases old : oldest < now - window.width
  · rw [List.dropWhile_cons_of_pos (by simpa using old)]
    refine iff_of_true (Nat.lt_succ_of_le ?_) old
    exact (List.dropWhile_sublist _).length_le
  · rw [List.dropWhile_cons_of_neg (by simpa using old)]
    exact iff_of_false (lt_irrefl _) old

theorem Tracks.nil (window : RollingWindow Time) (clock : Time) : window.Tracks clock [] [] where
  ordered := List.Pairwise.nil
  past _ mem := nomatch mem
  kept := ⟨[], rfl, fun _ mem => nomatch mem⟩
  bound _ := Nat.zero_le _

/-- More grants leave a full interval full, as long as they keep the bound. -/
theorem within_append_of_full {more : List Time}
    (full : window.within start grants = window.limit)
    (bound : window.within start (grants ++ more) ≤ window.limit) :
    window.within start (grants ++ more) = window.limit := by
  refine le_antisymm bound ?_
  unfold within at full ⊢
  rw [List.countP_append, full]
  exact Nat.le_add_right _ _

/-! ### Calls along a clock -/

/-- **What is left are the grants of the last `width`.** -/
theorem Tracks.expire_eq (tracks : window.Tracks now grants stamps) :
    window.expire now stamps = grants.filter fun stamp => decide (now - window.width ≤ stamp) := by
  obtain ⟨dropped, same, old⟩ := tracks.kept
  have sorted : stamps.Pairwise (· ≤ ·) := by
    have := tracks.ordered
    rw [same] at this
    exact (List.pairwise_append.mp this).2.1
  have none : dropped.filter (fun stamp => decide (now - window.width ≤ stamp)) = [] := by
    rw [List.filter_eq_nil_iff]
    intro stamp mem
    rw [decide_eq_true_eq]
    exact not_le.mpr (old stamp mem)
  rw [same, List.filter_append, none, List.nil_append]
  exact dropWhile_lt_eq_filter sorted

theorem Tracks.kept_expire (tracks : window.Tracks now grants stamps) :
    ∃ dropped, grants = dropped ++ window.expire now stamps ∧
      ∀ stamp ∈ dropped, stamp < now - window.width := by
  obtain ⟨dropped, same, old⟩ := tracks.kept
  refine ⟨dropped ++ stamps.takeWhile fun stamp => decide (stamp < now - window.width), ?_, ?_⟩
  · rw [List.append_assoc, expire, List.takeWhile_append_dropWhile, same]
  · intro stamp mem
    rcases List.mem_append.mp mem with dropped | taken
    · exact old stamp dropped
    · have old := List.mem_takeWhile_imp (p := fun stamp => decide (stamp < now - window.width)) taken
      exact of_decide_eq_true old

/-- What is dropped early is out of reach anyway. -/
theorem Tracks.drop (tracks : window.Tracks now grants stamps) :
    window.Tracks now grants (window.expire now stamps) :=
  { tracks with kept := tracks.kept_expire }

/-- A refusal leaves what is left. -/
theorem Tracks.refuse (tracks : window.Tracks now grants stamps)
    (refused : (window.ask now stamps).1 = false) :
    window.Tracks now grants (window.ask now stamps).2 := by
  rw [ask_refused refused]
  exact tracks.drop

variable [IsOrderedAddMonoid Time]

/-- The grants that are left are those of the interval that ends now. -/
theorem Tracks.length_expire (tracks : window.Tracks now grants stamps) :
    (window.expire now stamps).length = window.within (now - window.width) grants := by
  rw [tracks.expire_eq, ← List.countP_eq_length_filter]
  refine List.countP_congr fun stamp mem => ?_
  simp [tracks.past stamp mem]

theorem Tracks.later (tracks : window.Tracks clock grants stamps) (passed : clock ≤ now) :
    window.Tracks now grants stamps := by
  obtain ⟨dropped, same, old⟩ := tracks.kept
  refine { tracks with past := ?_, kept := ⟨dropped, same, ?_⟩ }
  · exact fun stamp mem => (tracks.past stamp mem).trans passed
  · exact fun stamp mem => (old stamp mem).trans_le (sub_le_sub_right passed _)

/-- An interval that holds the time of a call lies above the interval that ends there. -/
theorem within_le_expire (tracks : window.Tracks now grants stamps)
    (holds : now ≤ start + window.width) :
    window.within start grants ≤ (window.expire now stamps).length := by
  rw [tracks.length_expire]
  refine List.countP_mono_left fun stamp mem inside => ?_
  simp only [decide_eq_true_eq, sub_add_cancel] at inside ⊢
  exact ⟨(sub_le_iff_le_add.mpr holds).trans inside.1, tracks.past stamp mem⟩

/-- **A grant** keeps the bound: an interval that gets a grant more held only grants that
the call has counted. -/
theorem Tracks.grant (tracks : window.Tracks now grants stamps)
    (granted : (window.ask now stamps).1 = true) :
    window.Tracks now (grants ++ [now]) (window.ask now stamps).2 := by
  have room := ask_fst_iff.mp granted
  rw [ask_granted granted]
  refine { ordered := ?_, past := ?_, kept := ?_, bound := ?_ }
  · refine List.pairwise_append.mpr ⟨tracks.ordered, List.pairwise_singleton _ _, ?_⟩
    intro stamp mem other last
    rw [List.mem_singleton.mp last]
    exact tracks.past stamp mem
  · intro stamp mem
    rcases List.mem_append.mp mem with old | last
    · exact tracks.past stamp old
    · exact (List.mem_singleton.mp last).le
  · obtain ⟨dropped, same, old⟩ := tracks.kept_expire
    exact ⟨dropped, by rw [← List.append_assoc, ← same], old⟩
  · intro start
    unfold within
    rw [List.countP_append, List.countP_singleton]
    by_cases inside : start ≤ now ∧ now ≤ start + window.width
    · have few := within_le_expire tracks inside.2
      rw [if_pos (decide_eq_true inside)]
      exact Nat.succ_le_of_lt (few.trans_lt room)
    · rw [if_neg (by simpa using inside), Nat.add_zero]
      exact tracks.bound start

/-- **A refusal** finds the window full. -/
theorem Tracks.full (tracks : window.Tracks now grants stamps)
    (refused : (window.ask now stamps).1 = false) :
    window.within (now - window.width) grants = window.limit := by
  have full : ¬ (window.expire now stamps).length < window.limit := by
    rw [← ask_fst_iff, refused]
    exact Bool.false_ne_true
  refine le_antisymm (tracks.bound _) ?_
  rw [← tracks.length_expire]
  exact not_lt.mp full

/-- A grant counts in the interval that ends with it. -/
theorem within_append_last (wide : 0 ≤ window.width) (grants : List Time) (now : Time) :
    window.within (now - window.width) (grants ++ [now]) =
      window.within (now - window.width) grants + 1 := by
  unfold within
  rw [List.countP_append, List.countP_singleton, sub_add_cancel,
    if_pos (decide_eq_true ⟨sub_le_self now wide, le_rfl⟩)]

/-! ### Runs of a system with a window -/

section Runs

variable {State : Type v} {Label : Type w} {next : State → Label → Option State}
  {start s : State} {history : List (State × Label)}

section Calls

variable (window) (time : Label → Time) (stamps : State → List Time) (mine : Label → Bool)

/-- The calls of the window that are granted. -/
def grantsOf : List (State × Label) → List Time :=
  timesOf time fun s label => mine label && (window.ask (time label) (stamps s)).1

/-- The calls of the window that are refused. -/
def refusalsOf : List (State × Label) → List Time :=
  timesOf time fun s label => mine label && !(window.ask (time label) (stamps s)).1

/-- The system calls the window in the steps that are `mine`; the others leave its stamps, or
drop what is older than the width. -/
structure CalledBy (next : State → Label → Option State) : Prop where
  call : ∀ {s label s'}, next s label = some s' → mine label = true →
    stamps s' = (window.ask (time label) (stamps s)).2
  other : ∀ {s label s'}, next s label = some s' → mine label = false →
    stamps s' = stamps s ∨ stamps s' = window.expire (time label) (stamps s)

end Calls

variable {time : Label → Time} {stamps : State → List Time} {mine : Label → Bool}

/-- **A window keeps track** of its grants in every run along a clock. -/
theorem CalledBy.tracks (called : CalledBy window time stamps mine next) (fresh : stamps start = [])
    (run : Run next start history s) (ordered : Chronological time history) (now : Time)
    (last : ∀ entry ∈ history, time entry.2 ≤ now) :
    window.Tracks now (window.grantsOf time stamps mine history) (stamps s) := by
  refine run.invariant_of_chronological
    (I := fun now history s => window.Tracks now (window.grantsOf time stamps mine history) (stamps s))
    ?_ (fun passed tracks => tracks.later passed) ?_ ordered now last
  · intro now
    rw [fresh]
    exact Tracks.nil window now
  · intro history s label s' tracks step
    unfold grantsOf at tracks ⊢
    cases isMine : mine label with
    | false =>
      rw [timesOf_cons_of_false (by simp [isMine])]
      rcases called.other step isMine with same | dropped
      · rwa [same]
      · rw [dropped]
        exact tracks.drop
    | true =>
      rw [called.call step isMine]
      cases granted : (window.ask (time label) (stamps s)).1 with
      | true =>
        rw [timesOf_cons_of_true (by simp [isMine, granted])]
        exact tracks.grant granted
      | false =>
        rw [timesOf_cons_of_false (by simp [isMine, granted])]
        exact tracks.refuse granted

/-- **A window is exact** in every run along a clock. -/
theorem CalledBy.exact (called : CalledBy window time stamps mine next) (fresh : stamps start = [])
    (run : Run next start history s) (ordered : Chronological time history) :
    window.Exact (window.grantsOf time stamps mine history)
      (window.refusalsOf time stamps mine history) := by
  induction run with
  | init => exact ⟨fun _ => Nat.zero_le _, fun _ mem => nomatch mem⟩
  | @snoc history s s' label run step ih =>
    have before := called.tracks fresh run ordered.tail (time label) ordered.before
    have old := ih ordered.tail
    have bound : ∀ from_,
        window.within from_ (window.grantsOf time stamps mine ((s, label) :: history)) ≤ window.limit :=
      (called.tracks fresh (run.snoc step) ordered (time label) (List.forall_mem_cons.mpr
        ⟨le_rfl, ordered.before⟩)).bound
    refine ⟨bound, fun now mem => ?_⟩
    have whole := bound (now - window.width)
    simp only [grantsOf, timesOf] at whole ⊢
    refine within_append_of_full ?_ whole
    simp only [refusalsOf, timesOf, List.mem_append] at mem
    rcases mem with earlier | here
    · exact old.full now earlier
    · split at here
      · rename_i refused
        rw [List.mem_singleton.mp here]
        simp only [Bool.and_eq_true, Bool.not_eq_true'] at refused
        exact before.full refused.2
      · cases here

end Runs

end RollingWindow

end ApiObservatory.Foundation
