import Mathlib.Data.List.Chain

/-
Events with a refractory period.

Some events are marked. After a marked event no other one is marked until `gap` has passed, and
the next event from then on is. The events stand newest first, as in the history of a run.
-/

namespace ApiObservatory.Foundation

universe u v

variable {Event : Type u} {Time : Type v} [Add Time] [LE Time] {marked : Event → Bool}
  {time : Event → Time} {gap : Time} {events earlier later : List Event} {event : Event}

/-- The last marked event is `gap` ago, or there is none. -/
def Rested (marked : Event → Bool) (time : Event → Time) (gap : Time) (earlier : List Event)
    (now : Time) : Prop :=
  ∀ last ∈ earlier.find? marked, time last + gap ≤ now

/-- An event is marked exactly when the last marked one before it is `gap` ago. -/
def Refractory (marked : Event → Bool) (time : Event → Time) (gap : Time) : List Event → Prop
  | [] => True
  | event :: earlier =>
      (marked event = true ↔ Rested marked time gap earlier (time event)) ∧
        Refractory marked time gap earlier

namespace Refractory

/-- **The first event is marked.** -/
theorem first (law : Refractory marked time gap events) :
    ∀ event ∈ events.getLast?, marked event = true := by
  induction events with
  | nil => exact fun _ mem => nomatch mem
  | cons event earlier ih =>
    cases earlier with
    | nil =>
      intro _ mem
      cases mem
      exact law.1.mpr fun _ mem => nomatch mem
    | cons before earlier =>
      rw [List.getLast?_cons_cons]
      exact ih law.2

/-- **Consecutive marked events are `gap` apart.** -/
theorem apart (law : Refractory marked time gap events) :
    (events.filter marked).IsChain fun later earlier => time earlier + gap ≤ time later := by
  induction events with
  | nil => exact .nil
  | cons event earlier ih =>
    by_cases here : marked event = true
    · rw [List.filter_cons_of_pos here, List.isChain_cons]
      refine ⟨fun last mem => ?_, ih law.2⟩
      rw [List.head?_filter] at mem
      exact law.1.mp here last mem
    · rw [List.filter_cons_of_neg here]
      exact ih law.2

/-- **An event is marked** once the last marked one before it is `gap` ago. -/
theorem due (law : Refractory marked time gap events) (split : events = later ++ event :: earlier)
    (rested : Rested marked time gap earlier (time event)) : marked event = true := by
  induction later generalizing events with
  | nil =>
    subst split
    exact law.1.mpr rested
  | cons newest later ih =>
    subst split
    exact ih law.2 rfl

end Refractory

end ApiObservatory.Foundation
