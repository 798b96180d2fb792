/-
The phases of tasks, in the order the tasks came: a task is known by its place in the
list, a new one goes to the end, and a step moves one task to another phase.
-/

namespace ApiObservatory.Foundation

universe u

variable {Phase : Type u} {tasks : List Phase} {i j : Nat} {before after phase : Phase}

/-- A task that moves is counted where it goes and no longer where it was. -/
theorem countP_set_add (p : Phase → Bool) (found : tasks[i]? = some before) (after : Phase) :
    (tasks.set i after).countP p + (if p before then 1 else 0) =
      tasks.countP p + (if p after then 1 else 0) := by
  induction tasks generalizing i with
  | nil => simp at found
  | cons task rest ih =>
    cases i with
    | zero =>
      simp only [List.getElem?_cons_zero, Option.some.injEq] at found
      subst found
      simp only [List.set_cons_zero, List.countP_cons]
      omega
    | succ i =>
      rw [List.getElem?_cons_succ] at found
      have moved := ih found
      simp only [List.set_cons_succ, List.countP_cons]
      omega

theorem getElem?_set_of_some (found : tasks[i]? = some before) :
    (tasks.set i after)[i]? = some after := by
  obtain ⟨bound, -⟩ := List.getElem?_eq_some_iff.mp found
  rw [List.getElem?_set_self bound]

theorem getElem?_set_cases (found : (tasks.set i after)[j]? = some phase) :
    (j = i ∧ phase = after) ∨ (j ≠ i ∧ tasks[j]? = some phase) := by
  by_cases here : j = i
  · subst here
    rw [List.getElem?_set_self'] at found
    obtain ⟨_, -, rfl⟩ := Option.map_eq_some_iff.mp found
    exact Or.inl ⟨rfl, rfl⟩
  · rw [List.getElem?_set_ne (Ne.symm here)] at found
    exact Or.inr ⟨here, found⟩

/-- A task that is not where the mover went has not moved. -/
theorem getElem?_of_set_ne (found : (tasks.set i after)[j]? = some phase) (other : phase ≠ after) :
    tasks[j]? = some phase := by
  rcases getElem?_set_cases found with ⟨-, same⟩ | ⟨-, old⟩
  · exact absurd same other
  · exact old

/-- The tasks in another phase stay. -/
theorem mem_set_of_ne (found : tasks[i]? = some before) (mem : phase ∈ tasks)
    (other : phase ≠ before) : phase ∈ tasks.set i after := by
  obtain ⟨j, there⟩ := List.mem_iff_getElem?.mp mem
  have differs : i ≠ j := by
    rintro rfl
    exact other (Option.some.inj (there.symm.trans found))
  exact List.mem_of_getElem? ((List.getElem?_set_ne differs).trans there)

/-- What holds of every task holds after one has moved to where it holds. -/
theorem forall_mem_set {p : Phase → Prop} (all : ∀ phase ∈ tasks, p phase) (new : p after) :
    ∀ phase ∈ tasks.set i after, p phase := by
  intro phase mem
  rcases List.mem_or_eq_of_mem_set mem with old | rfl
  · exact all phase old
  · exact new

/-- The newcomer, or a task that was there. -/
theorem getElem?_append_cases (found : (tasks ++ [after])[j]? = some phase) :
    (j = tasks.length ∧ phase = after) ∨ tasks[j]? = some phase := by
  rcases Nat.lt_or_ge j tasks.length with old | new
  · rw [List.getElem?_append_left old] at found
    exact Or.inr found
  · rw [List.getElem?_append_right new] at found
    have only := List.getElem?_eq_some_iff.mp found
    obtain ⟨bound, same⟩ := only
    have here : j - tasks.length = 0 := by simpa using bound
    simp only [here, List.getElem_cons_zero] at same
    exact Or.inl ⟨by omega, same.symm⟩

/-- A task that is not where the newcomer starts was there. -/
theorem getElem?_of_append_ne (found : (tasks ++ [after])[j]? = some phase)
    (other : phase ≠ after) : tasks[j]? = some phase := by
  rcases getElem?_append_cases found with ⟨-, same⟩ | old
  · exact absurd same other
  · exact old

theorem getElem?_append_of_some (found : tasks[j]? = some phase) :
    (tasks ++ [after])[j]? = some phase := by
  obtain ⟨bound, -⟩ := List.getElem?_eq_some_iff.mp found
  rwa [List.getElem?_append_left bound]

end ApiObservatory.Foundation
