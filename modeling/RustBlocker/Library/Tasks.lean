import Mathlib

/-!
# Tasks that run side by side

Some tasks are running, each at a point of its own.  One of them at a time takes a step, or comes
to its end.

* **A list** holds the running tasks.  A task is at a position of it, and stands for itself: two
  tasks may be at the same point.
* **Counting** does not see positions: `countP_set` and `countP_eraseIdx` say what one step does
  to the number of tasks with a property, `map_filter_set` and the like what it does to the data
  of these tasks.

An event names a task by its position, which is how a schedule can pick any of them, and how two
tasks with equal data stay two.  The position means nothing otherwise: a task moves up when one
before it ends, and what is proved of the tasks is proved up to their order, as a permutation or
as a number.  `perm_of_getElem?` and `set_perm` are the two facts from which the others follow; a
user needs them directly only where the tasks are not counted by one property.
-/

universe u v

namespace Tasks

variable {τ : Type u} {β : Type v} {tasks : List τ} {index : Nat} {task next : τ}

/-- The running tasks are the one at a position and the others. -/
theorem perm_of_getElem? (here : tasks[index]? = some task) :
    tasks.Perm (task :: tasks.eraseIdx index) := by
  obtain ⟨inside, same⟩ := List.getElem?_eq_some_iff.mp here
  have perm := (List.getElem_cons_eraseIdx_perm inside).symm
  rwa [same] at perm

/-- After its step the task stands among the same others. -/
theorem set_perm (here : tasks[index]? = some task) (next : τ) :
    (tasks.set index next).Perm (next :: tasks.eraseIdx index) := by
  obtain ⟨inside, -⟩ := List.getElem?_eq_some_iff.mp here
  exact List.set_perm_cons_eraseIdx inside next

section Counting

variable (p : τ → Bool)

theorem countP_cons_eq (task : τ) (tasks : List τ) :
    (task :: tasks).countP p = tasks.countP p + (p task).toNat := by
  rw [List.countP_cons]
  cases p task <;> rfl

theorem countP_eraseIdx (here : tasks[index]? = some task) :
    (tasks.eraseIdx index).countP p + (p task).toNat = tasks.countP p := by
  rw [(perm_of_getElem? here).countP_eq p, countP_cons_eq]

theorem countP_set (here : tasks[index]? = some task) (next : τ) :
    (tasks.set index next).countP p + (p task).toNat = tasks.countP p + (p next).toNat := by
  rw [(set_perm here next).countP_eq p, countP_cons_eq, ← countP_eraseIdx p here]
  omega

end Counting

section Data

variable (p : τ → Bool) (data : τ → β)

/-- The data of the tasks with a property, as a task that has it not comes to have it. -/
theorem map_filter_set (here : tasks[index]? = some task) (before : p task = false)
    (after : p next = true) :
    (((tasks.set index next).filter p).map data).Perm
      (data next :: (tasks.filter p).map data) := by
  have now := ((set_perm here next).filter p).map data
  have was := ((perm_of_getElem? here).filter p).map data
  rw [List.filter_cons_of_pos after, List.map_cons] at now
  rw [List.filter_cons_of_neg (by simp [before])] at was
  exact now.trans (was.symm.cons _)

/-- The data of these tasks stay, as a task that has the property keeps it and its data. -/
theorem map_filter_set_of_kept (here : tasks[index]? = some task) (kept : p next = p task)
    (same : data next = data task) :
    (((tasks.set index next).filter p).map data).Perm ((tasks.filter p).map data) := by
  have now := ((set_perm here next).filter p).map data
  have was := ((perm_of_getElem? here).filter p).map data
  cases held : p task with
  | false =>
      rw [List.filter_cons_of_neg (by simp [kept, held])] at now
      rw [List.filter_cons_of_neg (by simp [held])] at was
      exact now.trans was.symm
  | true =>
      rw [List.filter_cons_of_pos (by rw [kept, held]), List.map_cons, same] at now
      rw [List.filter_cons_of_pos held, List.map_cons] at was
      exact now.trans was.symm

/-- A task with the property takes its data with it as it ends. -/
theorem map_filter_eraseIdx (here : tasks[index]? = some task) (held : p task = true) :
    ((tasks.filter p).map data).Perm (data task :: ((tasks.eraseIdx index).filter p).map data) := by
  have was := ((perm_of_getElem? here).filter p).map data
  rwa [List.filter_cons_of_pos held, List.map_cons] at was

end Data

end Tasks
