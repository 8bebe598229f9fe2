import Mathlib

/-!
# Traversals that may fail

`List.mapM` in `Option` and in `Except`: a traversal succeeds exactly if it does at every element,
and what it makes is then the list of what it makes there.

These are the rules for code that converts a list element by element and gives up at the first
element that it cannot convert.  Where the error does not matter, `toOption_mapM` takes a
traversal in `Except` to one in `Option`, for which the others are stated.
-/

universe u

namespace Traversal

variable {α β γ ε : Type u}

theorem mapM_cons (f : α → Option β) (x : α) (xs : List α) :
    (x :: xs).mapM f = (f x).bind fun y => (xs.mapM f).map fun ys => y :: ys := by
  rw [List.mapM_cons]
  rcases f x with _ | y
  · rfl
  · rcases xs.mapM f with _ | ys <;> rfl

/-- **A traversal succeeds** exactly if it does at every element. -/
theorem isSome_mapM {f : α → Option β} {xs : List α} :
    (xs.mapM f).isSome ↔ ∀ x ∈ xs, (f x).isSome := by
  induction xs with
  | nil => simp
  | cons x rest ih =>
      rw [mapM_cons, List.forall_mem_cons, ← ih]
      rcases f x with _ | y
      · simp
      · simp

/-- A traversal that does not fail is a map. -/
theorem mapM_eq_some_map {f : α → Option β} {g : α → β} {xs : List α}
    (each : ∀ x ∈ xs, f x = some (g x)) : xs.mapM f = some (xs.map g) := by
  induction xs with
  | nil => rfl
  | cons x rest ih =>
      rw [List.forall_mem_cons] at each
      rw [mapM_cons, each.1, ih each.2]
      rfl

/-- What is made at each element can be changed afterwards. -/
theorem mapM_option_map (f : α → Option β) (g : β → γ) (xs : List α) :
    xs.mapM (fun x => (f x).map g) = (xs.mapM f).map (List.map g) := by
  induction xs with
  | nil => rfl
  | cons x rest ih =>
      rw [mapM_cons, mapM_cons, ih]
      rcases f x with _ | y
      · rfl
      · rcases rest.mapM f with _ | ys <;> rfl

/-- A traversal that fails with an error is one that fails without. -/
theorem toOption_mapM {f : α → Except ε β} {g : α → Option β}
    (agree : ∀ x, (f x).toOption = g x) (xs : List α) : (xs.mapM f).toOption = xs.mapM g := by
  induction xs with
  | nil => rfl
  | cons x rest ih =>
      rw [List.mapM_cons, mapM_cons, ← agree x, ← ih]
      rcases f x with error | y
      · rfl
      · show (Except.bind (.ok y) fun y => Except.bind (List.mapM f rest) _).toOption = _
        rcases List.mapM f rest with error | ys <;> rfl

end Traversal
