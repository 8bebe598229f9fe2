import RustBlocker.Library.StateMachine

/-!
# Histories of runs

An account that a state carries, such as a list of what was sent, says something only if it is
tied to what the run did.  The tie is here an *observer*: a function of the state before a step
and of the action, which says what is to be noted of the step, or that nothing is.  The notes of
a run, in order, are its `history`; they are a function of the schedule and read no account.

* **`exec_history`** is the invariant rule for a relation between the history so far and the
  state.  It asks for one step: what the step adds to the history against what it does to the
  state.  Nothing has to be said of the schedule.
* Several observers of one run are several histories, and need not be told apart in one list.

The rule is not the plain one for the machine whose state is a pair, because the account and the
notes are written by different hands: the step function knows the account and not the notes, the
observer makes the notes and cannot see the account unless it reads the state.  A theorem of the
form `s.sent = M.history sends s₀ acts` therefore holds of no machine that forgets to send.
-/

universe u v w

namespace StateMachine

variable {σ : Type u} {α : Type v} {ο : Type w} (M : StateMachine σ α)

/-- What is noted of the replay of a schedule, in the order of its steps.  It is computed from the
schedule and the states passed through, and stops where an action is not enabled. -/
def history (observe : σ → α → Option ο) : σ → List α → List ο
  | _, [] => []
  | s, a :: rest =>
      (observe s a).toList ++ match M.step s a with
        | none => []
        | some t => history observe t rest

@[simp] theorem history_nil (observe : σ → α → Option ο) (s : σ) :
    M.history observe s [] = [] := rfl

/-- The history of a run is the note of its first step and the history of the rest. -/
theorem history_cons (observe : σ → α → Option ο) {s t : σ} {a : α} (rest : List α)
    (one : M.step s a = some t) :
    M.history observe s (a :: rest) = (observe s a).toList ++ M.history observe t rest := by
  rw [history, one]

/-- **The invariant rule for histories.**  What relates the notes so far to the state, and is
kept by every step that meets `ok` together with the note of that step, relates the history of a
run whose steps all meet it to the last state. -/
theorem exec_history {ok : σ → α → Prop} {observe : σ → α → Option ο}
    {good : List ο → σ → Prop}
    (preserved : ∀ noted s a t, good noted s → ok s a → M.step s a = some t →
      good (noted ++ (observe s a).toList) t)
    {acts : List α} {s t : σ} (start : good [] s) (meets : M.StepsMeet ok s acts)
    (run : M.exec s acts = some t) : good (M.history observe s acts) t := by
  suffices after : ∀ noted, good noted s → good (noted ++ M.history observe s acts) t from
    after [] start
  clear start
  induction acts generalizing s with
  | nil =>
      intro noted kept
      obtain rfl : s = t := Option.some.inj run
      rw [history_nil, List.append_nil]
      exact kept
  | cons a rest ih =>
      intro noted kept
      obtain ⟨m, one, later⟩ := M.exec_cons_eq_some.mp run
      rw [M.history_cons observe rest one, ← List.append_assoc]
      exact ih (meets.2 m one) later _ (preserved noted s a m kept meets.1 one)

end StateMachine
