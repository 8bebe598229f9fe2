import Mathlib

/-!
# Executable state machines and their runs

A machine is a predicate of initial states and a *guarded* step function: `step s a = some t` when
the action `a` is enabled in `s` and leads to `t`, and `none` when it is not.  The one function
serves replaying a concrete schedule (`exec`, which computes) and proving something of every
schedule.

Everything a user proves about a machine is a statement about a single step. The lemmas here carry
it to runs of any length:

* `Reachable.invariant` — what holds initially and survives every step holds in every reachable
  state;
* `exec_invariant`, `always_of_stepsMeet` — the same along the runs whose steps all meet a side
  condition (`StepsMeet`), the form in which a property holds *under* a condition on the schedule,
  in the last state or in every one;
* `always_iff_stepsMeet` — when one step from a good state leads to a good state *exactly if* it
  meets the condition, a run stays good exactly if every one of its steps does;
  `always_iff_stepsMeet_of_invariant` asks this only of the states in which an invariant holds.

## Design notes

A step is a function and not a relation.  What a relation would leave open, the outcome of a call
or the choice of a scheduler, is data of the action: a schedule then says everything that happens,
and a run is determined by its first state and its schedule.  A theorem about every schedule is
still a theorem about every outcome and every choice.

A condition on steps may read the state before the step (`StepsMeet`), not only the action.  It is
asked of the steps that are taken: after an action that is not enabled there is no run, and
nothing more is asked.  This is why the rules have both a run and a condition on its steps as
hypotheses, and why `stepsMeet_cons` needs the first step to speak of the rest.

There is no notion of fairness here, and no infinite run.  What is claimed to happen in the end is
stated of the runs that have come that far.
-/

universe u v

/-- A state machine with a guarded, executable step function.  Neither states nor actions need to
be finite or comparable. -/
structure StateMachine (σ : Type u) (α : Type v) where
  /-- The states a run may start from. -/
  init : σ → Prop
  /-- The step taken on an action, `none` where the action is not enabled. -/
  step : σ → α → Option σ

namespace StateMachine

variable {σ : Type u} {α : Type v} (M : StateMachine σ α)

/-- Replay a schedule; `none` if one of its actions is not enabled. -/
def exec : σ → List α → Option σ
  | s, [] => some s
  | s, a :: rest => (M.step s a).bind fun t => exec t rest

/-- A state some run from an initial state ends in.  It is the weakest account of a run, for
properties that do not mention the schedule. -/
def Reachable (t : σ) : Prop :=
  ∃ s acts, M.init s ∧ M.exec s acts = some t

/-- Every step of the replay of `acts` from `s` meets `ok`, a condition on the
state before the step and on the action. -/
def StepsMeet (ok : σ → α → Prop) : σ → List α → Prop
  | _, [] => True
  | s, a :: rest => ok s a ∧ ∀ t, M.step s a = some t → StepsMeet ok t rest

/-- `good` holds in every state the replay of `acts` from `s` passes through, the first and the
last included.  Where an action is not enabled the replay ends, and with it the states that are
asked about. -/
def Always (good : σ → Prop) : σ → List α → Prop
  | s, [] => good s
  | s, a :: rest => good s ∧ ∀ t, M.step s a = some t → Always good t rest

/-! ## Replays -/

@[simp] theorem exec_nil (s : σ) : M.exec s [] = some s := rfl

theorem exec_cons (s : σ) (a : α) (rest : List α) :
    M.exec s (a :: rest) = (M.step s a).bind fun t => M.exec t rest := rfl

/-- A replay of a non-empty schedule is its first step and a replay of the
rest. -/
theorem exec_cons_eq_some {s t : σ} {a : α} {rest : List α} :
    M.exec s (a :: rest) = some t ↔
      ∃ m, M.step s a = some m ∧ M.exec m rest = some t := by
  rw [exec_cons, Option.bind_eq_some_iff]

theorem exec_append (s : σ) (before after : List α) :
    M.exec s (before ++ after) =
      (M.exec s before).bind fun t => M.exec t after := by
  induction before generalizing s with
  | nil => rfl
  | cons a rest ih =>
      rw [List.cons_append, exec_cons, exec_cons, Option.bind_assoc]
      exact congrArg _ (funext fun t => ih t)

theorem exec_append_of_eq_some {s t : σ} {before : List α} (after : List α)
    (h : M.exec s before = some t) :
    M.exec s (before ++ after) = M.exec t after := by
  rw [exec_append, h, Option.bind_some]

/-- A machine whose actions are always enabled replays every schedule. -/
theorem exec_isSome (total : ∀ s a, (M.step s a).isSome) (acts : List α) (s : σ) :
    (M.exec s acts).isSome := by
  induction acts generalizing s with
  | nil => rfl
  | cons a rest ih =>
      obtain ⟨t, one⟩ := Option.isSome_iff_exists.mp (total s a)
      rw [exec_cons, one, Option.bind_some]
      exact ih t

/-! ## Invariants

Three rules, for runs from a start, for runs whose steps meet a condition, and for the question
when both coincide.  A machine proves a step lemma and takes one of them. -/

namespace Reachable

variable {M}

theorem of_init {s : σ} (h : M.init s) : M.Reachable s :=
  ⟨s, [], h, rfl⟩

theorem exec {s t : σ} {acts : List α} (h : M.Reachable s)
    (run : M.exec s acts = some t) : M.Reachable t := by
  obtain ⟨s₀, before, init, reach⟩ := h
  exact ⟨s₀, before ++ acts, init, by rw [M.exec_append_of_eq_some acts reach, run]⟩

theorem step {s t : σ} {a : α} (h : M.Reachable s) (one : M.step s a = some t) :
    M.Reachable t :=
  h.exec (show M.exec s [a] = some t by simp [exec_cons, one])

end Reachable

/-- A schedule meets the condition if its first step does and the rest does from
the state that step leads to. -/
theorem stepsMeet_cons {ok : σ → α → Prop} {s t : σ} {a : α} {rest : List α}
    (one : M.step s a = some t) :
    M.StepsMeet ok s (a :: rest) ↔ ok s a ∧ M.StepsMeet ok t rest := by
  constructor
  · rintro ⟨here, later⟩
    exact ⟨here, later t one⟩
  · rintro ⟨here, later⟩
    refine ⟨here, fun t' one' => ?_⟩
    rw [← Option.some.inj (one.symm.trans one')]
    exact later

/-- A schedule meets the condition if its first part does, and its second part from the state that
the first one leads to. -/
theorem stepsMeet_append {ok : σ → α → Prop} {before : List α} (after : List α) {s t : σ}
    (run : M.exec s before = some t) :
    M.StepsMeet ok s (before ++ after) ↔ M.StepsMeet ok s before ∧ M.StepsMeet ok t after := by
  induction before generalizing s with
  | nil =>
      obtain rfl : s = t := Option.some.inj run
      exact ⟨fun later => ⟨trivial, later⟩, fun both => both.2⟩
  | cons a rest ih =>
      obtain ⟨m, one, later⟩ := M.exec_cons_eq_some.mp run
      rw [List.cons_append, M.stepsMeet_cons one, M.stepsMeet_cons one, ih later, and_assoc]

/-- **The invariant rule along guarded runs.**  What holds in the first state
and survives every step that meets `ok` holds in the last state of every run
whose steps all meet `ok` — hence in every state such a run passes through,
since its prefixes are such runs too. -/
theorem exec_invariant {ok : σ → α → Prop} {good : σ → Prop}
    (preserved : ∀ s a t, good s → ok s a → M.step s a = some t → good t) :
    ∀ {acts : List α} {s t : σ}, good s → M.StepsMeet ok s acts →
      M.exec s acts = some t → good t := by
  intro acts
  induction acts with
  | nil =>
      intro s t start _ run
      cases run
      exact start
  | cons a rest ih =>
      intro s t start meets run
      obtain ⟨m, one, later⟩ := M.exec_cons_eq_some.mp run
      exact ih (preserved s a m start meets.1 one) (meets.2 m one) later

/-- What always holds holds in the last state. -/
theorem Always.last {M : StateMachine σ α} {seen : σ → Prop} :
    ∀ {acts : List α} {s t : σ}, M.Always seen s acts → M.exec s acts = some t → seen t := by
  intro acts
  induction acts with
  | nil =>
      intro s t always run
      cases run
      exact always
  | cons a rest ih =>
      intro s t always run
      obtain ⟨m, one, later⟩ := M.exec_cons_eq_some.mp run
      exact ih (always.2 m one) later

/-- **The invariant rule, in every state of a guarded run.**  What follows from an
invariant of the steps that meet `ok` holds in every state of a run whose steps
all meet it. -/
theorem always_of_stepsMeet {ok : σ → α → Prop} {good seen : σ → Prop}
    (preserved : ∀ s a t, good s → ok s a → M.step s a = some t → good t)
    (implies : ∀ s, good s → seen s) :
    ∀ {acts : List α} {s : σ}, good s → M.StepsMeet ok s acts → M.Always seen s acts := by
  intro acts
  induction acts with
  | nil =>
      intro s start _
      exact implies s start
  | cons a rest ih =>
      intro s start meets
      exact ⟨implies s start, fun t one =>
        ih (preserved s a t start meets.1 one) (meets.2 t one)⟩

/-- Every schedule meets the trivial condition. -/
theorem stepsMeet_true (acts : List α) (s : σ) :
    M.StepsMeet (fun _ _ => True) s acts := by
  induction acts generalizing s with
  | nil => trivial
  | cons a rest ih => exact ⟨trivial, fun t _ => ih t⟩

/-- A condition on the actions alone is met by the steps of a run exactly if all its actions
meet it. -/
theorem stepsMeet_const {ok : α → Prop} {acts : List α} {s t : σ} (run : M.exec s acts = some t) :
    M.StepsMeet (fun _ a => ok a) s acts ↔ ∀ a ∈ acts, ok a := by
  induction acts generalizing s with
  | nil => simp [StepsMeet]
  | cons a rest ih =>
      obtain ⟨m, one, later⟩ := M.exec_cons_eq_some.mp run
      rw [M.stepsMeet_cons one, ih later, List.forall_mem_cons]

/-- **The invariant rule.**  The invariant has to be found by the user.  It is as a rule stronger
than the property that is wanted, since it must say of every part of the state what the next step
may rely on. -/
theorem Reachable.invariant {M : StateMachine σ α} {good : σ → Prop}
    (initial : ∀ s, M.init s → good s)
    (preserved : ∀ s a t, good s → M.step s a = some t → good t)
    {t : σ} (h : M.Reachable t) : good t := by
  obtain ⟨s, acts, init, run⟩ := h
  have kept : ∀ s a t, good s → True → M.step s a = some t → good t :=
    fun s a t start _ one => preserved s a t start one
  exact M.exec_invariant kept (initial s init) (M.stepsMeet_true acts s) run

/-- **A run stays good exactly if each of its steps meets the condition**, once
this is known of a single step from a good state in which the invariant holds. -/
theorem always_iff_stepsMeet_of_invariant {ok : σ → α → Prop} {invariant good : σ → Prop}
    (kept : ∀ s a t, invariant s → M.step s a = some t → invariant t)
    (exactStep : ∀ s a t, invariant s → good s → M.step s a = some t → (good t ↔ ok s a)) :
    ∀ {acts : List α} {s t : σ}, invariant s → good s → M.exec s acts = some t →
      (M.Always good s acts ↔ M.StepsMeet ok s acts) := by
  intro acts
  induction acts with
  | nil =>
      intro s t _ start _
      exact ⟨fun _ => trivial, fun _ => start⟩
  | cons a rest ih =>
      intro s t holds start run
      obtain ⟨m, one, later⟩ := M.exec_cons_eq_some.mp run
      have holdsNext : invariant m := kept s a m holds one
      have same : ∀ m', M.step s a = some m' → m' = m := by
        intro m' h
        exact Option.some.inj (h.symm.trans one)
      constructor
      · rintro ⟨-, after⟩
        have goodNext : good m := by
          have := after m one
          cases rest with
          | nil => exact this
          | cons _ _ => exact this.1
        refine ⟨(exactStep s a m holds start one).mp goodNext, fun m' h => ?_⟩
        rw [same m' h]
        exact (ih holdsNext goodNext later).mp (after m one)
      · rintro ⟨met, after⟩
        refine ⟨start, fun m' h => ?_⟩
        rw [same m' h]
        have goodNext : good m := (exactStep s a m holds start one).mpr met
        exact (ih holdsNext goodNext later).mpr (after m one)

/-- The same where every good state will do. -/
theorem always_iff_stepsMeet {ok : σ → α → Prop} {good : σ → Prop}
    (exactStep : ∀ s a t, good s → M.step s a = some t → (good t ↔ ok s a)) {acts : List α}
    {s t : σ} (start : good s) (run : M.exec s acts = some t) :
    M.Always good s acts ↔ M.StepsMeet ok s acts :=
  M.always_iff_stepsMeet_of_invariant (fun _ _ _ _ _ => trivial)
    (fun s a t _ good one => exactStep s a t good one) trivial start run

end StateMachine
