import Mathlib

/-!
# Checked computations

A computation returns a value or stops with a fault.  Some faults it reports itself; others it
must never reach: an index outside of a buffer, a sum that overflows, a loop that does not end.

* **`Meets allowed post`** is a computation whose result has the property `post` and whose fault
  is an allowed one.  Its rules follow the composition of the computation.
* **A loop** is run for a number of rounds at most (`iterate`).  It ends within them if each round
  lowers a measure that starts below that number (`meets_iterate`).
* **A counted loop** (`forRange`) carries an invariant that knows the index (`meets_forRange`).

The faults are values of the model, not side conditions of it: a model in which every access is
checked can go wrong, and that it does not is a theorem.  The bound on the rounds is of the same
kind.  It is part of the model, it is chosen so large that the code would never notice it, and
that a loop is not cut short by it is proved together with everything else, as one more fault that
is not allowed.
-/

universe u v

variable {ε : Type u} {α β σ : Type v}

/-- **A computation meets a postcondition**: its result has the property, and the fault it stops
with is an allowed one. -/
structure Meets (allowed : ε → Prop) (post : α → Prop) (x : Except ε α) : Prop where
  result : ∀ a, x = .ok a → post a
  fault : ∀ e, x = .error e → allowed e

section Rules

variable {allowed : ε → Prop} {post : α → Prop}

theorem meets_ok {a : α} (holds : post a) : Meets allowed post (.ok a) where
  result := by
    rintro _ ⟨⟩
    exact holds
  fault := by
    rintro _ ⟨⟩

theorem meets_error {e : ε} (here : allowed e) : Meets allowed post (.error e) where
  result := by
    rintro _ ⟨⟩
  fault := by
    rintro _ ⟨⟩
    exact here

theorem Meets.mono {weaker : α → Prop} {x : Except ε α} (meets : Meets allowed post x)
    (imp : ∀ a, post a → weaker a) : Meets allowed weaker x where
  result a here := imp a (meets.result a here)
  fault := meets.fault

/-- A computation after another one, from what the first promises.  The property in between is the
one that a proof has to choose; nothing else of the first computation is known to the second. -/
theorem Meets.bind {first : α → Prop} {second : β → Prop} {x : Except ε α} {f : α → Except ε β}
    (before : Meets allowed first x) (after : ∀ a, first a → Meets allowed second (f a)) :
    Meets allowed second (x >>= f) := by
  cases x with
  | error e => exact meets_error (before.fault e rfl)
  | ok a => exact after a (before.result a rfl)

/-- A computation after another one has a result exactly if both have. -/
theorem bind_eq_ok {x : Except ε α} {f : α → Except ε β} {b : β} :
    (x >>= f) = .ok b ↔ ∃ a, x = .ok a ∧ f a = .ok b := by
  cases x with
  | error e =>
      constructor
      · rintro ⟨⟩
      · rintro ⟨a, ⟨⟩, -⟩
  | ok a =>
      constructor
      · exact fun same => ⟨a, rfl, same⟩
      · rintro ⟨_, ⟨⟩, same⟩
        exact same

/-- A computation after one whose result does not matter. -/
theorem Meets.seq {second : β → Prop} {x : Except ε α} {f : α → Except ε β}
    (before : Meets allowed (fun _ => True) x) (after : ∀ a, Meets allowed second (f a)) :
    Meets allowed second (x >>= f) :=
  before.bind fun a _ => after a

theorem Meets.ite {condition : Prop} [Decidable condition] {x y : Except ε α}
    (yes : condition → Meets allowed post x) (no : ¬ condition → Meets allowed post y) :
    Meets allowed post (if condition then x else y) := by
  split
  next holds => exact yes holds
  next fails => exact no fails

end Rules

/-! ## Loops -/

/-- A `loop` of at most `rounds` rounds: a round leaves the next state, or the value the loop is
left with.  When the rounds are used up it is `stuck`, a fault that a correct bound makes
impossible. -/
def iterate (stuck : ε) (round : σ → Except ε (σ ⊕ α)) : Nat → σ → Except ε α
  | 0, _ => .error stuck
  | rounds + 1, s => do
      match ← round s with
      | .inl next => iterate stuck round rounds next
      | .inr a => .ok a

section Loops

variable {stuck : ε} {round : σ → Except ε (σ ⊕ α)}

theorem iterate_of_inl {s next : σ} (once : round s = .ok (.inl next)) (rounds : Nat) :
    iterate stuck round (rounds + 1) s = iterate stuck round rounds next := by
  rw [iterate, once]
  rfl

theorem iterate_of_inr {s : σ} {a : α} (once : round s = .ok (.inr a)) (rounds : Nat) :
    iterate stuck round (rounds + 1) s = .ok a := by
  rw [iterate, once]
  rfl

/-- **The rule of the loop.**  Each round keeps the invariant and lowers the measure, or it ends
the loop with what is asked of the result. -/
theorem meets_iterate {allowed : ε → Prop} {post : α → Prop} (inv : σ → Prop) (measure : σ → Nat)
    (each : ∀ s, inv s → Meets allowed
      (Sum.elim (fun next => inv next ∧ measure next < measure s) post) (round s))
    {rounds : Nat} {s : σ} (start : inv s) (enough : measure s < rounds) :
    Meets allowed post (iterate stuck round rounds s) := by
  induction rounds generalizing s with
  | zero => exact absurd enough (Nat.not_lt_zero _)
  | succ rounds ih =>
      rw [iterate]
      refine (each s start).bind fun left kept => ?_
      cases left with
      | inl next => exact ih kept.1 (by have := kept.2; omega)
      | inr a => exact meets_ok kept

end Loops

/-! ## Counted loops -/

/-- `for index in 0..count` -/
def forRange (step : Nat → σ → Except ε σ) (count : Nat) (s : σ) : Except ε σ :=
  (List.range count).foldlM (fun s index => step index s) s

section CountedLoops

variable {step : Nat → σ → Except ε σ} {s : σ}

theorem forRange_succ (count : Nat) :
    forRange step (count + 1) s = forRange step count s >>= step count := by
  rw [forRange, List.range_succ, List.foldlM_append]
  refine bind_congr fun last => ?_
  rw [List.foldlM_cons]
  exact bind_pure _

/-- **The rule of the counted loop.**  The invariant is indexed by the rounds that are done, so
that it holds of `count` at the end. -/
theorem meets_forRange {allowed : ε → Prop} (inv : Nat → σ → Prop)
    (each : ∀ index s, inv index s → Meets allowed (inv (index + 1)) (step index s))
    (start : inv 0 s) (count : Nat) : Meets allowed (inv count) (forRange step count s) := by
  induction count with
  | zero => exact meets_ok start
  | succ count ih =>
      rw [forRange_succ]
      exact ih.bind (each count)

end CountedLoops
