import Mathlib

/-!
# Scripts of statements over a connection

A connection has a stored state and, while a transaction is open, a working copy that its
statements read and write.  A statement outside a transaction commits by itself.  A transaction
that is left without its commit is rolled back, on whatever path it is left, also after a commit
that fails.

A script is a program of such statements that stops at the first error it does not handle.  Its
meaning is a pure function from a state to an error or a result with a new state:

* `Script.Computes` for a script in an open transaction, where the function acts on the working
  copy;
* `Script.Settles` for a script on a connection at rest, where the stored state takes the whole
  effect of the function or, after an error, none.

`Script.Computes.transaction` leads from the first to the second.

## Use

A function of the database layer is written as a script, statement by statement and in the order
of the source, and next to it stands the pure function that it is meant to be.  That the script
computes the function is put together from the rules, one for each kind of statement; atomicity is
then not an assumption about the function but a consequence of where its transaction begins and
ends.  A function that handles an error inside of its transaction and goes on (`ok?`) is still
covered: what it computes has the handled error as one more case.

One connection is modelled at a time.  What other connections see between two statements is the
stored state, which does not change before the commit.
-/

universe u

/-- The stored state, and the working copy of the open transaction. -/
@[ext]
structure Connection (σ : Type u) where
  stored : σ
  working : Option σ := none
deriving DecidableEq, Repr

namespace Connection

variable {σ : Type u}

/-- What a statement reads. -/
def current (c : Connection σ) : σ := c.working.getD c.stored

/-- What a statement writes. -/
def write (c : Connection σ) (f : σ → σ) : Connection σ :=
  match c.working with
  | none => { c with stored := f c.stored }
  | some copy => { c with working := some (f copy) }

/-- Drop the open transaction. -/
def rollback (c : Connection σ) : Connection σ := { c with working := none }

/-- Make the working copy the stored state. -/
def commit (c : Connection σ) : Connection σ := { stored := c.current }

@[simp] theorem write_none (s : σ) (f : σ → σ) :
    (Connection.mk s none).write f = ⟨f s, none⟩ := rfl

@[simp] theorem write_some (s copy : σ) (f : σ → σ) :
    (Connection.mk s (some copy)).write f = ⟨s, some (f copy)⟩ := rfl

@[simp] theorem current_none (s : σ) : (Connection.mk s none).current = s := rfl

@[simp] theorem current_some (s copy : σ) : (Connection.mk s (some copy)).current = copy := rfl

end Connection

/-- A program of statements: its result, and the connection it leaves. -/
def Script (σ ε α : Type u) : Type u :=
  Connection σ → Except ε α × Connection σ

namespace Script

variable {σ ε α β : Type u}

/-- One script after the other, unless the first one fails. -/
def andThen (x : Script σ ε α) (next : α → Script σ ε β) : Script σ ε β := fun c =>
  match x c with
  | (.ok a, c') => next a c'
  | (.error e, c') => (.error e, c')

instance : Monad (Script σ ε) where
  pure a := fun c => (.ok a, c)
  bind := andThen

/-- A statement: the error it fails with, if any, what it returns and what it
writes. -/
def execute (fails : Option ε) (rows : σ → α) (f : σ → σ) : Script σ ε α := fun c =>
  match fails with
  | none => (.ok (rows c.current), c.write f)
  | some e => (.error e, c)

/-- A statement that only reads. -/
def read (f : σ → Except ε α) : Script σ ε α := fun c => (f c.current, c)

/-- A `SELECT`. -/
abbrev query (fails : Option ε) (f : σ → α) : Script σ ε α :=
  read fun s => fails.elim (.ok (f s)) .error

/-- A `SELECT` of one row, an error if there is none. -/
abbrev queryRow (fails : Option ε) (absent : ε) (f : σ → Option α) : Script σ ε α :=
  read fun s => fails.elim ((f s).elim (.error absent) .ok) .error

/-- A call that reads nothing. -/
abbrev call (fails : Option ε) : Script σ ε PUnit := query fails fun _ => ⟨⟩

/-- A result that needs no statement. -/
abbrev lift (result : Except ε α) : Script σ ε α := read fun _ => result

/-- `.ok()`: an error becomes `none`, and the script goes on. -/
def ok? (x : Script σ ε α) : Script σ ε (Option α) := fun c =>
  match x c with
  | (.ok a, c') => (.ok (some a), c')
  | (.error _, c') => (.ok none, c')

/-- Open a transaction, run the body in it and commit.  Every way out but a commit
that succeeds drops the transaction, and with it the working copy. -/
def transaction (opening committing : Option ε) (body : Script σ ε α) : Script σ ε α := fun c =>
  match opening with
  | some e => (.error e, c)
  | none =>
    match body { c with working := some c.stored } with
    | (.error e, c') => (.error e, c'.rollback)
    | (.ok a, c') =>
      match committing with
      | some e => (.error e, c'.rollback)
      | none => (.ok a, c'.commit)

theorem bind_apply_of_ok {x : Script σ ε α} {c c' : Connection σ} {a : α}
    (ok : x c = (.ok a, c')) (next : α → Script σ ε β) : (x >>= next) c = next a c' := by
  show andThen x next c = _
  rw [andThen, ok]

theorem bind_apply_of_error {x : Script σ ε α} {c c' : Connection σ} {e : ε}
    (error : x c = (.error e, c')) (next : α → Script σ ε β) :
    (x >>= next) c = (.error e, c') := by
  show andThen x next c = _
  rw [andThen, error]

theorem ok?_queryRow_of_some {f : σ → Option α} {c : Connection σ} {a : α} (absent : ε)
    (found : f c.current = some a) : ok? (queryRow none absent f) c = (.ok (some a), c) := by
  simp only [ok?, read, found, Option.elim]

theorem ok?_queryRow_of_none {f : σ → Option α} {c : Connection σ} (absent : ε)
    (missing : f c.current = none) : ok? (queryRow none absent f) c = (.ok none, c) := by
  simp only [ok?, read, missing, Option.elim]

theorem ok?_execute_none (rows : σ → α) (f : σ → σ) (c : Connection σ) :
    ok? (execute (none : Option ε) rows f) c = (.ok (some (rows c.current)), c.write f) := rfl

/-! ## What a script does in a transaction

Inside of a transaction a script is a function of the working copy, and may fail.  Sequencing
scripts sequences these functions. -/

/-- In an open transaction the script does `f` to the working copy and leaves the stored state
alone; after an error the working copy may be anything, because the transaction is going to be
rolled back. -/
structure Computes (x : Script σ ε α) (f : σ → Except ε (α × σ)) : Prop where
  ok : ∀ {s copy copy' : σ} {a : α}, f copy = .ok (a, copy') →
    x ⟨s, some copy⟩ = (.ok a, ⟨s, some copy'⟩)
  error : ∀ {s copy : σ} {e : ε}, f copy = .error e →
    ∃ copy', x ⟨s, some copy⟩ = (.error e, ⟨s, some copy'⟩)

namespace Computes

theorem pure (a : α) : Computes (Pure.pure a : Script σ ε α) fun s => .ok (a, s) where
  ok := by
    intro s copy copy' a' same
    cases same
    rfl
  error := by
    intro s copy e same
    cases same

theorem congr {x : Script σ ε α} {f g : σ → Except ε (α × σ)} (computes : Computes x f)
    (same : ∀ s, f s = g s) : Computes x g := by
  have : f = g := funext same
  exact this ▸ computes

/-- One script after another. -/
theorem bind {x : Script σ ε α} {f : σ → Except ε (α × σ)} {next : α → Script σ ε β}
    {g : α → σ → Except ε (β × σ)} (first : Computes x f) (rest : ∀ a, Computes (next a) (g a)) :
    Computes (x >>= next) fun s => f s >>= fun r => g r.1 r.2 where
  ok := by
    intro s copy copy' b done
    cases middle : f copy with
    | error e =>
        rw [middle] at done
        cases done
    | ok r =>
        rw [middle] at done
        rw [bind_apply_of_ok (first.ok middle)]
        exact (rest r.1).ok done
  error := by
    intro s copy e failed
    cases middle : f copy with
    | error e' =>
        rw [middle] at failed
        cases failed
        obtain ⟨copy', stopped⟩ := first.error (s := s) middle
        exact ⟨copy', bind_apply_of_error stopped next⟩
    | ok r =>
        rw [middle] at failed
        rw [bind_apply_of_ok (first.ok middle)]
        exact (rest r.1).error failed

/-- A statement: it fails, or it reads and writes the working copy. -/
theorem execute (fails : Option ε) (rows : σ → α) (f : σ → σ) :
    Computes (Script.execute fails rows f) fun s =>
      fails.elim (.ok (rows s, f s)) .error where
  ok := by
    intro s copy copy' a done
    cases fails with
    | none =>
        cases done
        rfl
    | some e => cases done
  error := by
    intro s copy e failed
    cases fails with
    | none => cases failed
    | some e' =>
        cases failed
        exact ⟨copy, rfl⟩

theorem read (f : σ → Except ε α) :
    Computes (Script.read f) fun s => f s >>= fun a => .ok (a, s) where
  ok := by
    intro s copy copy' a done
    show (f copy, _) = _
    cases found : f copy with
    | error e =>
        rw [found] at done
        cases done
    | ok a' =>
        rw [found] at done
        cases done
        rfl
  error := by
    intro s copy e failed
    refine ⟨copy, ?_⟩
    show (f copy, _) = _
    cases found : f copy with
    | error e' =>
        rw [found] at failed
        cases failed
        rfl
    | ok a =>
        rw [found] at failed
        cases failed

end Computes

/-! ## All or nothing

Around a body that computes a function, a transaction takes the whole effect or none.  This is
what a function of the database without connections stands for. -/

/-- What an outcome makes of a connection at rest: the new state, or the old one.  In both cases
no transaction is left open. -/
def settle (s : σ) : Except ε (α × σ) → Except ε α × Connection σ
  | .ok (a, s') => (.ok a, ⟨s', none⟩)
  | .error e => (.error e, ⟨s, none⟩)

theorem settle_error {s : σ} {outcome : Except ε (α × σ)} {e : ε} {c : Connection σ}
    (failed : settle s outcome = (.error e, c)) : outcome = .error e ∧ c = ⟨s, none⟩ := by
  cases outcome with
  | error e' =>
      cases failed
      exact ⟨rfl, rfl⟩
  | ok r => cases failed

theorem settle_ok {s : σ} {outcome : Except ε (α × σ)} {a : α} {c : Connection σ}
    (done : settle s outcome = (.ok a, c)) : ∃ s', outcome = .ok (a, s') ∧ c = ⟨s', none⟩ := by
  cases outcome with
  | error e => cases done
  | ok r =>
      cases done
      exact ⟨r.2, rfl, rfl⟩

/-- On a connection at rest the script has the effect `f`, or fails and has none. -/
def Settles (x : Script σ ε α) (f : σ → Except ε (α × σ)) : Prop :=
  ∀ s, x ⟨s, none⟩ = settle s (f s)

/-- **A transaction takes the whole effect of its body or none**: it opens, the
body succeeds and the commit succeeds, or the stored state is what it was. -/
theorem Computes.transaction {body : Script σ ε α} {f : σ → Except ε (α × σ)}
    (computes : Computes body f) (opening committing : Option ε) :
    Settles (Script.transaction opening committing body) fun s =>
      opening.elim (f s >>= fun r => committing.elim (.ok r) .error) .error := by
  intro s
  cases opening with
  | some e => rfl
  | none =>
    cases done : f s with
    | error e =>
        obtain ⟨copy', stopped⟩ := computes.error (s := s) done
        simp only [Script.transaction, stopped, done]
        rfl
    | ok r =>
        have ran := computes.ok (s := s) done
        cases committing with
        | some e =>
            simp only [Script.transaction, ran, done]
            rfl
        | none =>
            simp only [Script.transaction, ran, done]
            rfl

namespace Settles

theorem congr {x : Script σ ε α} {f g : σ → Except ε (α × σ)} (settles : Settles x f)
    (same : ∀ s, f s = g s) : Settles x g := fun s => same s ▸ settles s

theorem read (f : σ → Except ε α) :
    Settles (Script.read f) fun s => f s >>= fun a => .ok (a, s) := by
  intro s
  show (f s, _) = _
  cases found : f s with
  | error e => simp only [found]; rfl
  | ok a => simp only [found]; rfl

theorem ite (p : Prop) [Decidable p] {x y : Script σ ε α} {f g : σ → Except ε (α × σ)}
    (yes : Settles x f) (no : Settles y g) :
    Settles (if p then x else y) fun s => if p then f s else g s := by
  by_cases holds : p
  · simpa only [if_pos holds] using yes
  · simpa only [if_neg holds] using no

/-- What only reads may stand before what settles. -/
theorem read_bind (f : σ → Except ε α) {next : α → Script σ ε β}
    {g : α → σ → Except ε (β × σ)} (rest : ∀ a, Settles (next a) (g a)) :
    Settles (Script.read f >>= next) fun s => f s >>= fun a => g a s := by
  intro s
  cases found : f s with
  | error e =>
      have stopped : Script.read f ⟨s, none⟩ = (.error e, ⟨s, none⟩) :=
        Prod.ext found rfl
      rw [bind_apply_of_error stopped]
      simp only [found]
      rfl
  | ok a =>
      have done : Script.read f ⟨s, none⟩ = (.ok a, ⟨s, none⟩) := Prod.ext found rfl
      rw [bind_apply_of_ok done, rest a s]
      simp only [found]
      rfl

end Settles

/-! ## Outcomes in sequence -/

theorem ok_bind (a : α) (next : α → Except ε β) : (Except.ok a >>= next) = next a := rfl

theorem elim_error_bind (fails : Option ε) (result : Except ε α) (next : α → Except ε β) :
    (fails.elim result .error >>= next) = fails.elim (result >>= next) .error := by
  cases fails <;> rfl

end Script
