import Mathlib
import RustBlocker.Lists

/-!
# List entries and sets of entries

What a list of domains is for.  A line of a list, once normalized, is either an exact name or,
after `*.`, the suffix of a wildcard; a list is a pair of sets of such entries, and it covers a
name if the name is one of the exact entries or has a wildcard suffix right after one of its full
stops.

Nothing here mentions arenas, hashes or offsets: `DomainSets` is the meaning the store of
`RustBlocker.Lists` is measured against.

A wildcard covers what is below its suffix and not the suffix itself, since the name must have a
full stop before it.  The name `.example.com` has one, with nothing before it, and is covered too;
the definition follows the code there, which looks at what stands behind each full stop and not at
labels.  An entry that is not admissible, empty or longer than its length prefix can say, is never
in a set: an insertion of it does nothing.
-/

namespace RustBlocker

/-- An entry of a list. -/
inductive Entry where
  /-- A name that matches itself only. -/
  | exact (name : Str)
  /-- The suffix of a wildcard, without its `*.`. -/
  | wildcard (suffix : Str)
deriving DecidableEq, Repr

namespace Entry

/-- The text the store keeps of an entry. -/
def text : Entry → Str
  | exact name => name
  | wildcard suffix => suffix

/-- An entry the store accepts: not empty, and short enough for its length
prefix. -/
def Admissible (e : Entry) : Prop := e.text ≠ [] ∧ e.text.len ≤ 65535

instance : DecidablePred Admissible := fun e =>
  inferInstanceAs (Decidable (e.text ≠ [] ∧ e.text.len ≤ 65535))

end Entry

/-- The entry a normalized text stands for.  `*.` alone stands for the wildcard of the empty
suffix, which no store accepts. -/
def entryOf (normalized : Str) : Entry :=
  match Str.stripPrefix "*.".toList normalized with
  | some suffix => .wildcard suffix
  | none => .exact normalized

/-- A pair of sets of entries.  It is finite, as a store is, and has no order. -/
@[ext] structure DomainSets where
  exacts : Finset Str
  suffixes : Finset Str
deriving DecidableEq

namespace DomainSets

instance : EmptyCollection DomainSets := ⟨⟨∅, ∅⟩⟩

@[simp] theorem empty_exacts : (∅ : DomainSets).exacts = ∅ := rfl

@[simp] theorem empty_suffixes : (∅ : DomainSets).suffixes = ∅ := rfl

instance : Membership Entry DomainSets where
  mem sets
    | .exact name => name ∈ sets.exacts
    | .wildcard suffix => suffix ∈ sets.suffixes

@[simp] theorem exact_mem {sets : DomainSets} {name : Str} :
    Entry.exact name ∈ sets ↔ name ∈ sets.exacts := Iff.rfl

@[simp] theorem wildcard_mem {sets : DomainSets} {suffix : Str} :
    Entry.wildcard suffix ∈ sets ↔ suffix ∈ sets.suffixes := Iff.rfl

/-- Add an entry. -/
def add (sets : DomainSets) : Entry → DomainSets
  | .exact name => { sets with exacts := insert name sets.exacts }
  | .wildcard suffix => { sets with suffixes := insert suffix sets.suffixes }

/-- Add an entry if it is admissible. -/
def insert (sets : DomainSets) (e : Entry) : DomainSets :=
  if e.Admissible then sets.add e else sets

/-- Remove an entry. -/
def erase (sets : DomainSets) : Entry → DomainSets
  | .exact name => { sets with exacts := sets.exacts.erase name }
  | .wildcard suffix => { sets with suffixes := sets.suffixes.erase suffix }

instance : Union DomainSets where
  union sets sets' := ⟨sets.exacts ∪ sets'.exacts, sets.suffixes ∪ sets'.suffixes⟩

@[simp] theorem union_exacts (sets sets' : DomainSets) :
    (sets ∪ sets').exacts = sets.exacts ∪ sets'.exacts := rfl

@[simp] theorem union_suffixes (sets sets' : DomainSets) :
    (sets ∪ sets').suffixes = sets.suffixes ∪ sets'.suffixes := rfl

/-- The name is an exact entry, or what follows one of its full stops is a wildcard suffix.  This
is a statement about texts; the name is expected to be normalized already, as the entries are. -/
def Covers (sets : DomainSets) (name : Str) : Prop :=
  name ∈ sets.exacts ∨ ∃ before suffix, name = before ++ '.' :: suffix ∧ suffix ∈ sets.suffixes

/-! ## Membership -/

@[ext] theorem ext_mem {sets sets' : DomainSets}
    (same : ∀ e : Entry, e ∈ sets ↔ e ∈ sets') : sets = sets' :=
  DomainSets.ext (Finset.ext fun name => same (.exact name))
    (Finset.ext fun suffix => same (.wildcard suffix))

@[simp] theorem notMem_empty (e : Entry) : e ∉ (∅ : DomainSets) := by
  cases e <;> simp

@[simp] theorem mem_add {sets : DomainSets} {e e' : Entry} :
    e' ∈ sets.add e ↔ e' = e ∨ e' ∈ sets := by
  cases e <;> cases e' <;> simp [add]

theorem mem_insert {sets : DomainSets} {e e' : Entry} :
    e' ∈ sets.insert e ↔ (e' = e ∧ e.Admissible) ∨ e' ∈ sets := by
  unfold insert
  split
  next ok => simp [ok]
  next notOk => simp [notOk]

@[simp] theorem mem_erase {sets : DomainSets} {e e' : Entry} :
    e' ∈ sets.erase e ↔ e' ≠ e ∧ e' ∈ sets := by
  cases e <;> cases e' <;> simp [erase]

@[simp] theorem mem_union {sets sets' : DomainSets} {e : Entry} :
    e ∈ sets ∪ sets' ↔ e ∈ sets ∨ e ∈ sets' := by
  cases e <;> simp

end DomainSets

end RustBlocker
