import RustBlocker.Entries
import RustBlocker.ListsInvariant

/-!
# The domain store refines a pair of sets

`Models hash store sets` connects the two levels: the store represents the encodings of the two
sets, and no exact entry starts with `*.` (which is why a remove of `*.x`, which also looks the
whole text up among the exact names, finds nothing there).

`History` is a program over stores: how a store was made from `DomainStore::default()` by inserts,
removes, merges with other stores so made, replacements and clears, each with the hash-map
iteration order it met.  Its meaning is given twice, by the code (`History.store`) and by sets
(`History.sets`), and `History.models` is the refinement between the two, for every hash and every
order, as long as no arena reaches `2 ^ 32` bytes.

A history is a tree and not a list, because a store is merged with another store that has a
history of its own.  That is how the program uses them: a list that was loaded from the database
is moved into the running one, and a list that was uploaded is merged with it.  The induction of
every result here is over this tree.

The bound on the arena is the only assumption (`History.Bounded`).  It is asked of every store
that is met along the way and not only of the last, since an entry that was lost once stays lost.
No assumption is made about the hash: two names may collide, or all of them, and the results are
about the same sets.
-/

namespace RustBlocker

/-- UTF-8 encoding, as an embedding. -/
def utf8Embedding : Str ↪ Bytes := ⟨Str.utf8, Str.utf8_injective⟩

@[simp] theorem utf8Embedding_apply (s : Str) : utf8Embedding s = s.utf8 := rfl

theorem utf8_mem_map {names : Finset Str} {s : Str} :
    s.utf8 ∈ names.map utf8Embedding ↔ s ∈ names :=
  Finset.mem_map' utf8Embedding

/-- **The store represents the sets.**  From here on a proof about a list needs no arena and no
hash. -/
structure Models (hash : Bytes → UInt64) (store : DomainStore) (sets : DomainSets) :
    Prop where
  holds : Holds hash store (sets.exacts.map utf8Embedding)
    (sets.suffixes.map utf8Embedding)
  /-- An exact entry is one that `insert` would take for exact. -/
  plain : ∀ name ∈ sets.exacts, Str.stripPrefix "*.".toList name = none

/-! ## The walk over the parent suffixes -/

namespace DomainStore

variable {test : Bytes → Bool}

theorem anyParent_append_of_notMem {before : Bytes} (plain : (46 : UInt8) ∉ before)
    (rest : Bytes) : anyParent test (before ++ rest) = anyParent test rest := by
  induction before with
  | nil => rfl
  | cons byte more ih =>
      rw [List.mem_cons, not_or] at plain
      have differs : (byte == 46) = false := beq_eq_false_iff_ne.mpr (Ne.symm plain.1)
      rw [List.cons_append, anyParent, differs, Bool.false_and, Bool.false_or,
        ih plain.2]

/-- **The walk over bytes visits what follows the full stops of the text**: no
other character has the byte of a full stop in its encoding. -/
theorem anyParent_utf8 {name : Str} :
    anyParent test name.utf8 = true ↔
      ∃ before suffix, name = before ++ '.' :: suffix ∧ test (Str.utf8 suffix) = true := by
  induction name with
  | nil => simp [anyParent]
  | cons c rest ih =>
      by_cases dot : c = '.'
      · subst dot
        have step : anyParent test (Str.utf8 ('.' :: rest)) =
            (test (Str.utf8 rest) || anyParent test (Str.utf8 rest)) := rfl
        rw [step, Bool.or_eq_true, ih]
        constructor
        · rintro (here | ⟨before, suffix, rfl, accepted⟩)
          · exact ⟨[], rest, rfl, here⟩
          · exact ⟨'.' :: before, suffix, rfl, accepted⟩
        · rintro ⟨before, suffix, split, accepted⟩
          rcases List.cons_eq_append_iff.mp split with ⟨-, tail⟩ | ⟨more, -, rfl⟩
          · obtain ⟨-, rfl⟩ := List.cons.inj tail
            exact Or.inl accepted
          · exact Or.inr ⟨more, suffix, rfl, accepted⟩
      · have plain : (46 : UInt8) ∉ String.utf8EncodeChar c :=
          fun mem => dot (Str.dot_mem_utf8EncodeChar.mp mem)
        rw [Str.utf8_cons, anyParent_append_of_notMem plain, ih]
        constructor
        · rintro ⟨before, suffix, rfl, accepted⟩
          exact ⟨c :: before, suffix, rfl, accepted⟩
        · rintro ⟨before, suffix, split, accepted⟩
          rcases List.cons_eq_append_iff.mp split with ⟨-, tail⟩ | ⟨more, -, rfl⟩
          · exact absurd (List.cons.inj tail).1.symm dot
          · exact ⟨more, suffix, rfl, accepted⟩

end DomainStore

/-! ## One operation

The operations on texts instead of byte strings.  Before an entry is looked for, a text is
normalized and, if it begins with a star, taken for a wildcard; the lemmas say what entry this
comes to, and that each operation changes the pair of sets by that entry. -/

section Operations

variable {hash : Bytes → UInt64} {store : DomainStore} {sets : DomainSets}

theorem models_default (hash : Bytes → UInt64) : Models hash DomainStore.default ∅ where
  holds := by simpa using holds_default hash
  plain := by simp

/-- The store accepts the text of an entry exactly if the entry is
admissible. -/
theorem Entry.admissible_iff {e : Entry} : e.Admissible ↔ Storable e.text.utf8 := by
  rw [Storable, Ne, Str.utf8_eq_nil]
  rfl

/-- An entry read off a text is exact only if the text does not start with
`*.`. -/
theorem stripPrefix_of_entryOf_exact {normalized name : Str}
    (exact : entryOf normalized = .exact name) :
    name = normalized ∧ Str.stripPrefix "*.".toList normalized = none := by
  unfold entryOf at exact
  split at exact
  · cases exact
  next unstarred =>
    cases exact
    exact ⟨rfl, unstarred⟩

theorem stripPrefix_of_entryOf_wildcard {normalized suffix : Str}
    (wildcard : entryOf normalized = .wildcard suffix) :
    Str.stripPrefix "*.".toList normalized = some suffix := by
  unfold entryOf at wildcard
  split at wildcard
  next starred =>
    cases wildcard
    exact starred
  · cases wildcard

/-- `insert` is `insert_normalized` of the entry's text: the checks it makes
first are among those made again below it. -/
theorem insert_eq_insertNormalized (u : CaseTables) (hash : Bytes → UInt64)
    (store : DomainStore) (s : Str) :
    store.insert u hash s =
      match entryOf (normalizeDomain u s) with
      | .exact name => store.insertNormalized hash name.utf8 false
      | .wildcard suffix => store.insertNormalized hash suffix.utf8 true := by
  unfold DomainStore.insert entryOf
  by_cases empty : normalizeDomain u s = []
  · simp [empty, Str.stripPrefix, DomainStore.insertNormalized]
  cases starred : Str.stripPrefix "*.".toList (normalizeDomain u s) with
  | none => simp only [empty, if_false, starred]
  | some suffix =>
      by_cases nothing : suffix = []
      · simp only [empty, if_false, starred, nothing, if_true, Str.utf8_nil,
          DomainStore.insertNormalized]
      · simp only [empty, if_false, starred, nothing]

namespace Models

/-- **`insert`** adds the entry of the normalized text, if it is admissible, and
reports whether it was new. -/
theorem insert (models : Models hash store sets) (u : CaseTables)
    (bounded : store.arena.length < 2 ^ 32) (s : Str) :
    Models hash (store.insert u hash s).1 (sets.insert (entryOf (normalizeDomain u s))) ∧
      ((store.insert u hash s).2 = true ↔
        (entryOf (normalizeDomain u s)).Admissible ∧
          entryOf (normalizeDomain u s) ∉ sets) := by
  rw [insert_eq_insertNormalized]
  cases kind : entryOf (normalizeDomain u s) with
  | exact name =>
      obtain ⟨rfl, unstarred⟩ := stripPrefix_of_entryOf_exact kind
      obtain ⟨holds, new⟩ :=
        models.holds.insertNormalized_exact bounded (normalizeDomain u s).utf8
      rw [utf8_mem_map] at new
      have same : (Entry.exact (normalizeDomain u s)).Admissible ↔
          Storable (normalizeDomain u s).utf8 := Entry.admissible_iff
      refine ⟨?_, new.trans (and_congr_left' same.symm)⟩
      by_cases ok : (Entry.exact (normalizeDomain u s)).Admissible
      · rw [DomainSets.insert, if_pos ok]
        rw [if_pos (same.mp ok)] at holds
        refine ⟨by simpa [DomainSets.add, Finset.map_insert] using holds, fun name mem => ?_⟩
        rcases Finset.mem_insert.mp mem with rfl | old
        · exact unstarred
        · exact models.plain name old
      · rw [DomainSets.insert, if_neg ok]
        rw [if_neg fun storable => ok (same.mpr storable)] at holds
        exact ⟨holds, models.plain⟩
  | wildcard suffix =>
      obtain ⟨holds, new⟩ := models.holds.insertNormalized_wildcard bounded suffix.utf8
      rw [utf8_mem_map] at new
      have same : (Entry.wildcard suffix).Admissible ↔ Storable suffix.utf8 :=
        Entry.admissible_iff
      refine ⟨?_, new.trans (and_congr_left' same.symm)⟩
      by_cases ok : (Entry.wildcard suffix).Admissible
      · rw [DomainSets.insert, if_pos ok]
        rw [if_pos (same.mp ok)] at holds
        exact ⟨by simpa [DomainSets.add, Finset.map_insert] using holds, models.plain⟩
      · rw [DomainSets.insert, if_neg ok]
        rw [if_neg fun storable => ok (same.mpr storable)] at holds
        exact ⟨holds, models.plain⟩

/-- **`remove`** removes the entry of the normalized text and no other, and does
not lengthen the arena. -/
theorem remove (models : Models hash store sets) (u : CaseTables)
    (bounded : store.arena.length < 2 ^ 32) (order : BucketOrder) (s : Str) :
    Models hash (store.remove u hash s order)
        (sets.erase (entryOf (normalizeDomain u s))) ∧
      (store.remove u hash s order).arena.length ≤ store.arena.length := by
  cases kind : entryOf (normalizeDomain u s) with
  | exact name =>
      obtain ⟨rfl, unstarred⟩ := stripPrefix_of_entryOf_exact kind
      obtain ⟨holds, shorter⟩ := models.holds.remove_exact bounded u order unstarred
      refine ⟨⟨?_, fun name mem => models.plain name (Finset.mem_of_mem_erase mem)⟩, shorter⟩
      simpa [DomainSets.erase, Finset.map_erase] using holds
  | wildcard suffix =>
      have starred := stripPrefix_of_entryOf_wildcard kind
      have absent : (normalizeDomain u s).utf8 ∉ sets.exacts.map utf8Embedding := by
        rw [utf8_mem_map]
        intro mem
        rw [models.plain _ mem] at starred
        cases starred
      obtain ⟨holds, shorter⟩ := models.holds.remove_wildcard bounded u order starred absent
      refine ⟨⟨?_, models.plain⟩, shorter⟩
      simpa [DomainSets.erase, Finset.map_erase] using holds

theorem merge {other : DomainStore} {sets' : DomainSets} (models : Models hash store sets)
    (models' : Models hash other sets') (order : BucketOrder)
    (bounded : (store.merge hash other order).arena.length < 2 ^ 32) :
    Models hash (store.merge hash other order) (sets ∪ sets') where
  holds := by
    simpa [Finset.map_union] using models.holds.merge models'.holds order bounded
  plain := by
    intro name mem
    rcases Finset.mem_union.mp mem with old | new
    · exact models.plain name old
    · exact models'.plain name new

theorem exactLen (models : Models hash store sets) :
    store.exactLen = sets.exacts.card := by
  rw [DomainStore.exactLen, models.holds.exactCount, Finset.card_map]

theorem wildcardLen (models : Models hash store sets) :
    store.wildcardLen = sets.suffixes.card := by
  rw [DomainStore.wildcardLen, models.holds.wildcardCount, Finset.card_map]

/-- **`matches` decides whether the sets cover the name.** -/
theorem matches_iff (models : Models hash store sets) (name : Str) :
    store.matches hash name = true ↔ sets.Covers name := by
  simp only [DomainStore.matches, Bool.or_eq_true, models.holds.containsIn_exact,
    DomainStore.anyParent_utf8, models.holds.containsIn_wildcards, utf8_mem_map]
  rfl

end Models

end Operations

/-! ## Whole histories

A history is a tree, because the stores that are merged have histories of their own.  The
induction follows it, with the bound on every arena along the way as its hypothesis, and ends in
what a user of the store can observe. -/

/-- How a store was made.  Each constructor is an operation of the source, with the iteration
orders that it met. -/
inductive History where
  /-- `DomainStore::default()` -/
  | fresh
  | insert (before : History) (domain : Str)
  | remove (before : History) (domain : Str) (order : BucketOrder)
  | merge (before other : History) (order : BucketOrder)
  | replaceWith (before other : History)
  | clear (before : History)

namespace History

/-- The store the code makes. -/
def store (u : CaseTables) (hash : Bytes → UInt64) : History → DomainStore
  | fresh => DomainStore.default
  | insert before domain => ((before.store u hash).insert u hash domain).1
  | remove before domain order => (before.store u hash).remove u hash domain order
  | merge before other order => (before.store u hash).merge hash (other.store u hash) order
  | replaceWith before other => (before.store u hash).replaceWith (other.store u hash)
  | clear before => (before.store u hash).clear

/-- The pair of sets it stands for. -/
def sets (u : CaseTables) : History → DomainSets
  | fresh => ∅
  | insert before domain => (before.sets u).insert (entryOf (normalizeDomain u domain))
  | remove before domain _ => (before.sets u).erase (entryOf (normalizeDomain u domain))
  | merge before other _ => before.sets u ∪ other.sets u
  | replaceWith _ other => other.sets u
  | clear _ => ∅

/-- No arena met along the way reaches `2 ^ 32` bytes.  The arena of a merge is bounded before and
after, as its entries are packed one by one. -/
def Bounded (u : CaseTables) (hash : Bytes → UInt64) : History → Prop
  | fresh => True
  | insert before domain =>
      before.Bounded u hash ∧
        ((insert before domain).store u hash).arena.length < 2 ^ 32
  | remove before domain order =>
      before.Bounded u hash ∧
        ((remove before domain order).store u hash).arena.length < 2 ^ 32
  | merge before other order =>
      before.Bounded u hash ∧ other.Bounded u hash ∧
        ((merge before other order).store u hash).arena.length < 2 ^ 32
  | replaceWith before other => before.Bounded u hash ∧ other.Bounded u hash
  | clear before => before.Bounded u hash

variable {u : CaseTables} {hash : Bytes → UInt64}

theorem Bounded.arena_length {h : History} (bounded : h.Bounded u hash) :
    (h.store u hash).arena.length < 2 ^ 32 := by
  induction h with
  | fresh => exact Nat.two_pow_pos 32
  | insert before domain ih => exact bounded.2
  | remove before domain order ih => exact bounded.2
  | merge before other order ih ih' => exact bounded.2.2
  | replaceWith before other ih ih' => exact ih' bounded.2
  | clear before ih => exact Nat.two_pow_pos 32

/-- **Refinement.** Whatever was done to it, the store represents the sets the
history denotes. -/
theorem models {h : History} (bounded : h.Bounded u hash) :
    Models hash (h.store u hash) (h.sets u) := by
  induction h with
  | fresh => exact models_default hash
  | insert before domain ih =>
      exact ((ih bounded.1).insert u bounded.1.arena_length domain).1
  | remove before domain order ih =>
      exact ((ih bounded.1).remove u bounded.1.arena_length order domain).1
  | merge before other order ih ih' =>
      exact (ih bounded.1).merge (ih' bounded.2.1) order bounded.2.2
  | replaceWith before other ih ih' => exact ih' bounded.2
  | clear before ih => exact models_default hash

/-- **A store is observationally a pair of sets.**  Its two lengths are the
sizes of the sets, it matches exactly the names they cover, and an insert
reports exactly the entries that are admissible and not yet there. -/
theorem observations (u : CaseTables) (hash : Bytes → UInt64) (h : History)
    (bounded : h.Bounded u hash) :
    (h.store u hash).exactLen = (h.sets u).exacts.card ∧
      (h.store u hash).wildcardLen = (h.sets u).suffixes.card ∧
      (∀ name, (h.store u hash).matches hash name = true ↔ (h.sets u).Covers name) ∧
      (∀ domain, ((h.store u hash).insert u hash domain).2 = true ↔
        (entryOf (normalizeDomain u domain)).Admissible ∧
          entryOf (normalizeDomain u domain) ∉ h.sets u) :=
  have refines := models bounded
  ⟨refines.exactLen, refines.wildcardLen, refines.matches_iff,
    fun domain => (refines.insert u bounded.arena_length domain).2⟩

/-- A history whose names all collide and whose last remove rebuilds the arena. -/
def colliding : History :=
  (((fresh.insert "*.Ads.example.".toList).insert "tracker.example".toList).insert
    "ads.example".toList).remove "TRACKER.example".toList (Reordering.reverse _)

theorem observations_colliding :
    (colliding.store .ascii fun _ => 0).exactLen = 1 ∧
      (colliding.store .ascii fun _ => 0).wildcardLen = 1 ∧
      (colliding.store .ascii fun _ => 0).matches (fun _ => 0) "x.ads.example".toList =
        true ∧
      (colliding.store .ascii fun _ => 0).matches (fun _ => 0) "tracker.example".toList =
        false := by
  have bounded : colliding.Bounded .ascii fun _ => 0 :=
    ⟨⟨⟨⟨trivial, by decide⟩, by decide⟩, by decide⟩, by decide⟩
  obtain ⟨exacts, suffixes, covers, -⟩ := observations .ascii (fun _ => 0) colliding bounded
  refine ⟨exacts.trans (by decide), suffixes.trans (by decide), ?_, by decide⟩
  exact (covers _).mpr (Or.inr ⟨"x".toList, "ads.example".toList, by decide, by decide⟩)

end History

end RustBlocker
