import RustBlocker.ArenaOverflow

/-!
# Where the offsets of a store point

An insert packs the new name at the end of the arena and keeps the length the arena had, cast to
`u32`, as the offset of the name.  `InsertSound` is what the callers of `contains_in` and of
`domain_at` rely on: the new entry is found, nothing else changed, and each offset decodes to the
bytes of a name that was inserted.

It rests on one thing, `Fits`: that the bytes at the offset are those of the new name.  Below `2 ^
32` bytes the cast changes nothing and they are.  From there on the offset is that of an older
part of the arena, so they are only if the same bytes happen to lie there already, as those of a
name that was removed may.

`Fits` is a condition on the store before the insert and on the entry, and mentions nothing that
the insert computes; `insertSound_iff` says that it is the exact one.  It is asked of an insert
into a store whose earlier operations all found room (`InBounds`), which is the case for the first
insert that does not.  What a store is worth after an entry was lost is not said here: its offsets
still decode to something, but a name may then be found that was never inserted.

The counterexample needs an arena of four gigabytes.  It is not built: that the insertion of very
many names fills an arena is proved by induction on their number, and only the last name is looked
at.
-/

namespace RustBlocker

open BucketIndex PackedArena

/-! ## Looking an entry up

An insert goes right if what it reports is true, if the new name is found afterwards, and if
nothing else is lost or found.  The condition for it is about the one offset that the insert
writes: read back as a `u32` it has to lie at the bytes of the name. -/

/-- Whether the entry is looked up among the wildcard suffixes. -/
def Entry.isWildcard : Entry → Bool
  | exact _ => false
  | wildcard _ => true

namespace DomainStore

/-- One of the two indexes. -/
def index (store : DomainStore) (wildcard : Bool) : DomainIndex :=
  if wildcard then store.wildcards else store.exact

/-- `contains_in` with the hash of the name. -/
def finds (hash : Bytes → UInt64) (store : DomainStore) (wildcard : Bool) (name : Bytes) : Bool :=
  containsIn store.arena (store.index wildcard) name (hash name)

end DomainStore

namespace History

/-- The entries that were inserted at some time, also into the stores that were merged or moved
in, and whether or not they were removed since. -/
def Inserted (u : CaseTables) : History → Entry → Prop
  | fresh, _ => False
  | insert before domain, e =>
      before.Inserted u e ∨ (e = entryOf (normalizeDomain u domain) ∧ e.Admissible)
  | remove before _ _, e => before.Inserted u e
  | merge before other _, e => before.Inserted u e ∨ other.Inserted u e
  | replaceWith before other, e => before.Inserted u e ∨ other.Inserted u e
  | clear before, e => before.Inserted u e

/-- Every operation found an arena of less than `2 ^ 32` bytes, and every merge left
one. -/
def InBounds (u : CaseTables) (hash : Bytes → UInt64) : History → Prop
  | fresh => True
  | insert before _ => before.InBounds u hash ∧ (before.store u hash).arena.length < 2 ^ 32
  | remove before _ _ => before.InBounds u hash ∧ (before.store u hash).arena.length < 2 ^ 32
  | merge before other order =>
      before.InBounds u hash ∧ other.InBounds u hash ∧
        ((merge before other order).store u hash).arena.length < 2 ^ 32
  | replaceWith before other => before.InBounds u hash ∧ other.InBounds u hash
  | clear before => before.InBounds u hash

end History

section Statement

variable (u : CaseTables) (hash : Bytes → UInt64)

/-- **An insert goes right**, in all four respects in which the callers rely on it. -/
structure InsertSound (before : History) (domain : Str) : Prop where
  /-- An entry that was reported as new is found. -/
  found : ((before.store u hash).insert u hash domain).2 = true →
    ((before.insert domain).store u hash).finds hash
      (entryOf (normalizeDomain u domain)).isWildcard
      (entryOf (normalizeDomain u domain)).text.utf8 = true
  /-- What was found is still found. -/
  kept : ∀ wildcard name, (before.store u hash).finds hash wildcard name = true →
    ((before.insert domain).store u hash).finds hash wildcard name = true
  /-- Nothing else is found. -/
  nothingElse : ∀ wildcard name,
    ((before.insert domain).store u hash).finds hash wildcard name = true →
      (before.store u hash).finds hash wildcard name = true ∨
        (wildcard = (entryOf (normalizeDomain u domain)).isWildcard ∧
          name = (entryOf (normalizeDomain u domain)).text.utf8)
  /-- Each offset decodes to a name that was inserted. -/
  decodes : ∀ wildcard,
    ∀ offset ∈ (((before.insert domain).store u hash).index wildcard).offsets,
      ∃ e, (before.insert domain).Inserted u e ∧ e.isWildcard = wildcard ∧
        domainAt ((before.insert domain).store u hash).arena offset = e.text.utf8

/-- **The entry fits**: if it goes into the arena at all, then its bytes are what lies at the
offset it is given.  An entry that is refused, or is there already, fits trivially. -/
def Fits (store : DomainStore) (e : Entry) : Prop :=
  e.Admissible → store.finds hash e.isWildcard e.text.utf8 = false →
    store.arena.length < 2 ^ 32 ∨
      domainAt (store.arena ++ pack e.text.utf8) (UInt32.ofNat store.arena.length) = e.text.utf8

end Statement

/-! ## One insert

An insert either changes nothing or appends one entry and pushes one offset.  In the second case
everything depends on where the truncated offset points. -/

section Insert

variable {u : CaseTables} {hash : Bytes → UInt64} {store : DomainStore} {sets : DomainSets}

theorem finds_iff {wildcard : Bool} {name : Bytes} :
    store.finds hash wildcard name = true ↔
      ∃ o ∈ (store.index wildcard).bucket (hash name), domainAt store.arena o = name := by
  rw [DomainStore.finds, containsIn_eq, BucketIndex.contains, List.any_eq_true]
  simp only [decide_eq_true_eq]

/-- `insert` is `insert_normalized` of the entry. -/
theorem insert_eq_insertNormalized_entry (u : CaseTables) (hash : Bytes → UInt64)
    (store : DomainStore) (domain : Str) :
    store.insert u hash domain =
      store.insertNormalized hash (entryOf (normalizeDomain u domain)).text.utf8
        (entryOf (normalizeDomain u domain)).isWildcard := by
  rw [insert_eq_insertNormalized]
  cases entryOf (normalizeDomain u domain) <;> rfl

/-- An entry that is not accepted, or is there already, changes nothing. -/
theorem insertNormalized_of_not_new {wildcard : Bool} {name : Bytes}
    (old : ¬ (Storable name ∧ store.finds hash wildcard name = false)) :
    store.insertNormalized hash name wildcard = (store, false) := by
  unfold DomainStore.insertNormalized
  by_cases empty : name = []
  · rw [if_pos empty]
  by_cases long : name.length > 65535
  · rw [if_neg empty, if_pos long]
  have found : store.finds hash wildcard name = true :=
    Bool.not_eq_false _ |>.mp fun absent => old ⟨⟨empty, Nat.le_of_not_lt long⟩, absent⟩
  rw [if_neg empty, if_neg long]
  cases wildcard <;> simp_all [DomainStore.finds, DomainStore.index]

/-- A new entry is packed at the end of the arena, and its offset is pushed to its
index. -/
theorem insertNormalized_of_new {wildcard : Bool} {name : Bytes} (storable : Storable name)
    (absent : store.finds hash wildcard name = false) :
    (store.insertNormalized hash name wildcard).2 = true ∧
      (store.insertNormalized hash name wildcard).1.arena = store.arena ++ pack name ∧
      (store.insertNormalized hash name wildcard).1.index wildcard =
        (store.index wildcard).push (hash name) (UInt32.ofNat store.arena.length) ∧
      ∀ other, other ≠ wildcard →
        (store.insertNormalized hash name wildcard).1.index other = store.index other := by
  have long : ¬ name.length > 65535 := Nat.not_lt.mpr storable.2
  unfold DomainStore.insertNormalized
  rw [if_neg storable.1, if_neg long]
  cases wildcard with
  | false =>
      simp_all [DomainStore.finds, DomainStore.index, DomainStore.pushDomain]
  | true =>
      simp_all [DomainStore.finds, DomainStore.index, DomainStore.pushDomain]

/-- Every offset of a store that stands for sets points at a whole entry. -/
theorem Models.pointsAt (models : Models hash store sets) {wildcard : Bool} {o : UInt32}
    (inside : o ∈ (store.index wildcard).offsets) : PointsAt store.arena o := by
  cases wildcard with
  | false => exact models.holds.exactPoints o inside
  | true => exact models.holds.wildcardPoints o inside

/-- Every offset of a store that stands for sets decodes to an entry of them. -/
theorem Models.decodes (models : Models hash store sets) {wildcard : Bool} {o : UInt32}
    (inside : o ∈ (store.index wildcard).offsets) :
    ∃ e, e ∈ sets ∧ e.isWildcard = wildcard ∧ domainAt store.arena o = e.text.utf8 := by
  cases wildcard with
  | false =>
      obtain ⟨name, mem, decoded⟩ := Finset.mem_map.mp (models.holds.exact.decode_mem inside)
      exact ⟨.exact name, mem, rfl, decoded.symm⟩
  | true =>
      obtain ⟨suffix, mem, decoded⟩ :=
        Finset.mem_map.mp (models.holds.wildcards.decode_mem inside)
      exact ⟨.wildcard suffix, mem, rfl, decoded.symm⟩

/-- A new entry fits exactly if its offset decodes to it. -/
theorem fits_iff_decodes {e : Entry} (ok : e.Admissible)
    (absent : store.finds hash e.isWildcard e.text.utf8 = false) :
    Fits hash store e ↔
      domainAt (store.arena ++ pack e.text.utf8) (UInt32.ofNat store.arena.length) =
        e.text.utf8 := by
  constructor
  · intro fits
    rcases fits ok absent with bounded | decoded
    · have short := (Entry.admissible_iff.mp ok).2
      exact (hasEntry_pushDomain store bounded short).entryAt
    · exact decoded
  · exact fun decoded _ _ => Or.inr decoded

end Insert

/-! ## Whole histories

For the store before the insert it is enough that no arena on the way was too long.  The insert
itself is then judged by its own offset, which gives an equivalence. -/

section Histories

variable {u : CaseTables} {hash : Bytes → UInt64}

/-- A store whose operations all found room stands for the sets of its history. -/
theorem History.InBounds.models {h : History} (met : h.InBounds u hash) :
    Models hash (h.store u hash) (h.sets u) := by
  induction h with
  | fresh => exact models_default hash
  | insert before domain ih => exact ((ih met.1).insert u met.2 domain).1
  | remove before domain order ih => exact ((ih met.1).remove u met.2 order domain).1
  | merge before other order ih ih' => exact (ih met.1).merge (ih' met.2.1) order met.2.2
  | replaceWith before other ih ih' => exact ih' met.2
  | clear before ih => exact models_default hash

/-- What is in the sets was inserted. -/
theorem History.inserted_of_mem {h : History} {e : Entry} (mem : e ∈ h.sets u) :
    h.Inserted u e := by
  induction h with
  | fresh => exact absurd mem (DomainSets.notMem_empty e)
  | insert before domain ih =>
      rcases DomainSets.mem_insert.mp mem with ⟨rfl, ok⟩ | old
      · exact Or.inr ⟨rfl, ok⟩
      · exact Or.inl (ih old)
  | remove before domain order ih => exact ih (DomainSets.mem_erase.mp mem).2
  | merge before other order ih ih' => exact (DomainSets.mem_union.mp mem).imp ih ih'
  | replaceWith before other ih ih' => exact Or.inr (ih' mem)
  | clear before ih => exact absurd mem (DomainSets.notMem_empty e)

/-- An insert that changes nothing goes right. -/
theorem insertSound_of_not_new {before : History} (met : before.InBounds u hash) {domain : Str}
    (same : (before.store u hash).insert u hash domain = (before.store u hash, false)) :
    InsertSound u hash before domain := by
  have stays : (before.insert domain).store u hash = before.store u hash :=
    congrArg Prod.fst same
  constructor
  · intro new
    rw [same] at new
    cases new
  · intro wildcard name found
    rwa [stays]
  · intro wildcard name found
    rw [stays] at found
    exact Or.inl found
  · intro wildcard offset inside
    rw [stays] at inside ⊢
    obtain ⟨e, mem, kind, decoded⟩ := met.models.decodes inside
    exact ⟨e, Or.inl (History.inserted_of_mem mem), kind, decoded⟩

/-- An insert whose offset decodes to the new name goes right. -/
theorem insertSound_of_decodes {before : History} (met : before.InBounds u hash) {domain : Str}
    (ok : (entryOf (normalizeDomain u domain)).Admissible)
    (absent : (before.store u hash).finds hash (entryOf (normalizeDomain u domain)).isWildcard
      (entryOf (normalizeDomain u domain)).text.utf8 = false)
    (decoded : domainAt ((before.store u hash).arena ++
        pack (entryOf (normalizeDomain u domain)).text.utf8)
      (UInt32.ofNat (before.store u hash).arena.length) =
        (entryOf (normalizeDomain u domain)).text.utf8) :
    InsertSound u hash before domain := by
  obtain ⟨-, arena, pushed, others⟩ :=
    insertNormalized_of_new (Entry.admissible_iff.mp ok) absent
  rw [← insert_eq_insertNormalized_entry] at arena pushed others
  have models := met.models
  generalize named : entryOf (normalizeDomain u domain) = e at *
  -- what an offset of the store before decodes to does not change
  have old : ∀ {wildcard o}, o ∈ ((before.store u hash).index wildcard).offsets →
      domainAt ((before.store u hash).arena ++ pack e.text.utf8) o =
        domainAt (before.store u hash).arena o :=
    fun inside => (models.pointsAt inside).domainAt_append _
  have after : (before.insert domain).store u hash =
      ((before.store u hash).insert u hash domain).1 := rfl
  constructor
  · intro _
    rw [named, finds_iff, after, pushed, arena]
    exact ⟨_, mem_bucket_push.mpr (Or.inr ⟨rfl, rfl⟩), decoded⟩
  · intro wildcard name found
    rw [finds_iff] at found ⊢
    obtain ⟨o, inside, here⟩ := found
    rw [after, arena]
    by_cases kind : wildcard = e.isWildcard
    · subst kind
      rw [pushed]
      exact ⟨o, mem_bucket_push.mpr (Or.inl inside),
        (old (mem_offsets.mpr ⟨_, inside⟩)).trans here⟩
    · rw [others _ kind]
      exact ⟨o, inside, (old (mem_offsets.mpr ⟨_, inside⟩)).trans here⟩
  · intro wildcard name found
    rw [finds_iff, after, arena] at found
    obtain ⟨o, inside, here⟩ := found
    rw [finds_iff, named]
    by_cases kind : wildcard = e.isWildcard
    · subst kind
      rw [pushed] at inside
      rcases mem_bucket_push.mp inside with before | ⟨-, rfl⟩
      · exact Or.inl ⟨o, before, (old (mem_offsets.mpr ⟨_, before⟩)).symm.trans here⟩
      · exact Or.inr ⟨rfl, here.symm.trans decoded⟩
    · rw [others _ kind] at inside
      exact Or.inl ⟨o, inside, (old (mem_offsets.mpr ⟨_, inside⟩)).symm.trans here⟩
  · intro wildcard offset inside
    rw [after, arena]
    have earlier : offset ∈ ((before.store u hash).index wildcard).offsets →
        ∃ e', (before.insert domain).Inserted u e' ∧ e'.isWildcard = wildcard ∧
          domainAt ((before.store u hash).arena ++ pack e.text.utf8) offset = e'.text.utf8 := by
      intro before'
      obtain ⟨e', mem, kind, here⟩ := models.decodes before'
      exact ⟨e', Or.inl (History.inserted_of_mem mem), kind, (old before').trans here⟩
    by_cases kind : wildcard = e.isWildcard
    · subst kind
      rw [after, pushed, (offsets_push _ _ _).mem_iff] at inside
      rcases List.mem_cons.mp inside with rfl | before'
      · exact ⟨e, Or.inr ⟨named.symm, ok⟩, rfl, decoded⟩
      · exact earlier before'
    · rw [after, others _ kind] at inside
      exact earlier inside

/-- **An insert goes right exactly if the entry fits**, in every store whose operations
found an arena of less than `2 ^ 32` bytes. -/
theorem insertSound_iff (before : History) (domain : Str) (met : before.InBounds u hash) :
    InsertSound u hash before domain ↔
      Fits hash (before.store u hash) (entryOf (normalizeDomain u domain)) := by
  have inserts := insert_eq_insertNormalized_entry u hash (before.store u hash) domain
  by_cases new : (entryOf (normalizeDomain u domain)).Admissible ∧
      (before.store u hash).finds hash (entryOf (normalizeDomain u domain)).isWildcard
        (entryOf (normalizeDomain u domain)).text.utf8 = false
  · obtain ⟨ok, absent⟩ := new
    rw [fits_iff_decodes ok absent]
    refine ⟨fun sound => ?_, insertSound_of_decodes met ok absent⟩
    obtain ⟨reported, arena, pushed, -⟩ :=
      insertNormalized_of_new (Entry.admissible_iff.mp ok) absent
    rw [← inserts] at reported arena pushed
    -- the name is found, and not at an older offset
    have found := sound.found reported
    rw [finds_iff] at found
    obtain ⟨o, inside, here⟩ := found
    change o ∈ (((before.store u hash).insert u hash domain).1.index _).bucket _ at inside
    change domainAt ((before.store u hash).insert u hash domain).1.arena o = _ at here
    rw [pushed] at inside
    rw [arena] at here
    rcases mem_bucket_push.mp inside with old | ⟨-, rfl⟩
    · rw [(met.models.pointsAt (mem_offsets.mpr ⟨_, old⟩)).domainAt_append] at here
      rw [finds_iff.mpr ⟨o, old, here⟩] at absent
      cases absent
    · exact here
  · refine iff_of_true (insertSound_of_not_new met ?_) fun ok absent => absurd ⟨ok, absent⟩ new
    rw [inserts]
    exact insertNormalized_of_not_new fun both => new ⟨Entry.admissible_iff.mpr both.1, both.2⟩

end Histories

theorem insertSound_iff_wildcard :
    InsertSound .ascii (fun _ => 0) .colliding "*.Example.".toList ↔
      Fits (fun _ => 0) (History.colliding.store .ascii fun _ => 0)
        (.wildcard "example".toList) :=
  insertSound_iff .colliding "*.Example.".toList
    ⟨⟨⟨⟨trivial, by decide⟩, by decide⟩, by decide⟩, by decide⟩

/-- Inserts, one after the other. -/
def insertedNames (names : List Str) : History := names.foldl History.insert .fresh

theorem store_insertedNames (u : CaseTables) (hash : Bytes → UInt64) (names : List Str) :
    (insertedNames names).store u hash = storeOf u hash names :=
  (List.foldl_hom _ fun _ _ => rfl).symm

/-- **The name that fills the arena past `2 ^ 32` bytes is lost**: the insert reports it
as new, and it is not found. -/
theorem not_insertSound :
    ¬ ∃ (u : CaseTables) (hash : Bytes → UInt64), ∀ before domain,
      InsertSound u hash before domain := by
  rintro ⟨u, hash, sound⟩
  have wide := @wide_wideNames (2 ^ 26 + 1) (by decide)
  have size := length_wideNames (2 ^ 26 + 1)
  generalize wideNames (2 ^ 26 + 1) = names at wide size
  obtain ⟨first, rest, rfl⟩ := List.exists_cons_of_length_pos (l := names) (by
    rw [size]
    decide)
  rcases rest.eq_nil_or_concat' with rfl | ⟨middle, last, rfl⟩
  · cases size
  rw [List.length_cons, List.length_append, List.length_singleton] at size
  have lost := (lost_by_order u hash wide (by omega)).2
  have lastMem : last ∈ first :: (middle ++ [last]) := by simp
  obtain ⟨k, named⟩ := wide.wide last lastMem
  have canonical := wide.canonical last lastMem
  have asExact : entryOf (normalizeDomain u last) = .exact last := by
    rw [canonical.normalizeDomain, named, entryOf_wideName]
  -- the name is not among the others, so its insert reports it as new
  have front : (first :: middle).Sublist (first :: (middle ++ [last])) :=
    (List.sublist_append_left middle [last]).cons_cons first
  obtain ⟨models, -⟩ := (wide.of_sublist front).models_storeOf u hash (by simp; omega)
  have absent : (storeOf u hash (first :: middle)).finds hash false last.utf8 = false := by
    rw [Bool.eq_false_iff]
    intro found
    have mem := (models.holdsEntry_iff (.exact last)).mp found
    have once : entryOf last = .exact last := by rw [named, entryOf_wideName]
    rw [← once, entryOf_mem_setsOf] at mem
    have apart := wide.nodup
    rw [← List.cons_append] at apart
    exact (List.nodup_append.mp apart).2.2 last mem last (List.mem_singleton_self _) rfl
  have storable : Storable last.utf8 := by
    have ok := Entry.admissible_iff.mp canonical.admissible
    rwa [show entryOf last = .exact last by rw [named, entryOf_wideName]] at ok
  have found := (sound (insertedNames (first :: middle)) last).found
  rw [store_insertedNames, insert_eq_insertNormalized_entry, asExact] at found
  have here := found (insertNormalized_of_new storable absent).1
  have whole : (insertedNames (first :: middle)).insert last =
      insertedNames (first :: (middle ++ [last])) := by
    rw [insertedNames, insertedNames, ← List.cons_append, List.foldl_append]
    rfl
  rw [whole, store_insertedNames] at here
  rw [show (storeOf u hash (first :: (middle ++ [last]))).holdsEntry hash (.exact last) =
    (storeOf u hash (first :: (middle ++ [last]))).finds hash false last.utf8 from rfl] at lost
  rw [show Entry.isWildcard (.exact last) = false from rfl,
    show Entry.text (.exact last) = last from rfl, lost] at here
  cases here

end RustBlocker
