import RustBlocker.ListsRefinement
import RustBlocker.SourceRefresh

/-!
# Stores built from a table

A store built by inserting canonical domains one after the other represents the entries of these
domains, in whatever order and however often they come, as long as they fit: `packedBytes` is what
they take in an arena, each counted once.

`SameEntries` is what "two stores hold the same entries" means: the lookup of `contains_in` finds
the same exact names and the same wildcard suffixes in both.

Stores are compared by what they find and not by their bytes, because the place of an entry
depends on the order of the insertions and on what was removed before.  Every lookup of the server
goes through `contains_in`, so that no request can tell two such stores apart.

The bound is about the names and not about the run.  A store that is built from a table has no
holes, so its arena is exactly `packedBytes` long at the end and shorter before, and one
inequality about the table is enough for every insertion on the way.  A store that is edited has
holes, and `deadBytes` is then on the left of the bound as well.
-/

namespace RustBlocker

/-- The entries of a list of domains. -/
def setsOf (domains : List Str) : DomainSets :=
  domains.foldr (fun domain sets => sets.add (entryOf domain)) ∅

/-- The bytes the entries of a pair of sets take in an arena without holes. -/
def DomainSets.bytes (sets : DomainSets) : Nat :=
  sets.exacts.sum (fun name => packedSize name.utf8) +
    sets.suffixes.sum fun suffix => packedSize suffix.utf8

/-- The bytes the entries of a list of domains take in an arena without holes.  A domain that is
listed twice counts once. -/
def packedBytes (domains : List Str) : Nat := (setsOf domains).bytes

/-- Whether the store finds the entry. -/
def DomainStore.holdsEntry (hash : Bytes → UInt64) (store : DomainStore) : Entry → Bool
  | .exact name => containsIn store.arena store.exact name.utf8 (hash name.utf8)
  | .wildcard suffix => containsIn store.arena store.wildcards suffix.utf8 (hash suffix.utf8)

/-- The two stores find the same entries.  Holes, offsets and the order of the arena are not
compared. -/
def SameEntries (hash : Bytes → UInt64) (store store' : DomainStore) : Prop :=
  ∀ e, store.holdsEntry hash e = store'.holdsEntry hash e

/-! ## Sets of entries

The entries of a list of domains, as a pair of sets, and the bytes that they take.  Order and
repetition are gone here, so that all bounds are about sets. -/

theorem mem_setsOf {domains : List Str} {e : Entry} :
    e ∈ setsOf domains ↔ ∃ domain ∈ domains, entryOf domain = e := by
  induction domains with
  | nil => simp [setsOf]
  | cons domain rest ih =>
      have step : setsOf (domain :: rest) = (setsOf rest).add (entryOf domain) := rfl
      rw [step, DomainSets.mem_add, ih]
      simp [eq_comm]

theorem entryOf_mem_setsOf {domains : List Str} {domain : Str} :
    entryOf domain ∈ setsOf domains ↔ domain ∈ domains := by
  rw [mem_setsOf]
  constructor
  · rintro ⟨d, mem, same⟩
    rw [← entryOf_injective same]
    exact mem
  · intro mem
    exact ⟨domain, mem, rfl⟩

/-- The entries depend on which domains are listed, not on their order. -/
theorem setsOf_congr {domains domains' : List Str} (same : ∀ d, d ∈ domains ↔ d ∈ domains') :
    setsOf domains = setsOf domains' := by
  refine DomainSets.ext_mem fun e => ?_
  simp only [mem_setsOf, same]

theorem setsOf_append (domains domains' : List Str) :
    setsOf (domains ++ domains') = setsOf domains ∪ setsOf domains' := by
  refine DomainSets.ext_mem fun e => ?_
  rw [DomainSets.mem_union]
  simp only [mem_setsOf, List.mem_append, or_and_right, exists_or]

/-- Fewer entries take fewer bytes. -/
theorem DomainSets.bytes_mono {sets sets' : DomainSets} (sub : ∀ e : Entry, e ∈ sets → e ∈ sets') :
    sets.bytes ≤ sets'.bytes := by
  have exacts : sets.exacts ⊆ sets'.exacts := fun name mem => sub (.exact name) mem
  have suffixes : sets.suffixes ⊆ sets'.suffixes := fun suffix mem => sub (.wildcard suffix) mem
  exact Nat.add_le_add (Finset.sum_le_sum_of_subset exacts) (Finset.sum_le_sum_of_subset suffixes)

theorem packedBytes_mono {domains domains' : List Str} (sub : ∀ d ∈ domains, d ∈ domains') :
    packedBytes domains ≤ packedBytes domains' := by
  refine DomainSets.bytes_mono fun e mem => ?_
  obtain ⟨d, inside, rfl⟩ := mem_setsOf.mp mem
  exact entryOf_mem_setsOf.mpr (sub d inside)

/-- An arena is its holes and the entries of its sets. -/
theorem Models.arena_length {hash : Bytes → UInt64} {store : DomainStore} {sets : DomainSets}
    (models : Models hash store sets) :
    store.arena.length = store.deadBytes + sets.bytes := by
  have size := models.holds.accounted
  rw [Finset.sum_map, Finset.sum_map] at size
  simp only [utf8Embedding_apply] at size
  rw [DomainSets.bytes]
  omega

theorem Models.holdsEntry_iff {hash : Bytes → UInt64} {store : DomainStore} {sets : DomainSets}
    (models : Models hash store sets) (e : Entry) :
    store.holdsEntry hash e = true ↔ e ∈ sets := by
  cases e with
  | exact name =>
      rw [DomainStore.holdsEntry, models.holds.containsIn_exact, utf8_mem_map,
        DomainSets.exact_mem]
  | wildcard suffix =>
      rw [DomainStore.holdsEntry, models.holds.containsIn_wildcards, utf8_mem_map,
        DomainSets.wildcard_mem]

/-- Stores of the same sets hold the same entries. -/
theorem Models.sameEntries {hash : Bytes → UInt64} {store store' : DomainStore}
    {sets : DomainSets} (models : Models hash store sets) (models' : Models hash store' sets) :
    SameEntries hash store store' := fun e =>
  Bool.eq_iff_iff.mpr ((models.holdsEntry_iff e).trans (models'.holdsEntry_iff e).symm)

/-! ## Inserting canonical domains

One insertion after the other adds one entry after the other, as long as the whole list fits.  The
stores that the server loads at a start and after a refresh are of this kind. -/

section Loading

variable {u : CaseTables} {hash : Bytes → UInt64} {store : DomainStore} {sets : DomainSets}

/-- An insert leaves no hole. -/
theorem deadBytes_insert (u : CaseTables) (hash : Bytes → UInt64) (store : DomainStore)
    (domain : Str) : (store.insert u hash domain).1.deadBytes = store.deadBytes := by
  rw [insert_eq_insertNormalized]
  split
  · exact (insertNormalized_arena hash store _ false).1
  · exact (insertNormalized_arena hash store _ true).1

theorem deadBytes_insertAll (u : CaseTables) (hash : Bytes → UInt64) (domains : List Str)
    (store : DomainStore) :
    (domains.foldl (fun store domain => (store.insert u hash domain).1) store).deadBytes =
      store.deadBytes := by
  induction domains generalizing store with
  | nil => rfl
  | cons domain rest ih => exact (ih _).trans (deadBytes_insert u hash store domain)

theorem deadBytes_storeOf (u : CaseTables) (hash : Bytes → UInt64) (domains : List Str) :
    (storeOf u hash domains).deadBytes = 0 :=
  deadBytes_insertAll u hash domains .default

/-- Inserting a canonical domain adds its entry. -/
theorem Models.insert_canonical (models : Models hash store sets) (u : CaseTables)
    (bounded : store.arena.length < 2 ^ 32) {domain : Str} (canonical : Canonical domain) :
    Models hash (store.insert u hash domain).1 (sets.add (entryOf domain)) := by
  have inserted := (models.insert u bounded domain).1
  rwa [canonical.normalizeDomain, DomainSets.insert, if_pos canonical.admissible] at inserted

/-- **Inserting canonical domains that fit** adds their entries. -/
theorem Models.insertAll {domains : List Str} (canonical : ∀ d ∈ domains, Canonical d)
    (models : Models hash store sets)
    (room : store.deadBytes + (sets ∪ setsOf domains).bytes < 2 ^ 32) :
    Models hash (domains.foldl (fun store domain => (store.insert u hash domain).1) store)
      (sets ∪ setsOf domains) := by
  induction domains generalizing store sets with
  | nil =>
      have same : sets ∪ setsOf [] = sets :=
        DomainSets.ext_mem fun e => by simp [mem_setsOf]
      rw [same]
      exact models
  | cons domain rest ih =>
      have same : sets.add (entryOf domain) ∪ setsOf rest = sets ∪ setsOf (domain :: rest) := by
        refine DomainSets.ext_mem fun e => ?_
        have step : setsOf (domain :: rest) = (setsOf rest).add (entryOf domain) := rfl
        rw [step]
        simp only [DomainSets.mem_union, DomainSets.mem_add]
        tauto
      have less : sets.bytes ≤ (sets ∪ setsOf (domain :: rest)).bytes :=
        DomainSets.bytes_mono fun e mem => DomainSets.mem_union.mpr (Or.inl mem)
      have bounded : store.arena.length < 2 ^ 32 := by
        rw [models.arena_length]
        omega
      have one := models.insert_canonical u bounded (canonical domain List.mem_cons_self)
      have later := ih (fun d mem => canonical d (List.mem_cons_of_mem _ mem)) one (by
        rw [deadBytes_insert, same]
        exact room)
      rwa [same] at later

variable (u hash) in
/-- **A store built from canonical domains that fit** represents their entries, and
its arena is as long as they need. -/
theorem models_storeOf {domains : List Str} (canonical : ∀ d ∈ domains, Canonical d)
    (room : packedBytes domains < 2 ^ 32) :
    Models hash (storeOf u hash domains) (setsOf domains) ∧
      (storeOf u hash domains).arena.length = packedBytes domains := by
  have same : ∅ ∪ setsOf domains = setsOf domains :=
    DomainSets.ext_mem fun e => by simp
  have models := Models.insertAll (u := u) canonical (models_default hash) (by
    rw [same, show DomainStore.default.deadBytes = 0 from rfl, Nat.zero_add]
    exact room)
  rw [same] at models
  refine ⟨models, ?_⟩
  have size := models.arena_length
  rw [deadBytes_insertAll, show DomainStore.default.deadBytes = 0 from rfl,
    Nat.zero_add] at size
  exact size

section Table

variable {db : Db} {list : DomainList}

/-- The store the server loads at its start. -/
theorem models_loadStoreFromDb (canonical : ∀ d ∈ (db.domains list).values, Canonical d)
    (room : packedBytes (db.domains list).values < 2 ^ 32) :
    Models hash (loadStoreFromDb u hash db list) (setsOf (db.domains list).values) := by
  have same : setsOf (Str.sort (db.domains list).values) = setsOf (db.domains list).values :=
    setsOf_congr fun d => Str.mem_sort
  have loaded := models_storeOf u hash
    (fun d mem => canonical d (Str.mem_sort.mp mem))
    (by rwa [packedBytes, same])
  rw [same] at loaded
  exact loaded.1

variable (u hash) in
/-- The store a refresh or a deletion rebuilds, when no read fails. -/
theorem models_loadDomainStoreFromConn
    (canonical : ∀ d ∈ (db.domains list).values, Canonical d)
    (room : packedBytes (db.domains list).values < 2 ^ 32) (scan : Reordering Str) :
    Models hash (loadDomainStoreFromConn u hash .clear scan db list)
        (setsOf (db.domains list).values) ∧
      (loadDomainStoreFromConn u hash .clear scan db list).arena.length =
        packedBytes (db.domains list).values := by
  have whole : loadDomainStoreFromConn u hash .clear scan db list =
      storeOf u hash (scan.apply (db.domains list).values) := by
    simp [loadDomainStoreFromConn, Plan.clear]
  have same : setsOf (scan.apply (db.domains list).values) = setsOf (db.domains list).values :=
    setsOf_congr fun d => scan.mem_apply
  have loaded := models_storeOf u hash
    (fun d mem => canonical d (scan.mem_apply.mp mem))
    (by rwa [packedBytes, same])
  rwa [packedBytes, same, ← whole] at loaded

end Table

/-! ## Inserting any domains

A row of the table need not be in normal form, and may be no entry at all.  The store then has the
entries of the normalized texts that it accepts. -/

/-- The entries a store of the given domains has: those that are admissible once the
domain has been normalized. -/
def storedSets (u : CaseTables) (domains : List Str) : DomainSets :=
  domains.foldl (fun sets domain => sets.insert (entryOf (normalizeDomain u domain))) ∅

theorem mem_foldl_insert {domains : List Str} {e : Entry} :
    e ∈ domains.foldl (fun sets domain => sets.insert (entryOf (normalizeDomain u domain))) sets ↔
      e ∈ sets ∨ (e.Admissible ∧ ∃ domain ∈ domains, entryOf (normalizeDomain u domain) = e) := by
  induction domains generalizing sets with
  | nil => simp
  | cons domain rest ih =>
      rw [List.foldl_cons, ih, DomainSets.mem_insert, List.exists_mem_cons_iff]
      constructor
      · rintro ((⟨rfl, ok⟩ | old) | ⟨ok, later⟩)
        · exact Or.inr ⟨ok, Or.inl rfl⟩
        · exact Or.inl old
        · exact Or.inr ⟨ok, Or.inr later⟩
      · rintro (old | ⟨ok, rfl | later⟩)
        · exact Or.inl (Or.inr old)
        · exact Or.inl (Or.inl ⟨rfl, ok⟩)
        · exact Or.inr ⟨ok, later⟩

theorem mem_storedSets {domains : List Str} {e : Entry} :
    e ∈ storedSets u domains ↔
      e.Admissible ∧ ∃ domain ∈ domains, entryOf (normalizeDomain u domain) = e := by
  rw [storedSets, mem_foldl_insert]
  simp

/-- More domains have more entries. -/
theorem bytes_storedSets_mono {domains domains' : List Str}
    (sub : ∀ d ∈ domains, d ∈ domains') :
    (storedSets u domains).bytes ≤ (storedSets u domains').bytes := by
  refine DomainSets.bytes_mono fun e mem => ?_
  obtain ⟨ok, d, inside, named⟩ := mem_storedSets.mp mem
  exact mem_storedSets.mpr ⟨ok, d, sub d inside, named⟩

/-- Inserting domains whose entries fit adds their entries. -/
theorem Models.insertAny {domains : List Str} (models : Models hash store sets)
    (room : store.deadBytes + (domains.foldl (fun sets domain =>
      sets.insert (entryOf (normalizeDomain u domain))) sets).bytes < 2 ^ 32) :
    Models hash (domains.foldl (fun store domain => (store.insert u hash domain).1) store)
      (domains.foldl (fun sets domain => sets.insert (entryOf (normalizeDomain u domain)))
        sets) := by
  induction domains generalizing store sets with
  | nil => exact models
  | cons domain rest ih =>
      have less : sets.bytes ≤ ((domain :: rest).foldl (fun sets domain =>
          sets.insert (entryOf (normalizeDomain u domain))) sets).bytes :=
        DomainSets.bytes_mono fun e mem => mem_foldl_insert.mpr (Or.inl mem)
      have bounded : store.arena.length < 2 ^ 32 := by
        rw [models.arena_length]
        omega
      refine ih (models.insert u bounded domain).1 ?_
      rw [deadBytes_insert]
      exact room

variable (u hash) in
/-- **A store built from domains that fit** represents their entries. -/
theorem models_storeOf_storedSets {domains : List Str}
    (room : (storedSets u domains).bytes < 2 ^ 32) :
    Models hash (storeOf u hash domains) (storedSets u domains) := by
  refine (models_default hash).insertAny ?_
  rw [show DomainStore.default.deadBytes = 0 from rfl, Nat.zero_add]
  exact room

end Loading

end RustBlocker
