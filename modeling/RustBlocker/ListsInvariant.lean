import Mathlib
import RustBlocker.Lists

/-!
# The representation invariant of the domain store

`Holds hash store E W` says that the store represents the set `E` of exact entries and the set `W`
of wildcard entries (as byte strings):

* each index represents its set (`BucketIndex.Represents`), decoding an offset by reading the
  arena;
* every offset points at a whole entry of the arena that is not empty;
* the two counters are the sizes of the sets;
* the arena is the live entries and the holes: its length is `deadBytes` plus the packed size of
  every live entry.

The last clause is what bounds a rebuild: the fresh arena holds the live entries only, so it is no
longer than the arena it replaces, and a store that kept below `2 ^ 32` bytes keeps below it
across `compact`.

Every operation is specified against the pair of sets, one lemma each.

The lemmas on an operation have two premises, that the store holds the sets and that its arena is
shorter than `2 ^ 32` bytes.  The second is not part of `Holds`, because a store represents its
sets whether or not there is room for another entry; it is the caller who has to know that there
is.

An offset is read from the arena as it is now.  So an append changes, in principle, what every
offset decodes to, and `PointsAt.domainAt_append` is the lemma that says it does not: whole
entries are read the same in every later arena.  The two indexes are handled by the same code with
a flag, and the lemmas for wildcards come from those for exact names by exchanging the two
(`DomainStore.exchange`), not by proving them again.
-/

namespace RustBlocker

open BucketIndex PackedArena

/-- The bytes an entry occupies in the arena. -/
def packedSize (domain : Bytes) : Nat := 2 + domain.length

/-- A name the store accepts: not empty, and short enough for the length prefix of two bytes. -/
def Storable (domain : Bytes) : Prop := domain ≠ [] ∧ domain.length ≤ 65535

instance : DecidablePred Storable := fun domain =>
  inferInstanceAs (Decidable (domain ≠ [] ∧ domain.length ≤ 65535))

/-- The offset points at a whole non-empty entry of the arena.  The empty entry is excluded since
reading nothing also gives the empty name. -/
def PointsAt (arena : Bytes) (offset : UInt32) : Prop :=
  ∃ domain, HasEntry arena offset.toNat domain ∧ domain ≠ []

/-- **The store represents the pair of sets `(exacts, suffixes)`.**  The sets are of byte strings
here; `Models` puts texts in their place. -/
structure Holds (hash : Bytes → UInt64) (store : DomainStore)
    (exacts suffixes : Finset Bytes) : Prop where
  exact : Represents hash (domainAt store.arena) store.exact exacts
  wildcards : Represents hash (domainAt store.arena) store.wildcards suffixes
  exactPoints : ∀ o ∈ store.exact.offsets, PointsAt store.arena o
  wildcardPoints : ∀ o ∈ store.wildcards.offsets, PointsAt store.arena o
  exactCount : store.exactCount = exacts.card
  wildcardCount : store.wildcardCount = suffixes.card
  accounted : store.arena.length =
    store.deadBytes + exacts.sum packedSize + suffixes.sum packedSize

/-! ## Reading the arena -/

section Reading

variable {arena : Bytes} {offset : UInt32}

theorem PointsAt.append (points : PointsAt arena offset) (more : Bytes) :
    PointsAt (arena ++ more) offset := by
  obtain ⟨domain, has, nonempty⟩ := points
  exact ⟨domain, has.append more, nonempty⟩

/-- A pointed-at entry reads the same in every later arena. -/
theorem PointsAt.domainAt_append (points : PointsAt arena offset) (more : Bytes) :
    domainAt (arena ++ more) offset = domainAt arena offset := by
  obtain ⟨domain, has, -⟩ := points
  rw [domainAt, domainAt, has.entryAt, (has.append more).entryAt]

theorem PointsAt.storable (points : PointsAt arena offset) :
    Storable (domainAt arena offset) := by
  obtain ⟨domain, has, nonempty⟩ := points
  rw [domainAt, has.entryAt]
  exact ⟨nonempty, Nat.le_of_lt_succ has.1⟩

/-- Below `2 ^ 32` bytes the cast to `u32` keeps the offset of a new entry. -/
theorem hasEntry_pushDomain (store : DomainStore) {domain : Bytes}
    (bounded : store.arena.length < 2 ^ 32) (short : domain.length ≤ 65535) :
    HasEntry (store.pushDomain domain).1.arena (store.pushDomain domain).2.toNat
      domain := by
  have kept : (UInt32.ofNat store.arena.length).toNat = store.arena.length := by
    rw [UInt32.toNat_ofNat']
    exact Nat.mod_eq_of_lt bounded
  rw [DomainStore.pushDomain, kept]
  exact hasEntry_pack store.arena (Nat.lt_succ_of_le short)

end Reading

/-- `contains_in` is lookup in the bucket of the hash. -/
theorem containsIn_eq (arena : Bytes) (index : DomainIndex) (domain : Bytes)
    (h : UInt64) :
    containsIn arena index domain h =
      BucketIndex.contains (domainAt arena) index h domain := by
  unfold containsIn BucketIndex.contains bucket
  cases index.lookup h with
  | none => rfl
  | some offsets => rfl

/-! ## Removing from an index

A bucket is rewritten without the offset that decodes to the name.  The invariant has each name in
its bucket once, so that there is one offset to find, and the bytes that are counted as freed are
those of one entry. -/

section RemoveFromIndex

variable {hash : Bytes → UInt64} {arena : Bytes} {index : DomainIndex}
variable {domains : Finset Bytes}

/-- A name that is not stored leaves the index alone and frees nothing. -/
theorem removeFromIndex_of_notMem (rep : Represents hash (domainAt arena) index domains)
    (count : Nat) {domain : Bytes} (absent : domain ∉ domains) :
    removeFromIndex hash arena index count domain = (index, count, 0) := by
  have hit := (rep.bucket_filter domain).2 absent
  unfold removeFromIndex
  cases found : index.lookup (hash domain) with
  | none => rfl
  | some offsets =>
      rw [bucket, found, Option.getD_some] at hit
      have all : offsets.filter (fun o => !domainEq arena o domain) = offsets := by
        refine List.filter_eq_self.mpr fun o mem => ?_
        have := List.filter_eq_nil_iff.mp hit o mem
        simpa [domainEq] using this
      simp only [all, Nat.sub_self, if_true]

/-- **A stored name is removed from its bucket, counted once, and its packed
size is freed.** -/
theorem removeFromIndex_of_mem (rep : Represents hash (domainAt arena) index domains)
    (count : Nat) {domain : Bytes} (stored : domain ∈ domains)
    (short : domain.length ≤ 65535) :
    removeFromIndex hash arena index count domain =
      (index.retain (hash domain) fun o => decide (domainAt arena o ≠ domain),
        count - 1, packedSize domain) := by
  obtain ⟨o, decoded, hit⟩ := (rep.bucket_filter domain).1 stored
  unfold removeFromIndex
  cases found : index.lookup (hash domain) with
  | none =>
      rw [bucket, found, Option.getD_none] at hit
      cases hit
  | some offsets =>
      rw [bucket, found, Option.getD_some] at hit
      have hit' : offsets.filter (fun o => domainEq arena o domain) = [o] := hit
      have kept : offsets.filter (fun o => !domainEq arena o domain) =
          offsets.filter fun o => decide (domainAt arena o ≠ domain) := by
        refine List.filter_congr fun o' _ => ?_
        simp [domainEq]
      have split : offsets.length =
          (offsets.filter fun o => decide (domainAt arena o ≠ domain)).length + 1 := by
        have parts := List.length_eq_length_filter_add
          (l := offsets) (fun o => domainEq arena o domain)
        rw [hit', kept] at parts
        simpa [Nat.add_comm] using parts
      have one : offsets.length -
          (offsets.filter fun o => decide (domainAt arena o ≠ domain)).length = 1 := by
        omega
      have freed : saturatingAdd 0 (2 + (domainAt arena o).length) = packedSize domain := by
        rw [decoded, saturatingAdd, packedSize, usizeMax]
        omega
      simp only [kept, one, hit', List.foldl_cons, List.foldl_nil, freed, retain,
        bucket, found, Option.getD_some]
      rfl

end RemoveFromIndex

/-! ## The operations

One lemma for an operation: what it does to the two sets, and that the store represents them
afterwards.  The two indexes are handled alike, so each lemma about wildcards is the one about
exact names on the store with its indexes exchanged. -/

/-- The empty store represents the empty sets. -/
theorem holds_default (hash : Bytes → UInt64) : Holds hash DomainStore.default ∅ ∅ where
  exact := Represents.empty
  wildcards := Represents.empty
  exactPoints := by simp [DomainStore.default]
  wildcardPoints := by simp [DomainStore.default]
  exactCount := rfl
  wildcardCount := rfl
  accounted := by simp [DomainStore.default]

/-- The store with its two indexes exchanged. -/
def DomainStore.exchange (store : DomainStore) : DomainStore where
  arena := store.arena
  exact := store.wildcards
  wildcards := store.exact
  exactCount := store.wildcardCount
  wildcardCount := store.exactCount
  deadBytes := store.deadBytes

@[simp] theorem DomainStore.exchange_exchange (store : DomainStore) :
    store.exchange.exchange = store := rfl

/-- `insert_normalized` treats the two indexes alike. -/
theorem DomainStore.insertNormalized_exchange (hash : Bytes → UInt64)
    (store : DomainStore) (domain : Bytes) :
    store.exchange.insertNormalized hash domain false =
      ((store.insertNormalized hash domain true).1.exchange,
        (store.insertNormalized hash domain true).2) := by
  unfold DomainStore.insertNormalized
  by_cases empty : domain = []
  · simp [empty]
  by_cases long : domain.length > 65535
  · simp [empty, long]
  cases found : containsIn store.arena store.wildcards domain (hash domain) with
  | true => simp [empty, long, DomainStore.exchange, found]
  | false => simp [empty, long, DomainStore.exchange, found, DomainStore.pushDomain]

variable {hash : Bytes → UInt64} {store : DomainStore}
variable {exacts suffixes : Finset Bytes}

namespace Holds

theorem exchange (holds : Holds hash store exacts suffixes) :
    Holds hash store.exchange suffixes exacts where
  exact := holds.wildcards
  wildcards := holds.exact
  exactPoints := holds.wildcardPoints
  wildcardPoints := holds.exactPoints
  exactCount := holds.wildcardCount
  wildcardCount := holds.exactCount
  accounted := by
    rw [Nat.add_right_comm]
    exact holds.accounted

theorem storable_of_mem_exact (holds : Holds hash store exacts suffixes)
    {domain : Bytes} (mem : domain ∈ exacts) : Storable domain := by
  obtain ⟨o, inside, rfl⟩ := List.mem_map.mp ((holds.exact.mem_iff domain).mpr mem)
  exact (holds.exactPoints o inside).storable

theorem storable_of_mem_wildcards (holds : Holds hash store exacts suffixes)
    {domain : Bytes} (mem : domain ∈ suffixes) : Storable domain := by
  obtain ⟨o, inside, rfl⟩ := List.mem_map.mp ((holds.wildcards.mem_iff domain).mpr mem)
  exact (holds.wildcardPoints o inside).storable

theorem containsIn_exact (holds : Holds hash store exacts suffixes) (domain : Bytes) :
    containsIn store.arena store.exact domain (hash domain) = true ↔ domain ∈ exacts := by
  rw [containsIn_eq]
  exact holds.exact.contains_iff domain

theorem containsIn_wildcards (holds : Holds hash store exacts suffixes)
    (domain : Bytes) :
    containsIn store.arena store.wildcards domain (hash domain) = true ↔
      domain ∈ suffixes := by
  rw [containsIn_eq]
  exact holds.wildcards.contains_iff domain

/-- Appending bytes to the arena disturbs neither index. -/
theorem append (holds : Holds hash store exacts suffixes) (more : Bytes) :
    Represents hash (domainAt (store.arena ++ more)) store.exact exacts ∧
      Represents hash (domainAt (store.arena ++ more)) store.wildcards suffixes :=
  ⟨holds.exact.congr fun o mem => (holds.exactPoints o mem).domainAt_append more,
    holds.wildcards.congr fun o mem => (holds.wildcardPoints o mem).domainAt_append more⟩

/-- **`insert_normalized` of an exact name** adds it when it is storable, and
reports whether it was new. -/
theorem insertNormalized_exact (holds : Holds hash store exacts suffixes)
    (bounded : store.arena.length < 2 ^ 32) (domain : Bytes) :
    Holds hash (store.insertNormalized hash domain false).1
        (if Storable domain then insert domain exacts else exacts) suffixes ∧
      ((store.insertNormalized hash domain false).2 = true ↔
        Storable domain ∧ domain ∉ exacts) := by
  by_cases storable : Storable domain
  · have present := holds.containsIn_exact domain
    by_cases mem : domain ∈ exacts
    · have same : store.insertNormalized hash domain false = (store, false) := by
        simp [DomainStore.insertNormalized, present.mpr mem]
      rw [same, if_pos storable, Finset.insert_eq_of_mem mem]
      exact ⟨holds, by simp [mem]⟩
    · have entry := hasEntry_pushDomain store bounded storable.2
      have points : PointsAt (store.pushDomain domain).1.arena
          (store.pushDomain domain).2 := ⟨domain, entry, storable.1⟩
      have decoded : domainAt (store.pushDomain domain).1.arena
          (store.pushDomain domain).2 = domain := entry.entryAt
      obtain ⟨exact, wildcards⟩ := holds.append (pack domain)
      have added : store.insertNormalized hash domain false =
          ({ (store.pushDomain domain).1 with
              exact := store.exact.push (hash domain) (store.pushDomain domain).2
              exactCount := store.exactCount + 1 }, true) := by
        have absent : containsIn store.arena store.exact domain (hash domain) = false :=
          Bool.eq_false_iff.mpr fun found => mem (present.mp found)
        simp [DomainStore.insertNormalized, absent, storable.1,
          Nat.not_lt.mpr storable.2, DomainStore.pushDomain]
      rw [added, if_pos storable]
      refine ⟨⟨?_, wildcards, ?_, ?_, ?_, holds.wildcardCount, ?_⟩, by simp [storable, mem]⟩
      · have pushed := exact.push (o := (store.pushDomain domain).2)
          (by rw [show domainAt (store.arena ++ pack domain) (store.pushDomain domain).2 =
            domain from decoded]; exact mem)
        rwa [show domainAt (store.arena ++ pack domain) (store.pushDomain domain).2 =
          domain from decoded] at pushed
      · intro o inside
        rcases List.mem_cons.mp ((offsets_push _ _ _).mem_iff.mp inside) with rfl | old
        · exact points
        · exact (holds.exactPoints o old).append _
      · intro o inside
        exact (holds.wildcardPoints o inside).append _
      · rw [Finset.card_insert_of_notMem mem, holds.exactCount]
      · have size := holds.accounted
        have grown : (insert domain exacts).sum packedSize =
            packedSize domain + exacts.sum packedSize := Finset.sum_insert mem
        have new : packedSize domain = 2 + domain.length := rfl
        simp only [DomainStore.pushDomain, List.length_append, length_pack]
        omega
  · have same : store.insertNormalized hash domain false = (store, false) := by
      unfold DomainStore.insertNormalized
      split
      · rfl
      next nonempty =>
        rw [if_pos (Nat.lt_of_not_le fun short => storable ⟨nonempty, short⟩)]
    rw [same, if_neg storable]
    exact ⟨holds, by simp [storable]⟩

/-- **`insert_normalized` of a wildcard suffix**: the two indexes are handled
alike, so this is the exact case of the store with its indexes exchanged. -/
theorem insertNormalized_wildcard (holds : Holds hash store exacts suffixes)
    (bounded : store.arena.length < 2 ^ 32) (domain : Bytes) :
    Holds hash (store.insertNormalized hash domain true).1
        exacts (if Storable domain then insert domain suffixes else suffixes) ∧
      ((store.insertNormalized hash domain true).2 = true ↔
        Storable domain ∧ domain ∉ suffixes) := by
  have mirrored := holds.exchange.insertNormalized_exact bounded domain
  rw [DomainStore.insertNormalized_exchange] at mirrored
  exact ⟨by simpa using mirrored.1.exchange, mirrored.2⟩

end Holds

/-! ### Inserting the entries of another arena

A merge reads the entries of the other store out of its arena, in whatever order a hash map gives
them, and so does a rebuild, which reads the store itself.  What counts is that every entry is
read once. -/

/-- An insertion leaves the store alone or packs one entry at its end. -/
theorem insertNormalized_arena (hash : Bytes → UInt64) (store : DomainStore)
    (domain : Bytes) (wildcard : Bool) :
    (store.insertNormalized hash domain wildcard).1.deadBytes = store.deadBytes ∧
      ((store.insertNormalized hash domain wildcard).1.arena = store.arena ∨
        (store.insertNormalized hash domain wildcard).1.arena =
          store.arena ++ pack domain) := by
  unfold DomainStore.insertNormalized
  by_cases empty : domain = []
  · simp [empty]
  by_cases long : domain.length > 65535
  · simp [empty, long]
  cases wildcard with
  | false =>
      cases found : containsIn store.arena store.exact domain (hash domain) <;>
        simp [empty, long, found, DomainStore.pushDomain]
  | true =>
      cases found : containsIn store.arena store.wildcards domain (hash domain) <;>
        simp [empty, long, found, DomainStore.pushDomain]

theorem length_insertNormalized (hash : Bytes → UInt64) (store : DomainStore)
    (domain : Bytes) (wildcard : Bool) :
    store.arena.length ≤ (store.insertNormalized hash domain wildcard).1.arena.length ∧
      (store.insertNormalized hash domain wildcard).1.arena.length ≤
        store.arena.length + packedSize domain := by
  rcases (insertNormalized_arena hash store domain wildcard).2 with same | packed
  · simp [same]
  · simp [packed, packedSize]

theorem length_insertOffsets (hash : Bytes → UInt64) (arena : Bytes) (wildcard : Bool) :
    ∀ (offsets : List UInt32) (store : DomainStore),
      store.arena.length ≤
          (store.insertOffsets hash arena offsets wildcard).arena.length ∧
        (store.insertOffsets hash arena offsets wildcard).arena.length ≤
          store.arena.length +
            ((offsets.map (domainAt arena)).map packedSize).sum := by
  intro offsets
  induction offsets with
  | nil =>
      intro store
      simp [DomainStore.insertOffsets]
  | cons o rest ih =>
      intro store
      have one := length_insertNormalized hash store (domainAt arena o) wildcard
      have later := ih (store.insertNormalized hash (domainAt arena o) wildcard).1
      simp only [DomainStore.insertOffsets, List.foldl_cons, List.map_cons,
        List.sum_cons] at later ⊢
      omega

theorem deadBytes_insertOffsets (hash : Bytes → UInt64) (arena : Bytes)
    (wildcard : Bool) :
    ∀ (offsets : List UInt32) (store : DomainStore),
      (store.insertOffsets hash arena offsets wildcard).deadBytes = store.deadBytes := by
  intro offsets
  induction offsets with
  | nil =>
      intro store
      rfl
  | cons o rest ih =>
      intro store
      exact (ih _).trans (insertNormalized_arena hash store _ wildcard).1

theorem DomainStore.insertOffsets_exchange (hash : Bytes → UInt64) (arena : Bytes)
    (offsets : List UInt32) (store : DomainStore) :
    store.exchange.insertOffsets hash arena offsets false =
      (store.insertOffsets hash arena offsets true).exchange := by
  induction offsets generalizing store with
  | nil => rfl
  | cons o rest ih =>
      simp only [DomainStore.insertOffsets, List.foldl_cons,
        DomainStore.insertNormalized_exchange] at ih ⊢
      exact ih _

namespace Holds

/-- Inserting the entries at some offsets adds their names. -/
theorem insertOffsets_exact {arena : Bytes} :
    ∀ {offsets : List UInt32} {store : DomainStore} {exacts : Finset Bytes},
      Holds hash store exacts suffixes →
      (∀ o ∈ offsets, Storable (domainAt arena o)) →
      (store.insertOffsets hash arena offsets false).arena.length < 2 ^ 32 →
      Holds hash (store.insertOffsets hash arena offsets false)
        (exacts ∪ (offsets.map (domainAt arena)).toFinset) suffixes := by
  intro offsets
  induction offsets with
  | nil =>
      intro store exacts holds _ _
      simpa [DomainStore.insertOffsets] using holds
  | cons o rest ih =>
      intro store exacts holds storable bounded
      have grows := (length_insertOffsets hash arena false (o :: rest) store).1
      have one := (holds.insertNormalized_exact (Nat.lt_of_le_of_lt grows bounded)
        (domainAt arena o)).1
      rw [if_pos (storable o List.mem_cons_self)] at one
      have more := ih one (fun o' mem => storable o' (List.mem_cons_of_mem _ mem)) bounded
      rwa [List.map_cons, List.toFinset_cons, Finset.union_insert,
        ← Finset.insert_union]

theorem insertOffsets_wildcard {arena : Bytes} {offsets : List UInt32}
    (holds : Holds hash store exacts suffixes)
    (storable : ∀ o ∈ offsets, Storable (domainAt arena o))
    (bounded : (store.insertOffsets hash arena offsets true).arena.length < 2 ^ 32) :
    Holds hash (store.insertOffsets hash arena offsets true) exacts
      (suffixes ∪ (offsets.map (domainAt arena)).toFinset) := by
  have mirrored := holds.exchange.insertOffsets_exact storable (by
    rw [DomainStore.insertOffsets_exchange]
    exact bounded)
  rw [DomainStore.insertOffsets_exchange] at mirrored
  simpa using mirrored.exchange

end Holds

/-- Iteration in any order visits the offsets of the index. -/
theorem valuesInOrder_perm (order : BucketOrder) (index : DomainIndex) :
    (valuesInOrder order index).Perm index.offsets := by
  rw [valuesInOrder, offsets, List.flatMap_def]
  exact (order.perm _).flatten

/-- The names read in iteration order are those of the set. -/
theorem toFinset_valuesInOrder {arena : Bytes} {index : DomainIndex}
    {domains : Finset Bytes} (rep : Represents hash (domainAt arena) index domains)
    (order : BucketOrder) :
    ((valuesInOrder order index).map (domainAt arena)).toFinset = domains := by
  rw [List.toFinset_eq_of_perm _ _ ((valuesInOrder_perm order index).map _)]
  exact rep.toFinset

/-- The packed size of the entries read in iteration order. -/
theorem sum_valuesInOrder {arena : Bytes} {index : DomainIndex}
    {domains : Finset Bytes} (rep : Represents hash (domainAt arena) index domains)
    (order : BucketOrder) :
    (((valuesInOrder order index).map (domainAt arena)).map packedSize).sum =
      domains.sum packedSize := by
  have listing := ((valuesInOrder_perm order index).map (domainAt arena)).trans rep.map_perm
  rw [(listing.map packedSize).sum_eq, Finset.sum_map_toList]

namespace Holds

/-- **`merge` is union**, in every iteration order. -/
theorem merge {other : DomainStore} {exacts' suffixes' : Finset Bytes}
    (holds : Holds hash store exacts suffixes)
    (holds' : Holds hash other exacts' suffixes') (order : BucketOrder)
    (bounded : (store.merge hash other order).arena.length < 2 ^ 32) :
    Holds hash (store.merge hash other order) (exacts ∪ exacts')
      (suffixes ∪ suffixes') := by
  have grows := (length_insertOffsets hash other.arena true
    (valuesInOrder order other.wildcards)
    (store.insertOffsets hash other.arena (valuesInOrder order other.exact) false)).1
  have exactStorable : ∀ o ∈ valuesInOrder order other.exact,
      Storable (domainAt other.arena o) := fun o mem =>
    (holds'.exactPoints o ((valuesInOrder_perm order _).mem_iff.mp mem)).storable
  have wildcardStorable : ∀ o ∈ valuesInOrder order other.wildcards,
      Storable (domainAt other.arena o) := fun o mem =>
    (holds'.wildcardPoints o ((valuesInOrder_perm order _).mem_iff.mp mem)).storable
  have first := holds.insertOffsets_exact exactStorable (Nat.lt_of_le_of_lt grows bounded)
  rw [toFinset_valuesInOrder holds'.exact] at first
  have second := first.insertOffsets_wildcard wildcardStorable bounded
  rwa [toFinset_valuesInOrder holds'.wildcards] at second

theorem isEmpty_iff (holds : Holds hash store exacts suffixes) :
    store.isEmpty = true ↔ exacts = ∅ ∧ suffixes = ∅ := by
  rw [DomainStore.isEmpty, DomainStore.len, holds.exactCount, holds.wildcardCount]
  simp

/-- **`compact` keeps the sets**, closes every hole, and does not lengthen the
arena. -/
theorem compact (holds : Holds hash store exacts suffixes) (order : BucketOrder)
    (bounded : store.arena.length < 2 ^ 32) :
    Holds hash (store.compact hash order) exacts suffixes ∧
      (store.compact hash order).deadBytes = 0 ∧
      (store.compact hash order).arena.length ≤ store.arena.length := by
  unfold DomainStore.compact
  split
  next empty =>
    obtain ⟨rfl, rfl⟩ := holds.isEmpty_iff.mp empty
    refine ⟨⟨Represents.empty, Represents.empty, ?_, ?_, holds.exactCount,
      holds.wildcardCount, ?_⟩, rfl, Nat.zero_le _⟩ <;> simp
  next =>
    have upper := (length_insertOffsets hash store.arena true
      (valuesInOrder order store.wildcards)
      (DomainStore.default.insertOffsets hash store.arena
        (valuesInOrder order store.exact) false)).2
    have upper' := (length_insertOffsets hash store.arena false
      (valuesInOrder order store.exact) DomainStore.default).2
    rw [sum_valuesInOrder holds.wildcards] at upper
    rw [sum_valuesInOrder holds.exact] at upper'
    have size := holds.accounted
    have shorter : (DomainStore.default.merge hash store order).arena.length ≤
        store.arena.length := by
      have start : DomainStore.default.arena.length = 0 := rfl
      rw [DomainStore.merge]
      omega
    have merged := (holds_default hash).merge holds order
      (Nat.lt_of_le_of_lt shorter bounded)
    rw [Finset.empty_union, Finset.empty_union] at merged
    refine ⟨merged, ?_, shorter⟩
    rw [DomainStore.merge, deadBytes_insertOffsets, deadBytes_insertOffsets]
    rfl

theorem maybeCompact (holds : Holds hash store exacts suffixes) (order : BucketOrder)
    (bounded : store.arena.length < 2 ^ 32) :
    Holds hash (store.maybeCompact hash order) exacts suffixes ∧
      (store.maybeCompact hash order).arena.length ≤ store.arena.length := by
  have compacted := holds.compact order bounded
  unfold DomainStore.maybeCompact
  split
  · exact ⟨compacted.1, compacted.2.2⟩
  split
  · exact ⟨compacted.1, compacted.2.2⟩
  · exact ⟨holds, Nat.le_refl _⟩

/-! ### Removing

A removal leaves a hole, counts it, and may rebuild the arena.  The counter saturates in the code;
the invariant bounds it by the length of the arena, so that it never does. -/

/-- Dropping a stored exact name and counting its bytes as dead. -/
theorem dropExact (holds : Holds hash store exacts suffixes) {domain : Bytes}
    (stored : domain ∈ exacts) :
    Holds hash
      { store with
        exact := store.exact.retain (hash domain)
          fun o => decide (domainAt store.arena o ≠ domain)
        exactCount := store.exactCount - 1
        deadBytes := store.deadBytes + packedSize domain }
      (exacts.erase domain) suffixes where
  exact := holds.exact.retain domain
  wildcards := holds.wildcards
  exactPoints := by
    intro o mem
    have kept := (holds.exact.filter_offsets domain).mem_iff.mp mem
    exact holds.exactPoints o (List.mem_filter.mp kept).1
  wildcardPoints := holds.wildcardPoints
  exactCount := by
    rw [Finset.card_erase_of_mem stored, ← holds.exactCount]
  wildcardCount := holds.wildcardCount
  accounted := by
    have size := holds.accounted
    have parts : (exacts.erase domain).sum packedSize + packedSize domain =
        exacts.sum packedSize := Finset.sum_erase_add exacts packedSize stored
    simp only
    omega

/-- The dead bytes never reach the saturation point of the counter. -/
theorem saturatingAdd_deadBytes (holds : Holds hash store exacts suffixes)
    (bounded : store.arena.length < 2 ^ 32) {domain : Bytes}
    (stored : domain ∈ exacts ∨ domain ∈ suffixes) :
    saturatingAdd store.deadBytes (packedSize domain) =
      store.deadBytes + packedSize domain := by
  have size := holds.accounted
  have part : packedSize domain ≤ exacts.sum packedSize + suffixes.sum packedSize := by
    rcases stored with mem | mem
    · have : packedSize domain ≤ exacts.sum packedSize :=
        Finset.single_le_sum_of_canonicallyOrdered mem
      omega
    · have : packedSize domain ≤ suffixes.sum packedSize :=
        Finset.single_le_sum_of_canonicallyOrdered mem
      omega
  rw [saturatingAdd, usizeMax]
  omega

theorem packedSize_pos (domain : Bytes) : 0 < packedSize domain := by
  rw [packedSize]
  omega

/-- **Removing an exact name** removes it from the exact entries, whether or not
the removal triggers a rebuild, and does not lengthen the arena. -/
theorem remove_exact (holds : Holds hash store exacts suffixes)
    (bounded : store.arena.length < 2 ^ 32) (u : CaseTables) (order : BucketOrder)
    {domain : Str}
    (unstarred : Str.stripPrefix "*.".toList (normalizeDomain u domain) = none) :
    Holds hash (store.remove u hash domain order)
        (exacts.erase (normalizeDomain u domain).utf8) suffixes ∧
      (store.remove u hash domain order).arena.length ≤ store.arena.length := by
  by_cases stored : (normalizeDomain u domain).utf8 ∈ exacts
  · have dropped := removeFromIndex_of_mem holds.exact store.exactCount stored
      (holds.storable_of_mem_exact stored).2
    have size := packedSize_pos (normalizeDomain u domain).utf8
    have freed : saturatingAdd 0 (packedSize (normalizeDomain u domain).utf8) =
        packedSize (normalizeDomain u domain).utf8 := by
      have short := (holds.storable_of_mem_exact stored).2
      rw [saturatingAdd, usizeMax, packedSize]
      omega
    simp only [DomainStore.remove, unstarred, dropped, freed, gt_iff_lt, size, if_true,
      holds.saturatingAdd_deadBytes bounded (Or.inl stored)]
    exact (holds.dropExact stored).maybeCompact order bounded
  · have nothing : saturatingAdd 0 0 = 0 := rfl
    simp only [DomainStore.remove, unstarred, nothing,
      removeFromIndex_of_notMem holds.exact store.exactCount stored, gt_iff_lt,
      Nat.lt_irrefl, if_false, Finset.erase_eq_of_notMem stored]
    exact ⟨holds, Nat.le_refl _⟩

/-- **Removing `*.x`** removes the suffix `x` from the wildcard entries.  The
code then looks the whole text up among the exact names, where no text that
starts with `*.` ever stands. -/
theorem remove_wildcard (holds : Holds hash store exacts suffixes)
    (bounded : store.arena.length < 2 ^ 32) (u : CaseTables) (order : BucketOrder)
    {domain suffix : Str}
    (starred : Str.stripPrefix "*.".toList (normalizeDomain u domain) = some suffix)
    (plain : (normalizeDomain u domain).utf8 ∉ exacts) :
    Holds hash (store.remove u hash domain order) exacts (suffixes.erase suffix.utf8) ∧
      (store.remove u hash domain order).arena.length ≤ store.arena.length := by
  have untouched := removeFromIndex_of_notMem holds.exact store.exactCount plain
  by_cases stored : suffix.utf8 ∈ suffixes
  · have dropped := removeFromIndex_of_mem holds.wildcards store.wildcardCount stored
      (holds.storable_of_mem_wildcards stored).2
    have size := packedSize_pos suffix.utf8
    have freed : saturatingAdd (saturatingAdd 0 (packedSize suffix.utf8)) 0 =
        packedSize suffix.utf8 := by
      have short := (holds.storable_of_mem_wildcards stored).2
      simp only [saturatingAdd, usizeMax, packedSize]
      omega
    simp only [DomainStore.remove, starred, dropped, untouched, freed, gt_iff_lt, size,
      if_true, holds.saturatingAdd_deadBytes bounded (Or.inr stored)]
    exact (holds.exchange.dropExact stored).exchange.maybeCompact order bounded
  · have nothing : saturatingAdd (saturatingAdd 0 0) 0 = 0 := rfl
    simp only [DomainStore.remove, starred, untouched, nothing,
      removeFromIndex_of_notMem holds.wildcards store.wildcardCount stored, gt_iff_lt,
      Nat.lt_irrefl, if_false, Finset.erase_eq_of_notMem stored]
    exact ⟨holds, Nat.le_refl _⟩

end Holds

end RustBlocker
