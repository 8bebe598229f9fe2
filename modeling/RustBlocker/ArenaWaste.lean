import RustBlocker.ListLoading

/-!
# The waste of an arena

A remove leaves the bytes of its entry in the arena and counts them in `dead_bytes`; the arena is
rebuilt when they exceed a quarter of it.

* **The account**: what is not dead is the live entries, each with its length prefix.
* **The bound**: a quarter, so that an arena is never longer than four thirds of what lives in it,
  whatever was done to the store before.

Of an operation the bound needs two things only: it adds no dead bytes, or it asks
`maybe_compact`.

The account is not about the counter alone.  It says that the counter is exact: every byte of the
arena belongs to an entry that some offset points at, or is counted as dead, and none is both.  A
counter that forgot an entry would keep the arena growing for ever, and one that counted too much
would rebuild too often; neither would be seen in what the store answers.

The bound holds after each operation and not in the middle of one.  It carries the same condition
as the rest of what is said about stores, that no arena has reached `2 ^ 32` bytes.
-/

namespace RustBlocker

open BucketIndex PackedArena

/-! ## What lives -/

namespace DomainStore

/-- The offsets of the live entries. -/
def liveOffsets (store : DomainStore) : List UInt32 :=
  store.exact.offsets ++ store.wildcards.offsets

/-- The bytes of the live entries, each with its length prefix, as an observer of the store would
count them. -/
def liveBytes (store : DomainStore) : Nat :=
  (store.liveOffsets.map fun offset => 2 + (domainAt store.arena offset).length).sum

end DomainStore

/-- The bytes of the live entries are those of the two sets. -/
theorem Holds.liveBytes {hash : Bytes → UInt64} {store : DomainStore}
    {exacts suffixes : Finset Bytes} (holds : Holds hash store exacts suffixes) :
    store.liveBytes = exacts.sum packedSize + suffixes.sum packedSize := by
  have each : ∀ {index : DomainIndex} {names : Finset Bytes},
      Represents hash (domainAt store.arena) index names →
        (index.offsets.map fun offset => 2 + (domainAt store.arena offset).length).sum =
          names.sum packedSize := by
    intro index names rep
    have listing := (rep.map_perm.map packedSize).sum_eq
    rw [Finset.sum_map_toList, List.map_map] at listing
    exact listing
  rw [DomainStore.liveBytes, DomainStore.liveOffsets, List.map_append, List.sum_append,
    each holds.exact, each holds.wildcards]

/-! ## A quarter at most

Operations that append to the arena make the share of the holes smaller, and those that leave
holes end in `maybe_compact`.  The bound therefore never waits for a later operation. -/

/-- At most a quarter of the arena is dead; this is the bound that `maybe_compact` keeps. -/
def AtMostQuarter (store : DomainStore) : Prop := 4 * store.deadBytes ≤ store.arena.length

section Operations

variable {hash : Bytes → UInt64} {store : DomainStore}

/-- An operation that only packs entries at the end keeps the bound. -/
theorem AtMostQuarter.packed {other : DomainStore} (quarter : AtMostQuarter store)
    (dead : other.deadBytes = store.deadBytes)
    (grown : store.arena.length ≤ other.arena.length) : AtMostQuarter other := by
  unfold AtMostQuarter at quarter ⊢
  omega

theorem AtMostQuarter.insert (quarter : AtMostQuarter store) (u : CaseTables) (domain : Str) :
    AtMostQuarter (store.insert u hash domain).1 := by
  refine quarter.packed (deadBytes_insert u hash store domain) ?_
  rw [insert_eq_insertNormalized]
  cases entryOf (normalizeDomain u domain) with
  | exact name => exact (length_insertNormalized hash store name.utf8 false).1
  | wildcard suffix => exact (length_insertNormalized hash store suffix.utf8 true).1

theorem deadBytes_merge (store other : DomainStore) (order : BucketOrder) :
    (store.merge hash other order).deadBytes = store.deadBytes := by
  rw [DomainStore.merge, deadBytes_insertOffsets, deadBytes_insertOffsets]

theorem AtMostQuarter.merge (quarter : AtMostQuarter store) (other : DomainStore)
    (order : BucketOrder) : AtMostQuarter (store.merge hash other order) := by
  refine quarter.packed (deadBytes_merge store other order) ?_
  exact (length_insertOffsets hash other.arena false _ store).1.trans
    (length_insertOffsets hash other.arena true _ _).1

/-- A rebuild leaves nothing dead. -/
theorem deadBytes_compact (store : DomainStore) (order : BucketOrder) :
    (store.compact hash order).deadBytes = 0 := by
  unfold DomainStore.compact
  split
  · rfl
  · exact deadBytes_merge .default store order

/-- **`maybe_compact`** leaves at most a quarter dead, whatever it finds. -/
theorem atMostQuarter_maybeCompact (bounded : store.arena.length < 2 ^ 32) (order : BucketOrder) :
    AtMostQuarter (store.maybeCompact hash order) := by
  have rebuilt : AtMostQuarter (store.compact hash order) := by
    unfold AtMostQuarter
    rw [deadBytes_compact]
    exact Nat.zero_le _
  unfold DomainStore.maybeCompact
  split
  · exact rebuilt
  split
  · exact rebuilt
  next few =>
    -- the product saturates far beyond the length of the arena
    unfold AtMostQuarter
    simp only [saturatingMul, usizeMax] at few
    omega

/-- **A remove** that finds nothing changes neither count, and one that finds an entry asks
`maybe_compact`. -/
theorem AtMostQuarter.remove (quarter : AtMostQuarter store)
    (bounded : store.arena.length < 2 ^ 32) (u : CaseTables) (order : BucketOrder)
    (domain : Str) : AtMostQuarter (store.remove u hash domain order) := by
  -- what the two indexes freed decides which case it is, and neither needs to know it
  have either : ∀ (freed : Nat) (trimmed holed : DomainStore), trimmed.arena = store.arena →
      trimmed.deadBytes = store.deadBytes → holed.arena = store.arena →
      AtMostQuarter (if freed > 0 then holed.maybeCompact hash order else trimmed) := by
    intro freed trimmed holed arena dead arena'
    split
    · refine atMostQuarter_maybeCompact ?_ order
      rw [arena']
      exact bounded
    · exact quarter.packed dead (le_of_eq (congrArg List.length arena).symm)
  exact either _ _ _ rfl rfl rfl

end Operations

/-! ## Whole histories

The account, the bound and the emptiness of a rebuilt store are put together for every history. -/

/-- **The waste is accounted for and bounded**, in the three ways a user may ask about it. -/
structure Thrifty (store : DomainStore) : Prop where
  accounted : store.arena.length = store.deadBytes + store.liveBytes
  quarter : 4 * store.deadBytes ≤ store.arena.length
  /-- An empty store has an empty arena. -/
  emptied : store.isEmpty = true → store.arena = []
  /-- The arena is at most four thirds of what lives in it. -/
  payload : 3 * store.arena.length ≤ 4 * store.liveBytes

namespace History

variable {u : CaseTables} {hash : Bytes → UInt64}

theorem atMostQuarter {h : History} (bounded : h.Bounded u hash) :
    AtMostQuarter (h.store u hash) := by
  induction h with
  | fresh => exact Nat.zero_le _
  | insert before domain ih => exact (ih bounded.1).insert u domain
  | remove before domain order ih =>
      exact (ih bounded.1).remove bounded.1.arena_length u order domain
  | merge before other order ih _ => exact (ih bounded.1).merge _ order
  | replaceWith before other _ ih => exact ih bounded.2
  | clear before _ => exact Nat.zero_le _

/-- **In every store that was made by inserts, removes, merges, replacements and clears** the
waste is accounted for and bounded. -/
theorem thrifty (u : CaseTables) (hash : Bytes → UInt64) (h : History)
    (bounded : h.Bounded u hash) : Thrifty (h.store u hash) := by
  have holds := (models bounded).holds
  have quarter : 4 * (h.store u hash).deadBytes ≤ (h.store u hash).arena.length :=
    atMostQuarter bounded
  have accounted : (h.store u hash).arena.length =
      (h.store u hash).deadBytes + (h.store u hash).liveBytes := by
    rw [holds.liveBytes, holds.accounted, Nat.add_assoc]
  refine ⟨accounted, quarter, fun empty => ?_, by omega⟩
  have nothing : (h.store u hash).liveBytes = 0 := by
    obtain ⟨exacts, suffixes⟩ := holds.isEmpty_iff.mp empty
    rw [holds.liveBytes, exacts, suffixes]
    rfl
  exact List.eq_nil_of_length_eq_zero (by omega)

/-- The longer one of two names is removed, and the arena is rebuilt for the other. -/
theorem thrifty_rebuilt :
    let h : History := .remove (.insert (.insert .fresh "ads.example".toList) "ads".toList)
      "ads.example".toList (.id _)
    (h.store .ascii fun _ => 0).arena.length = 5 ∧ Thrifty (h.store .ascii fun _ => 0) := by
  intro h
  have bounded : h.Bounded .ascii fun _ => 0 :=
    ⟨⟨⟨trivial, by decide +kernel⟩, by decide +kernel⟩, by decide +kernel⟩
  exact ⟨by decide +kernel, thrifty .ascii (fun _ => 0) h bounded⟩

end History

end RustBlocker
