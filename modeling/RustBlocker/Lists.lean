import RustBlocker.Library.BucketIndex
import RustBlocker.Text

/-!
# The compact domain store

The store keeps its names length-prefixed in one byte arena and finds them through two hash
indexes, one of exact names and one of wildcard suffixes (`*.example.com` is stored as
`example.com`).  A remove drops the index entry at once and leaves a hole in the arena, counted in
`deadBytes`; the arena is rebuilt when the store becomes empty or the holes exceed a quarter of
it.

Two things the code leaves open are parameters here.  `hash` stands for `domain_hash`, and every
`HashMap::values` iteration runs in the order a `Reordering` of the buckets gives.  Offsets are
`u32`: `pushDomain` truncates the arena length exactly as the cast `as u32` does.

## What the model keeps

The operations follow the source branch by branch, including what looks like an accident.  The
counts are kept apart from the indexes and are not recomputed; they saturate where the code
saturates and wrap nowhere, because they are compared with a quarter of the arena in `usize`
arithmetic.  `merge` inserts what it reads from the other arena without normalizing it again, and
`compact` is a merge of the store into an empty one, by which its counts are made anew.  That a
`u32` may be too small for an offset is not excluded by a hypothesis here: it is in the model, and
the results that need it say that the arena is small enough.

Iteration order matters in two places, the entries of another store in a merge and the entries of
the store itself in a compaction.  It decides where an entry lies, and nothing that is observed
depends on that; but this is a theorem about the store and not a simplification of it.
-/

namespace RustBlocker

/-- `usize::MAX` on a 64-bit target. -/
def usizeMax : Nat := 2 ^ 64 - 1

/-- `usize::saturating_add`. -/
def saturatingAdd (a b : Nat) : Nat := min (a + b) usizeMax

/-- `usize::saturating_mul`. -/
def saturatingMul (a b : Nat) : Nat := min (a * b) usizeMax

/-- `normalize_domain`: lowercase, strip one trailing dot. -/
def normalizeDomain (u : CaseTables) (domain : Str) : Str :=
  let d := u.toLowercase domain
  if d.getLast? = some '.' then d.dropLast else d

/-- An index of the store: hash to arena offsets. -/
abbrev DomainIndex := BucketIndex UInt64 UInt32

/-- `DomainStore`.  The two counts are kept by the operations, as in the source, and it is part of
the invariant that they are the numbers of entries. -/
structure DomainStore where
  /-- Packed entries: `[u16 LE length][domain bytes]...` -/
  arena : Bytes := []
  /-- hash(domain) to arena offsets of exact-match domains -/
  exact : DomainIndex := ∅
  /-- hash(suffix) to arena offsets of wildcard suffixes -/
  wildcards : DomainIndex := ∅
  exactCount : Nat := 0
  wildcardCount : Nat := 0
  /-- Bytes left unreachable in `arena` after removes. -/
  deadBytes : Nat := 0

/-- The order in which a hash map's buckets are iterated. -/
abbrev BucketOrder := Reordering (List UInt32)

/-- `HashMap::values`, flattened: the offsets of an index in iteration order. -/
def valuesInOrder (order : BucketOrder) (index : DomainIndex) : List UInt32 :=
  (order.apply (index.entries.map fun entry => entry.2)).flatten

/-- `domain_at`: the bytes of the entry at an offset, empty where the arena has no whole entry
there.  The slices are checked ones, so that no offset is out of bounds. -/
def domainAt (arena : Bytes) (offset : UInt32) : Bytes :=
  PackedArena.entryAt arena offset.toNat

/-- `domain_eq`: the bytes at the offset are those of the domain.  Names with one hash are told
apart here. -/
def domainEq (arena : Bytes) (offset : UInt32) (domain : Bytes) : Bool :=
  domainAt arena offset = domain

/-- `contains_in`: some offset in the bucket of the hash has the bytes. -/
def containsIn (arena : Bytes) (index : DomainIndex) (domain : Bytes)
    (hash : UInt64) : Bool :=
  match index.lookup hash with
  | none => false
  | some offsets => offsets.any fun offset => domainEq arena offset domain

/-- `remove_from_index`: the index and the count without `domain`, and the bytes
its entries occupied. -/
def removeFromIndex (hash : Bytes → UInt64) (arena : Bytes) (index : DomainIndex)
    (count : Nat) (domain : Bytes) : DomainIndex × Nat × Nat :=
  match index.lookup (hash domain) with
  | none => (index, count, 0)
  | some offsets =>
      let kept := offsets.filter fun offset => !domainEq arena offset domain
      let freed := (offsets.filter fun offset => domainEq arena offset domain).foldl
        (fun freed offset => saturatingAdd freed (2 + (domainAt arena offset).length)) 0
      let removed := offsets.length - kept.length
      if removed = 0 then (index, count, 0)
      else
        (if kept = [] then index.erase (hash domain)
          else index.insert (hash domain) kept,
          count - removed, freed)

namespace DomainStore

/-- `DomainStore::default`. -/
def default : DomainStore := {}

variable (u : CaseTables) (hash : Bytes → UInt64)

/-- `exact_len`. -/
def exactLen (store : DomainStore) : Nat := store.exactCount

/-- `wildcard_len`. -/
def wildcardLen (store : DomainStore) : Nat := store.wildcardCount

/-- `len`. -/
def len (store : DomainStore) : Nat := store.exactCount + store.wildcardCount

/-- `is_empty`. -/
def isEmpty (store : DomainStore) : Bool := store.len == 0

/-- `clear`.  The arena goes too, so that there are no holes in a cleared store. -/
def clear (_store : DomainStore) : DomainStore := {}

/-- `push_domain`: append an entry; the offset is the arena length as a `u32`. -/
def pushDomain (store : DomainStore) (domain : Bytes) : DomainStore × UInt32 :=
  ({ store with arena := store.arena ++ PackedArena.pack domain },
    UInt32.ofNat store.arena.length)

/-- `insert_normalized`. -/
def insertNormalized (store : DomainStore) (domain : Bytes) (wildcard : Bool) :
    DomainStore × Bool :=
  if domain = [] then (store, false)
  -- `u16::MAX`: a longer name has no length prefix
  else if domain.length > 65535 then (store, false)
  else
    let h := hash domain
    let present :=
      if wildcard then containsIn store.arena store.wildcards domain h
      else containsIn store.arena store.exact domain h
    if present then (store, false)
    else
      let (pushed, offset) := store.pushDomain domain
      if wildcard then
        ({ pushed with
            wildcards := pushed.wildcards.push h offset
            wildcardCount := pushed.wildcardCount + 1 }, true)
      else
        ({ pushed with
            exact := pushed.exact.push h offset
            exactCount := pushed.exactCount + 1 }, true)

/-- `insert`. -/
def insert (store : DomainStore) (domain : Str) : DomainStore × Bool :=
  let normalized := normalizeDomain u domain
  if normalized = [] then (store, false)
  else
    match Str.stripPrefix "*.".toList normalized with
    | some stripped =>
        if stripped = [] then (store, false)
        else store.insertNormalized hash stripped.utf8 true
    | none => store.insertNormalized hash normalized.utf8 false

/-- Insert the entries another arena holds at the given offsets, in order. -/
def insertOffsets (store : DomainStore) (arena : Bytes) (offsets : List UInt32)
    (wildcard : Bool) : DomainStore :=
  offsets.foldl
    (fun store offset => (store.insertNormalized hash (domainAt arena offset) wildcard).1)
    store

/-- `merge`: the exact entries of `other` and then its wildcard entries, each in the order in
which its index is iterated. -/
def merge (store other : DomainStore) (order : BucketOrder) : DomainStore :=
  (store.insertOffsets hash other.arena (valuesInOrder order other.exact) false).insertOffsets
    hash other.arena (valuesInOrder order other.wildcards) true

/-- `replace_with`. -/
def replaceWith (_store other : DomainStore) : DomainStore := other

/-- `compact`: rebuild the arena and the indexes from the live entries. -/
def compact (store : DomainStore) (order : BucketOrder) : DomainStore :=
  if store.isEmpty then
    { store with arena := [], exact := ∅, wildcards := ∅, deadBytes := 0 }
  else DomainStore.default.merge hash store order

/-- `maybe_compact`: nothing is left, or more than a quarter of the arena is unreachable. -/
def maybeCompact (store : DomainStore) (order : BucketOrder) : DomainStore :=
  if store.isEmpty then store.compact hash order
  else if store.deadBytes > 0 ∧ saturatingMul store.deadBytes 4 > store.arena.length then
    store.compact hash order
  else store

/-- `remove`. -/
def remove (store : DomainStore) (domain : Str) (order : BucketOrder) : DomainStore :=
  let normalized := normalizeDomain u domain
  let (wildcards, wildcardCount, freedWildcard) :=
    match Str.stripPrefix "*.".toList normalized with
    | some stripped =>
        let (index, count, freed) :=
          removeFromIndex hash store.arena store.wildcards store.wildcardCount stripped.utf8
        (index, count, saturatingAdd 0 freed)
    | none => (store.wildcards, store.wildcardCount, 0)
  let (exact, exactCount, freedExact) :=
    removeFromIndex hash store.arena store.exact store.exactCount normalized.utf8
  let freed := saturatingAdd freedWildcard freedExact
  let trimmed :=
    { store with
      exact := exact
      wildcards := wildcards
      exactCount := exactCount
      wildcardCount := wildcardCount }
  if freed > 0 then
    { trimmed with deadBytes := saturatingAdd store.deadBytes freed }.maybeCompact hash order
  else trimmed

/-- The walk of `matches` over the parent suffixes: whether `test` accepts what
follows some full stop of `domain`. -/
def anyParent (test : Bytes → Bool) : Bytes → Bool
  | [] => false
  | byte :: rest => (byte == 46 && test rest) || anyParent test rest

/-- `matches`. -/
def «matches» (store : DomainStore) (domain : Str) : Bool :=
  containsIn store.arena store.exact domain.utf8 (hash domain.utf8) ||
    anyParent (fun suffix => containsIn store.arena store.wildcards suffix (hash suffix))
      domain.utf8

end DomainStore

end RustBlocker
