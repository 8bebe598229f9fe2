import Mathlib

/-!
# Hash buckets of offsets

An index from a key's hash to the offsets of the stored keys with that hash. The index never holds
a key: a key is recovered from an offset by `decode`, and two keys with one hash share a bucket
and are told apart by decoding.  Nothing is assumed of the hash.

`Represents hash decode index keys` says what such an index is *for*: it is the finite set `keys`,
each of whose elements is found by decoding exactly one offset, in the bucket of its own hash.
The operations are specified against that set — `contains_iff`, `Represents.push`,
`Represents.retain` — and a user of the index reasons about the set only.

The order in which a hash map hands out its values is not part of the index; `Reordering` is how a
user quantifies over it.

## What is load-bearing

Of the three clauses of `Represents` the first is the one that makes lookup correct: it looks in
one bucket only, so a key in another bucket would be stored and not found.  The second is what
makes removal correct: an offset that is dropped takes its key with it, since there is no other
offset of it.  The third only names the set.

`decode` is a function of the offset.  In a store that also grows, an offset decodes by looking
into an arena, and what it decodes to must not change as the arena grows; `Represents.congr` is
where that is asked for, of the stored offsets and of no others.
-/

universe u v w

/-- A rearrangement of lists: what an unordered collection may do to the order
of its elements when it is iterated. -/
structure Reordering (α : Type u) where
  /-- The rearranged list. -/
  apply : List α → List α
  /-- It is a permutation of the original. -/
  perm : ∀ l, (apply l).Perm l

namespace Reordering

/-- The rearrangement that leaves every list alone. -/
def id (α : Type u) : Reordering α := ⟨fun l => l, fun l => List.Perm.refl l⟩

/-- The rearrangement that turns every list around. -/
def reverse (α : Type u) : Reordering α := ⟨List.reverse, List.reverse_perm⟩

variable {α : Type u} (order : Reordering α)

@[simp] theorem mem_apply {l : List α} {a : α} : a ∈ order.apply l ↔ a ∈ l :=
  (order.perm l).mem_iff

end Reordering

/-- A map from hashes to the offsets stored under them. -/
abbrev BucketIndex (η : Type u) (ο : Type v) := AList (fun _ : η => List ο)

namespace BucketIndex

variable {η : Type u} {ο : Type v} {κ : Type w} [DecidableEq η]

/-- The bucket of a hash, empty where the map has no entry. -/
def bucket (index : BucketIndex η ο) (h : η) : List ο := (index.lookup h).getD []

/-- Every offset of the index. -/
def offsets (index : BucketIndex η ο) : List ο :=
  index.entries.flatMap fun entry => entry.2

/-- Add an offset at the end of the bucket of `h`. -/
def push (index : BucketIndex η ο) (h : η) (o : ο) : BucketIndex η ο :=
  index.insert h (index.bucket h ++ [o])

/-- Keep the offsets of the bucket of `h` that pass `keep`, and drop the bucket
when none does. -/
def retain (index : BucketIndex η ο) (h : η) (keep : ο → Bool) :
    BucketIndex η ο :=
  if (index.bucket h).filter keep = [] then index.erase h
  else index.insert h ((index.bucket h).filter keep)

/-! ## The offsets of an updated index

The index is a map from hashes to buckets.  These lemmas describe the offsets of an index after an
update, bucket by bucket and all together, without a word about keys. -/

omit [DecidableEq η] in
@[simp] theorem offsets_empty : offsets (∅ : BucketIndex η ο) = [] := rfl

@[simp] theorem bucket_empty (h : η) : bucket (∅ : BucketIndex η ο) h = [] := by
  simp [bucket]

/-- An index is one of its buckets and the rest. -/
theorem offsets_perm (index : BucketIndex η ο) (h : η) :
    index.offsets.Perm (index.bucket h ++ offsets (index.erase h)) := by
  by_cases present : h ∈ index.entries.keys
  · obtain ⟨os, before, after, absent, split, erased⟩ :=
      List.exists_of_kerase present
    have found : index.lookup h = some os := by
      refine AList.mem_lookup_iff.mpr ?_
      rw [split]
      exact List.mem_append_right _ List.mem_cons_self
    have rest : offsets (index.erase h) =
        (before ++ after).flatMap fun entry => entry.2 := by
      rw [offsets, ← erased]
      rfl
    rw [rest, bucket, found, offsets, split]
    simp only [List.flatMap_append, List.flatMap_cons, Option.getD_some]
    rw [← List.append_assoc, ← List.append_assoc]
    exact List.perm_append_comm.append_right _
  · have missing : index.lookup h = none :=
      AList.lookup_eq_none.mpr fun inside => present inside
    have same : (index.erase h).entries = index.entries :=
      List.kerase_of_notMem_keys present
    rw [bucket, missing, offsets, offsets, same]
    simp

theorem offsets_insert (index : BucketIndex η ο) (h : η) (os : List ο) :
    offsets (index.insert h os) = os ++ offsets (index.erase h) := by
  simp only [offsets, AList.entries_insert, List.flatMap_cons]
  rfl

theorem offsets_push (index : BucketIndex η ο) (h : η) (o : ο) :
    (index.push h o).offsets.Perm (o :: index.offsets) := by
  rw [push, offsets_insert, List.append_assoc]
  exact List.perm_middle.trans ((index.offsets_perm h).symm.cons o)

theorem offsets_retain (index : BucketIndex η ο) (h : η) (keep : ο → Bool) :
    (index.retain h keep).offsets =
      (index.bucket h).filter keep ++ offsets (index.erase h) := by
  unfold retain
  split
  next nothing => rw [nothing, List.nil_append]
  next => rw [offsets_insert]

theorem mem_offsets {index : BucketIndex η ο} {o : ο} :
    o ∈ index.offsets ↔ ∃ h, o ∈ index.bucket h := by
  constructor
  · intro mem
    obtain ⟨⟨h, os⟩, entry, inside⟩ := List.mem_flatMap.mp mem
    have found : index.lookup h = some os :=
      AList.mem_lookup_iff.mpr entry
    exact ⟨h, by rw [bucket, found]; exact inside⟩
  · rintro ⟨h, inside⟩
    exact (index.offsets_perm h).mem_iff.mpr (List.mem_append_left _ inside)

theorem bucket_insert_self (index : BucketIndex η ο) (h : η) (os : List ο) :
    bucket (index.insert h os) h = os := by
  simp [bucket]

theorem bucket_insert_of_ne (index : BucketIndex η ο) {h h' : η} (os : List ο)
    (ne : h' ≠ h) : bucket (index.insert h os) h' = index.bucket h' := by
  simp [bucket, AList.lookup_insert_ne ne]

theorem bucket_push_self (index : BucketIndex η ο) (h : η) (o : ο) :
    (index.push h o).bucket h = index.bucket h ++ [o] :=
  index.bucket_insert_self h _

theorem mem_bucket_push {index : BucketIndex η ο} {h h' : η} {o o' : ο} :
    o' ∈ (index.push h o).bucket h' ↔
      o' ∈ index.bucket h' ∨ (h' = h ∧ o' = o) := by
  by_cases same : h' = h
  · subst same
    simp [bucket_push_self]
  · simp [push, bucket_insert_of_ne index _ same, same]

theorem mem_bucket_retain {index : BucketIndex η ο} {h h' : η} {keep : ο → Bool}
    {o : ο} : o ∈ (index.retain h keep).bucket h' ↔
      o ∈ index.bucket h' ∧ (h' = h → keep o = true) := by
  by_cases same : h' = h
  · subst same
    unfold retain
    split
    next nothing =>
      rw [List.filter_eq_nil_iff] at nothing
      simp only [bucket, AList.lookup_erase, Option.getD_none, List.not_mem_nil,
        forall_const, false_iff]
      rintro ⟨inside, kept⟩
      exact nothing o inside kept
    next => simp [bucket_insert_self]
  · unfold retain
    split
    · simp [bucket, AList.lookup_erase_ne same, same]
    · simp [bucket_insert_of_ne index _ same, same]

/-! ## What an index represents

A set of keys is represented by offsets that decode to them.  Hashes may collide: a bucket can
have offsets of other keys, and membership is decided by decoding. -/

/-- **The index is the set `keys`**: every offset lies in the bucket of the hash
of the key it decodes to, and decoding is a bijection from the offsets to the
set. -/
structure Represents (hash : κ → η) (decode : ο → κ) (index : BucketIndex η ο)
    (keys : Finset κ) : Prop where
  /-- An offset lies in the bucket of its key's hash. -/
  hashed : ∀ h, ∀ o ∈ index.bucket h, hash (decode o) = h
  /-- No key is stored twice. -/
  nodup : (index.offsets.map decode).Nodup
  /-- The stored keys are the elements of the set. -/
  mem_iff : ∀ k, k ∈ index.offsets.map decode ↔ k ∈ keys

/-- Whether some offset of the bucket of `h` decodes to `k`. -/
def contains [DecidableEq κ] (decode : ο → κ) (index : BucketIndex η ο) (h : η)
    (k : κ) : Bool :=
  (index.bucket h).any fun o => decode o = k

namespace Represents

variable {hash : κ → η} {decode decode' : ο → κ} {index : BucketIndex η ο}
variable {keys : Finset κ}

theorem empty : Represents hash decode (∅ : BucketIndex η ο) ∅ where
  hashed := by simp
  nodup := by simp
  mem_iff := by simp

/-- Only the decoding of the stored offsets matters. -/
theorem congr (rep : Represents hash decode index keys)
    (same : ∀ o ∈ index.offsets, decode' o = decode o) :
    Represents hash decode' index keys := by
  have mapped : index.offsets.map decode' = index.offsets.map decode :=
    List.map_congr_left same
  refine ⟨fun h o inside => ?_, ?_, ?_⟩
  · rw [same o (mem_offsets.mpr ⟨h, inside⟩)]
    exact rep.hashed h o inside
  · rw [mapped]
    exact rep.nodup
  · rw [mapped]
    exact rep.mem_iff

theorem decode_mem (rep : Represents hash decode index keys) {o : ο}
    (mem : o ∈ index.offsets) : decode o ∈ keys :=
  (rep.mem_iff _).mp (List.mem_map_of_mem mem)

/-- The key set is the image of the offsets. -/
theorem toFinset [DecidableEq κ] (rep : Represents hash decode index keys) :
    (index.offsets.map decode).toFinset = keys := by
  ext k
  rw [List.mem_toFinset]
  exact rep.mem_iff k

theorem card [DecidableEq κ] (rep : Represents hash decode index keys) :
    index.offsets.length = keys.card := by
  rw [← rep.toFinset, List.toFinset_card_of_nodup rep.nodup, List.length_map]

/-- The keys in storage order are a listing of the set. -/
theorem map_perm [DecidableEq κ] (rep : Represents hash decode index keys) :
    (index.offsets.map decode).Perm keys.toList := by
  rw [List.perm_ext_iff_of_nodup rep.nodup keys.nodup_toList]
  intro k
  rw [rep.mem_iff, Finset.mem_toList]

/-- **Lookup in the bucket of a key's own hash decides membership**, whatever
other keys share the bucket. -/
theorem contains_iff [DecidableEq κ] (rep : Represents hash decode index keys)
    (k : κ) : contains decode index (hash k) k = true ↔ k ∈ keys := by
  rw [← rep.mem_iff k]
  simp only [contains, List.any_eq_true, decide_eq_true_eq, List.mem_map]
  constructor
  · rintro ⟨o, inside, rfl⟩
    exact ⟨o, mem_offsets.mpr ⟨_, inside⟩, rfl⟩
  · rintro ⟨o, mem, rfl⟩
    obtain ⟨h, inside⟩ := mem_offsets.mp mem
    exact ⟨o, by rw [rep.hashed h o inside]; exact inside, rfl⟩

/-- Pushing the offset of a new key adds the key. -/
theorem push [DecidableEq κ] (rep : Represents hash decode index keys) {o : ο}
    (new : decode o ∉ keys) :
    Represents hash decode (index.push (hash (decode o)) o)
      (insert (decode o) keys) where
  hashed := by
    intro h o' inside
    rcases mem_bucket_push.mp inside with old | ⟨rfl, rfl⟩
    · exact rep.hashed h o' old
    · rfl
  nodup := by
    rw [((index.offsets_push _ o).map decode).nodup_iff, List.map_cons,
      List.nodup_cons]
    exact ⟨fun mem => new ((rep.mem_iff _).mp mem), rep.nodup⟩
  mem_iff := by
    intro k
    rw [((index.offsets_push _ o).map decode).mem_iff, List.map_cons,
      List.mem_cons, Finset.mem_insert, rep.mem_iff]

/-- In the bucket of its hash a stored key has exactly one offset, and a key
that is not stored has none. -/
theorem bucket_filter [DecidableEq κ] (rep : Represents hash decode index keys)
    (k : κ) :
    (k ∈ keys → ∃ o, decode o = k ∧
      (index.bucket (hash k)).filter (fun o => decide (decode o = k)) = [o]) ∧
    (k ∉ keys →
      (index.bucket (hash k)).filter (fun o => decide (decode o = k)) = []) := by
  constructor
  · intro stored
    have found := (rep.contains_iff k).mpr stored
    simp only [contains, List.any_eq_true, decide_eq_true_eq] at found
    obtain ⟨o, inside, decoded⟩ := found
    refine ⟨o, decoded, ?_⟩
    have distinct : ((index.bucket (hash k)).map decode).Nodup := by
      have whole := (((index.offsets_perm (hash k)).map decode).nodup_iff).mp rep.nodup
      rw [List.map_append] at whole
      exact (List.nodup_append.mp whole).1
    obtain ⟨before, after, split⟩ := List.append_of_mem inside
    rw [split, List.map_append, List.map_cons, decoded] at distinct
    have apart := List.nodup_middle.mp distinct
    rw [List.nodup_cons, List.mem_append, not_or] at apart
    have none_of : ∀ l : List ο, k ∉ l.map decode →
        l.filter (fun o => decide (decode o = k)) = [] := by
      intro l absent
      refine List.filter_eq_nil_iff.mpr fun o' mem same => absent ?_
      exact List.mem_map.mpr ⟨o', mem, of_decide_eq_true same⟩
    rw [split, List.filter_append, List.filter_cons_of_pos (by simpa using decoded),
      none_of before apart.1.1, none_of after apart.1.2, List.nil_append]
  · intro absent
    refine List.filter_eq_nil_iff.mpr fun o inside same => absent ?_
    rw [← of_decide_eq_true same]
    exact rep.decode_mem (mem_offsets.mpr ⟨_, inside⟩)

/-- The offsets that decode to `k` are in the bucket of its hash. -/
theorem filter_offsets [DecidableEq κ] (rep : Represents hash decode index keys)
    (k : κ) : (index.retain (hash k) fun o => decide (decode o ≠ k)).offsets.Perm
      (index.offsets.filter fun o => decide (decode o ≠ k)) := by
  have untouched : (offsets (index.erase (hash k))).filter
      (fun o => decide (decode o ≠ k)) = offsets (index.erase (hash k)) := by
    refine List.filter_eq_self.mpr fun o mem => ?_
    obtain ⟨h, inside⟩ := mem_offsets.mp mem
    have elsewhere : h ≠ hash k := by
      rintro rfl
      simp [bucket] at inside
    have old : o ∈ index.bucket h := by
      simpa [bucket, AList.lookup_erase_ne elsewhere] using inside
    have hashed := rep.hashed h o old
    refine decide_eq_true fun same => elsewhere ?_
    rw [← hashed, same]
  have whole := (index.offsets_perm (hash k)).filter
    fun o => decide (decode o ≠ k)
  rw [List.filter_append, untouched] at whole
  rw [offsets_retain]
  exact whole.symm

/-- Dropping the offsets of a key from the bucket of its hash removes the key
and nothing else. -/
theorem retain [DecidableEq κ] (rep : Represents hash decode index keys) (k : κ) :
    Represents hash decode
      (index.retain (hash k) fun o => decide (decode o ≠ k)) (keys.erase k) where
  hashed := by
    intro h o inside
    exact rep.hashed h o (mem_bucket_retain.mp inside).1
  nodup := by
    rw [((rep.filter_offsets k).map decode).nodup_iff]
    exact (List.filter_sublist.map decode).nodup rep.nodup
  mem_iff := by
    intro k'
    rw [((rep.filter_offsets k).map decode).mem_iff, Finset.mem_erase,
      ← rep.mem_iff k']
    simp only [List.mem_map, List.mem_filter, decide_eq_true_eq]
    constructor
    · rintro ⟨o, ⟨mem, differs⟩, rfl⟩
      exact ⟨differs, o, mem, rfl⟩
    · rintro ⟨differs, o, mem, rfl⟩
      exact ⟨o, ⟨mem, differs⟩, rfl⟩

end Represents

end BucketIndex
