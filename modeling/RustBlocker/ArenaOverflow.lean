import RustBlocker.RuntimeLists

/-!
# A store of four gibibytes

An offset of the store is the length of the arena `as u32`.  When the arena is `2 ^ 32` bytes long
the next entry gets the offset `0`, which is where the first entry lies: the new name is counted,
but a lookup under its hash reads the first name, and the new one is not found.

`2 ^ 26` names of 62 bytes fill the arena exactly.  Which name is lost is then a matter of the
order of the inserts, and the order in which a running server meets the names is not the order in
which a restarted one reads them.

So the running list and the list of a restart come apart although no call has failed, no request
was in between, and both were made of the same rows.  This is the one way in which they do that
the code does not announce, and it is the reason why `RustBlocker.RuntimeLists` has a condition on
the room of an arena.

The names are spelled out as digits of a number in a fixed width, so that they differ, sort as
their numbers and have labels that a list accepts.  Nothing of the size of the arena is computed:
the length after some inserts is a product, by induction on the inserts, and the hash is
arbitrary, as the name that is lost is lost whichever bucket it lies in.
-/

namespace RustBlocker

open BucketIndex PackedArena

/-! ## Inserts at any length

What can be said of inserts without a bound on the arena: what was found stays found, and a name
that is new goes in at an offset that wraps around. -/

section Insert

variable {hash : Bytes → UInt64} {store : DomainStore} {exacts suffixes : Finset Bytes}

/-- A name that is found is found after every further insert. -/
theorem Holds.containsIn_insertNormalized (holds : Holds hash store exacts suffixes)
    {name : Bytes} (stored : name ∈ exacts) (domain : Bytes) :
    containsIn (store.insertNormalized hash domain false).1.arena
      (store.insertNormalized hash domain false).1.exact name (hash name) = true := by
  have found := (holds.containsIn_exact name).mpr stored
  unfold DomainStore.insertNormalized
  split
  · exact found
  split
  · exact found
  simp only [Bool.false_eq_true, if_false]
  split
  · exact found
  · rw [containsIn_eq, BucketIndex.contains, List.any_eq_true] at found ⊢
    obtain ⟨o, inside, decoded⟩ := found
    refine ⟨o, mem_bucket_push.mpr (Or.inl inside), ?_⟩
    have points := holds.exactPoints o (mem_offsets.mpr ⟨_, inside⟩)
    rw [← decide_eq_true_eq.mp decoded]
    exact decide_eq_true (points.domainAt_append _)

/-- In an arena of `2 ^ 32` bytes a new name is not found, unless it is the name
that lies at the start of the arena. -/
theorem Holds.not_containsIn_insertNormalized (holds : Holds hash store exacts suffixes)
    (full : store.arena.length = 2 ^ 32) {name first : Bytes} (absent : name ∉ exacts)
    (storable : Storable name) (start : HasEntry store.arena 0 first) (differs : name ≠ first) :
    containsIn (store.insertNormalized hash name false).1.arena
      (store.insertNormalized hash name false).1.exact name (hash name) = false := by
  have unfound : containsIn store.arena store.exact name (hash name) = false :=
    Bool.eq_false_iff.mpr fun found => absent ((holds.containsIn_exact name).mp found)
  have added : (store.insertNormalized hash name false).1.exact =
        store.exact.push (hash name) 0 ∧
      (store.insertNormalized hash name false).1.arena = store.arena ++ pack name := by
    simp [DomainStore.insertNormalized, unfound, storable.1, Nat.not_lt.mpr storable.2,
      DomainStore.pushDomain, full]
  rw [containsIn_eq, added.1, added.2, Bool.eq_false_iff]
  intro found
  obtain ⟨o, inside, decoded⟩ := List.any_eq_true.mp found
  have decoded := decide_eq_true_eq.mp decoded
  rcases mem_bucket_push.mp inside with old | ⟨-, rfl⟩
  · have stored := mem_offsets.mpr ⟨_, old⟩
    rw [(holds.exactPoints o stored).domainAt_append] at decoded
    rw [← decoded] at absent
    exact absent (holds.exact.decode_mem stored)
  · have zero : (0 : UInt32).toNat = 0 := rfl
    rw [domainAt, zero, (start.append (pack name)).entryAt] at decoded
    exact differs decoded.symm

/-- Inserts only ever append to the arena. -/
theorem exists_arena_insertAll (u : CaseTables) (hash : Bytes → UInt64) (domains : List Str)
    (store : DomainStore) :
    ∃ more, (domains.foldl (fun store domain => (store.insert u hash domain).1) store).arena =
      store.arena ++ more := by
  induction domains generalizing store with
  | nil => exact ⟨[], (List.append_nil _).symm⟩
  | cons domain rest ih =>
      obtain ⟨later, grown⟩ := ih (store.insert u hash domain).1
      have one : ∃ more, (store.insert u hash domain).1.arena = store.arena ++ more := by
        rw [insert_eq_insertNormalized]
        split
        all_goals
          rcases (insertNormalized_arena hash store _ _).2 with same | packed
          · exact ⟨[], by rw [same, List.append_nil]⟩
          · exact ⟨_, packed⟩
      obtain ⟨more, here⟩ := one
      exact ⟨more ++ later, by rw [List.foldl_cons, grown, here, List.append_assoc]⟩

end Insert

/-! ## Names of 62 bytes

To fill an arena to the last byte names are needed whose entries have a length that divides its
size.  A name of 62 bytes takes 64, and there are enough of them; they are also names that the API
accepts. -/

/-- A name of 62 letters and digits that spells out a number below `2 ^ 27`. -/
def wideName (k : Nat) : Str :=
  List.replicate 35 'a' ++ (List.range 27).map fun i => if k.testBit i then '1' else '0'

theorem length_wideName (k : Nat) : (wideName k).length = 62 := by
  simp [wideName]

theorem mem_wideName {k : Nat} {c : Char} (mem : c ∈ wideName k) :
    c = 'a' ∨ c = '0' ∨ c = '1' := by
  rcases List.mem_append.mp mem with letter | digit
  · exact Or.inl (List.eq_of_mem_replicate letter)
  · obtain ⟨i, -, rfl⟩ := List.mem_map.mp digit
    cases k.testBit i <;> simp

theorem wideName_injective {k k' : Nat} (small : k < 2 ^ 27) (small' : k' < 2 ^ 27)
    (same : wideName k = wideName k') : k = k' := by
  have digits := List.append_cancel_left same
  refine Nat.eq_of_testBit_eq fun i => ?_
  by_cases low : i < 27
  · have bit := List.map_inj_left.mp digits i (List.mem_range.mpr low)
    cases one : k.testBit i <;> cases two : k'.testBit i <;> simp_all
  · have high : 2 ^ 27 ≤ 2 ^ i := Nat.pow_le_pow_right (by decide) (Nat.le_of_not_lt low)
    rw [Nat.testBit_lt_two_pow (Nat.lt_of_lt_of_le small high),
      Nat.testBit_lt_two_pow (Nat.lt_of_lt_of_le small' high)]

theorem len_wideName (k : Nat) : (wideName k).len = 62 := by
  rw [Str.len_of_ascii, length_wideName]
  intro c mem
  rcases mem_wideName mem with rfl | rfl | rfl <;> decide

theorem unstarred_wideName (k : Nat) :
    Str.stripPrefix "*.".toList (wideName k) = none := by
  rw [Str.stripPrefix_eq_none]
  intro t same
  have star : '*' ∈ wideName k := by
    rw [same]
    exact List.mem_append_left _ (by simp)
  rcases mem_wideName star with h | h | h <;> cases h

theorem entryOf_wideName (k : Nat) : entryOf (wideName k) = .exact (wideName k) := by
  rw [entryOf, unstarred_wideName]

theorem canonical_wideName (k : Nat) : Canonical (wideName k) := by
  have bare : unstarred (wideName k) = wideName k := by
    rw [unstarred, unstarred_wideName, Option.getD_none]
  have solid : '.' ∉ wideName k := by
    intro mem
    rcases mem_wideName mem with h | h | h <;> cases h
  have label : isListLabel (wideName k) = true := by
    refine isListLabel_iff.mpr ⟨?_, by rw [len_wideName]; decide, ?_⟩
    · intro empty
      have := length_wideName k
      rw [empty] at this
      cases this
    · intro c mem
      rcases mem_wideName mem with rfl | rfl | rfl <;> decide
  refine canonical_iff.mpr ⟨?_, ?_⟩
  · rw [bare, isListName, len_wideName, Str.split, List.splitOn_eq_singleton solid]
    have nonempty : wideName k ≠ [] := (isListLabel_iff.mp label).1
    simp [nonempty, label]
  · have same : ∀ c ∈ wideName k, c.toLower = id c := by
      intro c mem
      rcases mem_wideName mem with rfl | rfl | rfl <;> rfl
    rw [Str.toAsciiLowercase, List.map_congr_left same, List.map_id]

/-- Distinct names, each of 62 bytes, so that with its length prefix an entry takes 64 bytes and
`2 ^ 26` of them fill the arena. -/
structure WideNames (names : List Str) : Prop where
  nodup : names.Nodup
  wide : ∀ name ∈ names, ∃ k, name = wideName k

namespace WideNames

variable {names : List Str}

theorem canonical (wide : WideNames names) : ∀ name ∈ names, Canonical name := by
  intro name mem
  obtain ⟨k, rfl⟩ := wide.wide name mem
  exact canonical_wideName k

theorem of_sublist {names' : List Str} (wide : WideNames names)
    (sub : names'.Sublist names) : WideNames names' :=
  ⟨sub.nodup wide.nodup, fun name mem => wide.wide name (sub.subset mem)⟩

/-- Each takes 64 bytes of an arena. -/
theorem packedBytes (wide : WideNames names) : packedBytes names = 64 * names.length := by
  have sets : setsOf names = ⟨names.toFinset, ∅⟩ := by
    refine DomainSets.ext_mem fun e => ?_
    rw [mem_setsOf]
    cases e with
    | exact name =>
        rw [DomainSets.exact_mem, List.mem_toFinset]
        constructor
        · rintro ⟨d, mem, same⟩
          obtain ⟨k, rfl⟩ := wide.wide d mem
          rw [entryOf_wideName] at same
          cases same
          exact mem
        · intro mem
          obtain ⟨k, rfl⟩ := wide.wide name mem
          exact ⟨_, mem, entryOf_wideName k⟩
    | wildcard suffix =>
        refine iff_of_false ?_ (Finset.notMem_empty suffix)
        rintro ⟨d, mem, same⟩
        obtain ⟨k, rfl⟩ := wide.wide d mem
        rw [entryOf_wideName] at same
        cases same
  have each : ∀ name ∈ names.toFinset, packedSize name.utf8 = 64 := by
    intro name mem
    obtain ⟨k, rfl⟩ := wide.wide name (List.mem_toFinset.mp mem)
    have size := len_wideName k
    rw [Str.len] at size
    rw [packedSize, size]
  rw [RustBlocker.packedBytes, sets, DomainSets.bytes, Finset.sum_const_nat each,
    Finset.sum_empty, List.toFinset_card_of_nodup wide.nodup]
  omega

variable {u : CaseTables} {hash : Bytes → UInt64}

variable (u hash) in
/-- Up to `2 ^ 26` of them are stored as they should be. -/
theorem models_storeOf (wide : WideNames names) (few : names.length ≤ 2 ^ 26) :
    Models hash (storeOf u hash names) (setsOf names) ∧
      (storeOf u hash names).arena.length = 64 * names.length := by
  rcases names.eq_nil_or_concat' with rfl | ⟨front, last, rfl⟩
  · exact ⟨models_default hash, rfl⟩
  have sub : front.Sublist (front ++ [last]) := List.sublist_append_left front [last]
  have bytes := (wide.of_sublist sub).packedBytes
  rw [List.length_append, List.length_singleton] at few
  obtain ⟨before, short⟩ := RustBlocker.models_storeOf u hash
    (wide.of_sublist sub).canonical (by omega)
  have models := before.insert_canonical u (by omega)
    (wide.canonical last (List.mem_append_right _ (List.mem_singleton_self _)))
  have step : storeOf u hash (front ++ [last]) =
      ((storeOf u hash front).insert u hash last).1 := by
    rw [storeOf, List.foldl_append]
    rfl
  rw [add_eq_union, ← setsOf_append, ← step] at models
  refine ⟨models, ?_⟩
  rw [models.arena_length, deadBytes_storeOf, Nat.zero_add]
  exact wide.packedBytes

end WideNames

/-! ## One name too many

The run fills the store by one snapshot and then adds one name.  It is built for any hash, since
the name that is lost is found to be missing by comparing bytes. -/

section Overflow

variable (u : CaseTables) (hash : Bytes → UInt64) {first last : Str} {middle : List Str}

/-- **Which name is lost depends on the order of the inserts.**  With `2 ^ 26`
names already in the store, the one that is added last is the one that is not
found. -/
theorem lost_by_order (wide : WideNames (first :: (middle ++ [last])))
    (count : middle.length + 1 = 2 ^ 26) :
    ((storeOf u hash (middle ++ [last])).insert u hash first).1.holdsEntry hash (.exact last) =
        true ∧
      (storeOf u hash (first :: (middle ++ [last]))).holdsEntry hash (.exact last) = false := by
  have canonical := wide.canonical
  have asExact : ∀ name ∈ first :: (middle ++ [last]), entryOf name = .exact name := by
    intro name mem
    obtain ⟨k, rfl⟩ := wide.wide name mem
    exact entryOf_wideName k
  have firstMem : first ∈ first :: (middle ++ [last]) := List.mem_cons_self
  have lastMem : last ∈ first :: (middle ++ [last]) := by simp
  have insertExact : ∀ (store : DomainStore), ∀ name ∈ first :: (middle ++ [last]),
      (store.insert u hash name).1 = (store.insertNormalized hash name.utf8 false).1 := by
    intro store name mem
    rw [insert_eq_insertNormalized, (canonical name mem).normalizeDomain, asExact name mem]
  constructor
  · obtain ⟨models, -⟩ := (wide.of_sublist (List.sublist_cons_self first _)).models_storeOf
      u hash (by simp; omega)
    have stored : last.utf8 ∈ (setsOf (middle ++ [last])).exacts.map utf8Embedding := by
      rw [utf8_mem_map, ← DomainSets.exact_mem, ← asExact last lastMem, entryOf_mem_setsOf]
      simp
    rw [DomainStore.holdsEntry, insertExact _ first firstMem]
    exact models.holds.containsIn_insertNormalized stored first.utf8
  · have front : (first :: middle).Sublist (first :: (middle ++ [last])) :=
      (List.sublist_append_left middle [last]).cons_cons first
    obtain ⟨models, full⟩ := (wide.of_sublist front).models_storeOf u hash
      (by simp; omega)
    have absent : last ∉ first :: middle := by
      have apart := wide.nodup
      rw [← List.cons_append] at apart
      exact fun mem => (List.nodup_append.mp apart).2.2 last mem last
        (List.mem_singleton_self _) rfl
    have unstored : last.utf8 ∉ (setsOf (first :: middle)).exacts.map utf8Embedding := by
      rw [utf8_mem_map, ← DomainSets.exact_mem, ← asExact last lastMem, entryOf_mem_setsOf]
      exact absent
    have storable : ∀ name ∈ first :: (middle ++ [last]), Storable name.utf8 := by
      intro name mem
      have ok := Entry.admissible_iff.mp (canonical name mem).admissible
      rwa [asExact name mem] at ok
    have start : HasEntry (storeOf u hash (first :: middle)).arena 0 first.utf8 := by
      obtain ⟨more, grown⟩ := exists_arena_insertAll u hash middle
        (DomainStore.default.insert u hash first).1
      have one : (DomainStore.default.insert u hash first).1.arena = [] ++ pack first.utf8 := by
        have ok := storable first firstMem
        rw [insertExact _ first firstMem]
        have fresh : containsIn [] (∅ : DomainIndex) first.utf8 (hash first.utf8) = false := rfl
        simp [DomainStore.insertNormalized, fresh, ok.1, Nat.not_lt.mpr ok.2,
          DomainStore.pushDomain, DomainStore.default]
      have entry := hasEntry_pack [] (Nat.lt_succ_of_le (storable first firstMem).2)
      rw [storeOf, List.foldl_cons, grown, one]
      exact entry.append more
    have step : storeOf u hash (first :: (middle ++ [last])) =
        ((storeOf u hash (first :: middle)).insert u hash last).1 := by
      rw [← List.cons_append, storeOf, List.foldl_append]
      rfl
    have differs : last.utf8 ≠ first.utf8 := by
      rw [Ne, Str.utf8_inj]
      rintro rfl
      exact absent List.mem_cons_self
    rw [DomainStore.holdsEntry, step, insertExact _ last lastMem]
    refine models.holds.not_containsIn_insertNormalized ?_ unstored (storable last lastMem)
      start differs
    rw [full, List.length_cons]
    omega

/-- A snapshot is applied to an empty server, and a domain is added. -/
def snapshotThenAdd (first : ListedDomain) (rest : List ListedDomain) : List Action :=
  [.submit (.applySnapshot .blocklist rest), .acquire 0, .commit (.fair []), .update (.id _),
    .release, .submit (.addDomain .blocklist first), .acquire 0, .commit (.fair []),
    .update (.id _), .release]

/-- The run takes all its steps without a fault, and leaves the lock free. -/
theorem exec_snapshotThenAdd (u : CaseTables) (hash : Bytes → UInt64) (first : ListedDomain)
    (rest : List ListedDomain) :
    ∃ t, (listRequests u hash).exec {} (snapshotThenAdd first rest) = some t ∧
      (listRequests u hash).StepsMeet (fun _ a => Fair a) {} (snapshotThenAdd first rest) ∧
      t.holder = none ∧
      t.runtime .blocklist =
        ((storeOf u hash (rest.map Subtype.val)).insert u hash first.1).1 ∧
      t.db.domains .blocklist =
        ((({} : Db).applyDomains .blocklist (rest.map Subtype.val)).domains
          .blocklist).insertOrIgnore first.1 := by
  have added := commitJob_addDomain u hash []
    (({} : Db).applyDomains .blocklist (rest.map Subtype.val)) .blocklist first
  -- the server when the second request has just got the lock
  let s : Server :=
    { db := ({} : Db).applyDomains .blocklist (rest.map Subtype.val)
      runtime := Function.update (fun _ => .default) .blocklist
        (storeOf u hash (rest.map Subtype.val))
      holder := some { progress := .locked (.addDomain .blocklist first) } }
  let committed : Server :=
    { s with
      db := (s.db.insertDomain .blocklist first.1).insertManual .blocklist first.1
      holder := some { progress := .committed (.insert .blocklist first.1) } }
  have commits : (listRequests u hash).step s (.commit (.fair [])) = some committed := by
    have one := Server.step_commit u hash (s := s) rfl (.fair [])
    rwa [added] at one
  refine ⟨{ committed with
    runtime := Function.update s.runtime .blocklist
      ((s.runtime .blocklist).insert u hash first.1).1
    holder := none }, ?_, ?_, rfl, ?_, ?_⟩
  · change (listRequests u hash).exec s [.commit (.fair []), .update (.id _), .release] = _
    rw [StateMachine.exec_cons, commits]
    rfl
  · iterate 2 refine (StateMachine.stepsMeet_cons _ rfl).mpr ⟨trivial, ?_⟩
    refine (StateMachine.stepsMeet_cons _ rfl).mpr ⟨rfl, ?_⟩
    iterate 4 refine (StateMachine.stepsMeet_cons _ rfl).mpr ⟨trivial, ?_⟩
    refine (StateMachine.stepsMeet_cons _ commits).mpr ⟨rfl, ?_⟩
    iterate 2 refine (StateMachine.stepsMeet_cons _ rfl).mpr ⟨trivial, ?_⟩
    trivial
  · have applied : s.runtime .blocklist = storeOf u hash (rest.map Subtype.val) := by
      simp only [s, Function.update_self]
    simp only [applied, Function.update_self]
  · exact Db.setDomains_domains_self s.db .blocklist _

end Overflow

/-- `2 ^ 26 + 1` names, in order. -/
def wideNames (count : Nat) : List Str := Str.sort ((List.range count).map wideName)

theorem wide_wideNames {count : Nat} (small : count ≤ 2 ^ 27) : WideNames (wideNames count) where
  nodup := by
    rw [wideNames, Str.sort, (List.perm_insertionSort _ _).nodup_iff]
    refine (List.nodup_map_iff_inj_on List.nodup_range).mpr fun k mem k' mem' same => ?_
    exact wideName_injective (Nat.lt_of_lt_of_le (List.mem_range.mp mem) small)
      (Nat.lt_of_lt_of_le (List.mem_range.mp mem') small) same
  wide := by
    intro name mem
    obtain ⟨k, -, rfl⟩ := List.mem_map.mp (Str.mem_sort.mp mem)
    exact ⟨k, rfl⟩

theorem length_wideNames (count : Nat) : (wideNames count).length = count := by
  simp [wideNames, Str.sort]

/-- **The lists come apart at four gibibytes.**  Whatever the hash, there is a run
without a failing call after which the lock is free and the running blocklist
does not hold the entries that its table would load. -/
theorem not_lists_equal :
    ¬ ∃ (u : CaseTables) (hash : Bytes → UInt64), ∀ s acts, (listRequests u hash).init s →
      (∀ list, ∀ d ∈ (s.db.domains list).values, Canonical d) →
      (listRequests u hash).StepsMeet (fun _ a => Fair a) s acts →
      (listRequests u hash).Always (ListsEqual u hash) s acts := by
  rintro ⟨u, hash, equal⟩
  have wide := @wide_wideNames (2 ^ 26 + 1) (by decide)
  have size := length_wideNames (2 ^ 26 + 1)
  have sorted : (wideNames (2 ^ 26 + 1)).Pairwise Str.Before :=
    List.pairwise_insertionSort _ _
  generalize wideNames (2 ^ 26 + 1) = names at wide size sorted
  obtain ⟨first, rest, rfl⟩ := List.exists_cons_of_length_pos (l := names) (by
    rw [size]
    decide)
  rcases rest.eq_nil_or_concat' with rfl | ⟨middle, last, rfl⟩
  · cases size
  rw [List.length_cons, List.length_append, List.length_singleton] at size
  have canonical := wide.canonical
  obtain ⟨snapshot, texts⟩ : ∃ snapshot : List ListedDomain,
      snapshot.map Subtype.val = middle ++ [last] :=
    CanLift.prf (middle ++ [last]) fun d mem => canonical d (List.mem_cons_of_mem _ mem)
  obtain ⟨t, run, fair, free, runtime, table⟩ := exec_snapshotThenAdd u hash
    ⟨first, canonical first List.mem_cons_self⟩ snapshot
  rw [texts] at runtime table
  have rows : (t.db.domains .blocklist).values.Perm (first :: (middle ++ [last])) := by
    refine (List.perm_ext_iff_of_nodup (SqlTable.nodup_values _) wide.nodup).mpr fun d => ?_
    rw [table, SqlTable.mem_values_insertOrIgnore, Db.mem_applyDomains, List.mem_cons]
  have loaded : loadStoreFromDb u hash t.db .blocklist =
      storeOf u hash (first :: (middle ++ [last])) := by
    rw [loadStoreFromDb, Str.sort_eq_of_perm rows sorted]
  have canonical : ∀ list, ∀ d ∈ (({} : Server).db.domains list).values, Canonical d := by
    intro list d mem
    cases mem
  have same := (equal {} _ ⟨rfl, rfl, fun _ => rfl⟩ canonical fair).last run free .blocklist
    (.exact last)
  obtain ⟨found, lost⟩ := lost_by_order u hash wide (by omega)
  rw [runtime, loaded, found, lost] at same
  cases same

end RustBlocker
