import RustBlocker.ListLoading
import RustBlocker.ListWrites

/-!
# The text that is stored and the entry it stands for

A request to add a domain normalizes its text twice, once for the row of the table and once for
the entry of the runtime store, and gets the same text `n` both times.  A row is normalized
*again* whenever it is read: when the store is loaded at the next start, and when a deletion
removes the entry of the row. Normalizing lowers and takes away one full stop, so the second time
may take away another one.

`NormalizesAlike` is the property: after the request, and again after the deletion of the row it
was answered, the runtime store holds the entries of the store that would be loaded.  It holds
exactly in the states `ReadsBack` describes.

The runtime store is that of any history of operations, and the request begins in a state in which
it agrees with the table.  The texts of the table are arbitrary, and so is the lower case of
Unicode: that lowering twice is lowering once is not assumed, because it is not true of every
table of cases.

Two things can go wrong, and the condition has a field for each.  The row may be read as another
entry than the one that was inserted, unless both are there anyway; and another row may be read as
the same entry, which a deletion then takes from both.  A text that is no entry, being empty or
too long, does neither.
-/

namespace RustBlocker

section StoredText

variable (u : CaseTables) (hash : Bytes → UInt64)

/-- The store holds the entries of the one that is loaded from the table, as the next start would
load it. -/
def LoadedFrom (db : Db) (list : DomainList) (store : DomainStore) : Prop :=
  SameEntries hash store (loadStoreFromDb u hash db list)

/-- Adding the domain and deleting the row again both leave the runtime store as it would be
loaded.  The deletion is by the id that the add has answered. -/
structure NormalizesAlike (db : Db) (list : DomainList) (store : DomainStore) (domain : Str) :
    Prop where
  added : ∀ fails id added, addDomain u fails db list domain = .ok (id, added) →
    LoadedFrom u hash added list (store.insert u hash domain).1
  deleted : ∀ fails id added, addDomain u fails db list domain = .ok (id, added) →
    ∀ fails' order deleted text, deleteDomainById fails' added list id = (deleted, some text) →
      LoadedFrom u hash deleted list ((store.insert u hash domain).1.remove u hash text order)

/-- A row of the table is read as the text, or the text is of no use to a store. -/
def Present (stored : List Str) (text : Str) : Prop :=
  (entryOf text).Admissible → ∃ row ∈ stored, normalizeDomain u row = text

/-- **When the row of a domain is read back as the entry that was inserted.** -/
structure ReadsBack (stored : List Str) (domain : Str) : Prop where
  /-- The stored text is normalized already, or neither the entry the request inserts
  nor the one a load reads off the row is new. -/
  settled : normalizeDomain u (normalizeDomain u domain) = normalizeDomain u domain ∨
    Present u stored (normalizeDomain u domain) ∧
      Present u stored (normalizeDomain u (normalizeDomain u domain))
  /-- No other row is read as the same entry. -/
  alone : (entryOf (normalizeDomain u (normalizeDomain u domain))).Admissible →
    ∀ row ∈ stored, normalizeDomain u row = normalizeDomain u (normalizeDomain u domain) →
      row = normalizeDomain u domain

end StoredText

/-! ## Stores that stand for known sets

Two stores hold the same entries if they stand for the same sets, so the question is about sets:
the entries that were inserted and those that the rows are read as. -/

section Sets

variable {u : CaseTables} {hash : Bytes → UInt64}

/-- Two stores hold the same entries exactly if they stand for the same sets. -/
theorem Models.sameEntries_iff {store store' : DomainStore} {sets sets' : DomainSets}
    (models : Models hash store sets) (models' : Models hash store' sets') :
    SameEntries hash store store' ↔ sets = sets' := by
  constructor
  · intro same
    refine DomainSets.ext_mem fun e => ?_
    rw [← models.holdsEntry_iff e, ← models'.holdsEntry_iff e, same e]
  · rintro rfl
    exact models.sameEntries models'

/-- The entries depend on which texts are stored only. -/
theorem storedSets_congr {stored stored' : List Str} (same : ∀ d, d ∈ stored ↔ d ∈ stored') :
    storedSets u stored = storedSets u stored' := by
  refine DomainSets.ext_mem fun e => ?_
  simp only [mem_storedSets, same]

/-- The store the server loads at its start, of whatever texts. -/
theorem models_loadStoreFromDb_storedSets {db : Db} {list : DomainList}
    (room : (storedSets u (db.domains list).values).bytes < 2 ^ 32) :
    Models hash (loadStoreFromDb u hash db list) (storedSets u (db.domains list).values) := by
  have same : storedSets u (Str.sort (db.domains list).values) =
      storedSets u (db.domains list).values :=
    storedSets_congr fun d => Str.mem_sort
  have loaded := models_storeOf_storedSets u hash (same ▸ room)
  rwa [same] at loaded

/-- A text is present among the rows exactly if its entry is in the sets they are
loaded as. -/
theorem present_iff {stored : List Str} {text : Str} :
    Present u stored text ↔
      ((entryOf text).Admissible → entryOf text ∈ storedSets u stored) := by
  unfold Present
  refine forall_congr' fun ok => ?_
  rw [mem_storedSets]
  constructor
  · rintro ⟨row, mem, rfl⟩
    exact ⟨ok, row, mem, rfl⟩
  · rintro ⟨-, row, mem, same⟩
    exact ⟨row, mem, entryOf_injective same⟩

/-- Two entries added to the same sets give the same sets exactly if they are one
entry or neither of them is new. -/
theorem insert_eq_insert_iff {sets : DomainSets} {e e' : Entry} :
    sets.insert e = sets.insert e' ↔
      e = e' ∨ (e.Admissible → e ∈ sets) ∧ (e'.Admissible → e' ∈ sets) := by
  constructor
  · intro same
    by_cases one : e = e'
    · exact Or.inl one
    refine Or.inr ⟨fun ok => ?_, fun ok => ?_⟩
    · have mem : e ∈ sets.insert e' := same ▸ DomainSets.mem_insert.mpr (Or.inl ⟨rfl, ok⟩)
      rcases DomainSets.mem_insert.mp mem with ⟨h, -⟩ | old
      · exact absurd h one
      · exact old
    · have mem : e' ∈ sets.insert e := same ▸ DomainSets.mem_insert.mpr (Or.inl ⟨rfl, ok⟩)
      rcases DomainSets.mem_insert.mp mem with ⟨h, -⟩ | old
      · exact absurd h.symm one
      · exact old
  · rintro (rfl | ⟨old, old'⟩)
    · rfl
    · have kept : ∀ e : Entry, (e.Admissible → e ∈ sets) → sets.insert e = sets := by
        intro e old
        ext e'
        rw [DomainSets.mem_insert]
        constructor
        · rintro (⟨rfl, ok⟩ | mem)
          · exact old ok
          · exact mem
        · exact Or.inr
      rw [kept e old, kept e' old']

/-- One more row adds the entry it is read as. -/
theorem storedSets_cons (row : Str) (stored : List Str) :
    storedSets u (row :: stored) =
      (storedSets u stored).insert (entryOf (normalizeDomain u row)) := by
  ext e
  rw [mem_storedSets, DomainSets.mem_insert, mem_storedSets]
  simp only [List.mem_cons, exists_eq_or_imp]
  constructor
  · rintro ⟨ok, rfl | later⟩
    · exact Or.inl ⟨rfl, ok⟩
    · exact Or.inr ⟨ok, later⟩
  · rintro (⟨rfl, ok⟩ | ⟨ok, later⟩)
    · exact ⟨ok, Or.inl rfl⟩
    · exact ⟨ok, Or.inr later⟩

end Sets

/-! ## The two steps

The add and the deletion, each as an equivalence between the store that is there and the one that
would be loaded. -/

section Steps

variable {u : CaseTables} {hash : Bytes → UInt64} {db : Db} {list : DomainList}
  {store : DomainStore} {sets : DomainSets} {domain : Str}

/-- The row that was added is found under the id of the answer. -/
theorem addDomain_find? {fails : Plan AddDomainCall} {added : Db} {id : Nat}
    (ok : addDomain u fails db list domain = .ok (id, added)) :
    (added.domains list).find? id = some (normalizeDomain u domain) := by
  rw [← dbNormalize_eq]
  iterate 4 obtain ⟨-, ok⟩ := Plan.attempt_bind_eq_ok.mp ok
  split at ok
  · cases ok
  next selected =>
    iterate 2 obtain ⟨-, ok⟩ := Plan.attempt_bind_eq_ok.mp ok
    cases ok
    obtain ⟨v, found, held⟩ := SqlTable.find?_of_idOf? selected
    cases held
    exact found

/-- The rows after the domain was added. -/
theorem mem_addDomain {fails : Plan AddDomainCall} {added : Db} {id : Nat}
    (ok : addDomain u fails db list domain = .ok (id, added)) {row : Str} :
    row ∈ (added.domains list).values ↔
      row = normalizeDomain u domain ∨ row ∈ (db.domains list).values := by
  rw [addDomain_eq_ok ok]
  show row ∈ ((db.insertDomain list (normalizeDomain u domain)).domains list).values ↔ _
  rw [Db.mem_insertDomain]
  simp

/-- The rows after the row of the id was deleted. -/
theorem mem_deleteDomainById {fails : Plan DeleteDomainCall} {deleted : Db} {id : Nat}
    {text : Str} (ok : deleteDomainById fails db list id = (deleted, some text)) {row : Str} :
    row ∈ (deleted.domains list).values ↔ row ≠ text ∧ row ∈ (db.domains list).values := by
  obtain ⟨-, found, rfl⟩ := deleteDomainById_eq_some.mp ok
  show row ∈ ((db.setDomains list _).domains list).values ↔ _
  rw [Db.setDomains_domains_self]
  exact mem_deleteWhere_id found

/-- **Adding** leaves the store as it would be loaded exactly if the inserted entry is
the one the row is read as, or both are there already. -/
theorem loadedFrom_addDomain_iff
    (models : Models hash store (storedSets u (db.domains list).values))
    (bounded : store.arena.length < 2 ^ 32)
    (room : (storedSets u (normalizeDomain u domain :: (db.domains list).values)).bytes < 2 ^ 32)
    {fails : Plan AddDomainCall} {added : Db} {id : Nat}
    (ok : addDomain u fails db list domain = .ok (id, added)) :
    LoadedFrom u hash added list (store.insert u hash domain).1 ↔
      normalizeDomain u (normalizeDomain u domain) = normalizeDomain u domain ∨
        Present u (db.domains list).values (normalizeDomain u domain) ∧
          Present u (db.domains list).values
            (normalizeDomain u (normalizeDomain u domain)) := by
  have rows : storedSets u (added.domains list).values =
      (storedSets u (db.domains list).values).insert
        (entryOf (normalizeDomain u (normalizeDomain u domain))) := by
    rw [← storedSets_cons]
    exact storedSets_congr fun row => (mem_addDomain ok).trans List.mem_cons.symm
  have loaded : Models hash (loadStoreFromDb u hash added list)
      (storedSets u (added.domains list).values) :=
    models_loadStoreFromDb_storedSets (by rwa [rows, ← storedSets_cons])
  rw [rows] at loaded
  rw [LoadedFrom, (models.insert u bounded domain).1.sameEntries_iff loaded,
    insert_eq_insert_iff, present_iff, present_iff]
  refine or_congr_left ⟨fun same => (entryOf_injective same).symm, fun same => by rw [same]⟩

/-- **Deleting the row again** leaves the store as it would be loaded exactly if no
other row is read as the entry that is removed, and the entry that was inserted is the
one that is removed or belongs to another row. -/
theorem loadedFrom_deleteDomainById_iff
    (models : Models hash store (storedSets u (db.domains list).values))
    (bounded : (store.insert u hash domain).1.arena.length < 2 ^ 32)
    (short : store.arena.length < 2 ^ 32)
    (room : (storedSets u (db.domains list).values).bytes < 2 ^ 32)
    {fails : Plan AddDomainCall} {added : Db} {id : Nat}
    (ok : addDomain u fails db list domain = .ok (id, added))
    {fails' : Plan DeleteDomainCall} {deleted : Db} {text : Str} (order : BucketOrder)
    (ok' : deleteDomainById fails' added list id = (deleted, some text)) :
    LoadedFrom u hash deleted list ((store.insert u hash domain).1.remove u hash text order) ↔
      ((entryOf (normalizeDomain u (normalizeDomain u domain))).Admissible →
        ∀ row ∈ (db.domains list).values,
          normalizeDomain u row = normalizeDomain u (normalizeDomain u domain) →
            row = normalizeDomain u domain) ∧
        (normalizeDomain u (normalizeDomain u domain) = normalizeDomain u domain ∨
          Present u (db.domains list).values (normalizeDomain u domain)) := by
  obtain rfl : text = normalizeDomain u domain := by
    have found := (deleteDomainById_eq_some.mp ok').2.1
    rw [addDomain_find? ok] at found
    exact (Option.some.inj found).symm
  generalize twice : normalizeDomain u (normalizeDomain u domain) = again
  generalize once : normalizeDomain u domain = n at *
  have rows : ∀ row, row ∈ (deleted.domains list).values ↔
      row ≠ n ∧ row ∈ (db.domains list).values := by
    intro row
    rw [mem_deleteDomainById ok', mem_addDomain ok, once]
    tauto
  have loaded : Models hash (loadStoreFromDb u hash deleted list)
      (storedSets u (deleted.domains list).values) :=
    models_loadStoreFromDb_storedSets
      (Nat.lt_of_le_of_lt (bytes_storedSets_mono fun d mem => ((rows d).mp mem).2) room)
  have removed := ((models.insert u short domain).1.remove u bounded order n).1
  rw [once, twice] at removed
  rw [LoadedFrom, removed.sameEntries_iff loaded]
  have after : ∀ e, e ∈ storedSets u (deleted.domains list).values ↔ e.Admissible ∧
      ∃ row ∈ (db.domains list).values, row ≠ n ∧ entryOf (normalizeDomain u row) = e := by
    intro e
    rw [mem_storedSets]
    simp only [rows, and_assoc, and_left_comm]
  constructor
  · intro same
    refine ⟨fun ok row mem read => ?_, ?_⟩
    -- another row that is read as the removed entry would still be loaded
    · by_contra other
      have kept : entryOf again ∈ storedSets u (deleted.domains list).values :=
        (after _).mpr ⟨ok, row, mem, other, by rw [read]⟩
      rw [← same] at kept
      exact (DomainSets.mem_erase.mp kept).1 rfl
    · by_cases settled : again = n
      · exact Or.inl settled
      refine Or.inr fun ok => ?_
      -- what was inserted stays in the store, so some row must be loaded as it
      have kept : entryOf n ∈
          ((storedSets u (db.domains list).values).insert (entryOf n)).erase (entryOf again) :=
        DomainSets.mem_erase.mpr ⟨fun one => settled (entryOf_injective one).symm,
          DomainSets.mem_insert.mpr (Or.inl ⟨rfl, ok⟩)⟩
      rw [same] at kept
      obtain ⟨-, row, mem, -, read⟩ := (after _).mp kept
      exact ⟨row, mem, entryOf_injective read⟩
  · rintro ⟨alone, settled⟩
    -- entry by entry: what the store keeps is what another row is read as
    ext e
    rw [after, DomainSets.mem_erase, DomainSets.mem_insert, mem_storedSets]
    constructor
    · rintro ⟨differs, ⟨rfl, ok⟩ | ⟨ok, row, mem, rfl⟩⟩
      · rcases settled with rfl | present
        · exact absurd rfl differs
        · obtain ⟨row, mem, read⟩ := present ok
          refine ⟨ok, row, mem, ?_, by rw [read]⟩
          rintro rfl
          rw [twice] at read
          exact differs (by rw [read])
      · refine ⟨ok, row, mem, ?_, rfl⟩
        rintro rfl
        rw [twice] at differs
        exact differs rfl
    · rintro ⟨ok, row, mem, other, rfl⟩
      refine ⟨fun one => other ?_, Or.inr ⟨ok, row, mem, rfl⟩⟩
      rw [one] at ok
      exact alone ok row mem (entryOf_injective one)

end Steps

/-! ## Both steps

The two conditions together are `ReadsBack`.  Domains that the parser of lists has returned meet
it, and a text that ends in two full stops does not. -/

section Both

variable {u : CaseTables} {hash : Bytes → UInt64} {db : Db} {list : DomainList} {domain : Str}

/-- **The database and the store normalize alike exactly if the row is read back as the
entry that was inserted**, whatever the database calls and however the runtime store
was made, as long as no arena reaches `2 ^ 32` bytes. -/
theorem normalizesAlike_iff (before : History)
    (bounded : (History.insert before domain).Bounded u hash)
    (room : (storedSets u (normalizeDomain u domain :: (db.domains list).values)).bytes < 2 ^ 32)
    (equal : LoadedFrom u hash db list (before.store u hash)) :
    NormalizesAlike u hash db list (before.store u hash) domain ↔
      ReadsBack u (db.domains list).values domain := by
  have fewer : (storedSets u (db.domains list).values).bytes < 2 ^ 32 :=
    Nat.lt_of_le_of_lt (bytes_storedSets_mono fun d mem => List.mem_cons_of_mem _ mem) room
  have short := bounded.1.arena_length
  -- the runtime store stands for what is stored, since it holds what is loaded
  have models : Models hash (before.store u hash) (storedSets u (db.domains list).values) := by
    have known := History.models bounded.1
    have loaded : Models hash (loadStoreFromDb u hash db list)
        (storedSets u (db.domains list).values) := models_loadStoreFromDb_storedSets fewer
    rwa [← (known.sameEntries_iff loaded).mp equal]
  constructor
  · intro alike
    obtain ⟨id, ok⟩ := addDomain_clear u db list domain
    refine ⟨(loadedFrom_addDomain_iff models short room ok).mp (alike.added _ _ _ ok), ?_⟩
    have ok' := deleteDomainById_clear (addDomain_find? ok)
    exact ((loadedFrom_deleteDomainById_iff models bounded.2 short fewer ok
      (Reordering.reverse _) ok').mp (alike.deleted _ _ _ ok _ _ _ _ ok')).1
  · rintro ⟨settled, alone⟩
    refine ⟨fun fails id added ok => ?_, fun fails id added ok fails' order deleted text ok' => ?_⟩
    · exact (loadedFrom_addDomain_iff models short room ok).mpr settled
    · exact (loadedFrom_deleteDomainById_iff models bounded.2 short fewer ok order ok').mpr
        ⟨alone, settled.imp_right And.left⟩

/-- Domains as `parse_domain_line` gives them are read back. -/
theorem readsBack_of_canonical {stored : List Str} (rows : ∀ row ∈ stored, Canonical row)
    (canonical : Canonical domain) : ReadsBack u stored domain where
  settled := Or.inl (by rw [canonical.normalizeDomain, canonical.normalizeDomain])
  alone := by
    rintro - row mem same
    rw [(rows row mem).normalizeDomain] at same
    rw [same, canonical.normalizeDomain, canonical.normalizeDomain]

end Both

theorem normalizesAlike_iff_ads :
    NormalizesAlike .ascii (fun _ => 0) {} .blocklist (History.fresh.store .ascii fun _ => 0)
        "Ads.example.".toList ↔
      ReadsBack .ascii [] "Ads.example.".toList :=
  normalizesAlike_iff .fresh ⟨trivial, by decide⟩ (by decide) fun _ => rfl

/-- Two full stops: `a.` is inserted and stored, and the row is loaded as `a`. -/
theorem not_normalizesAlike_dots :
    LoadedFrom .ascii (fun _ => 0) {} .blocklist (History.fresh.store .ascii fun _ => 0) ∧
      ¬ NormalizesAlike .ascii (fun _ => 0) {} .blocklist (History.fresh.store .ascii fun _ => 0)
        "a..".toList := by
  refine ⟨fun _ => rfl, fun alike => ?_⟩
  obtain ⟨id, ok⟩ := addDomain_clear .ascii {} .blocklist "a..".toList
  have same := alike.added _ _ _ ok (.exact "a.".toList)
  revert same
  decide

end RustBlocker
