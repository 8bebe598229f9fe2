import RustBlocker.Library.SqlQuery

/-!
# `GROUP BY key ORDER BY COUNT(*) DESC LIMIT n`

The most frequent keys of some rows, with their counts.  The engine delivers the groups in an
order of its own, and so the keys of equal counts.

* `SqlTop.Tops` says what such a list is: exact counts that descend, and no key left out that
  occurs more often than one of the list.
* `SqlTop.tops_top`: whatever the order of the engine, the query gives such a list.
* `Tops.sum_le` and `Tops.sum_eq` compare the counts of the list with the number of rows.

There is in general more than one such list, because of equal counts at the limit, and the query
may return any of them and another one the next time.  So the specification is a predicate and not
a list, and a user proves what follows from it.  A limit that is negative is none, as in SQLite.
Rows whose key is NULL are a group of their own for SQLite; a user who has such rows leaves them
out of `rows` where the query does.
-/

universe u v

namespace SqlTop

/-- The order in which the engine delivers the groups of a query. -/
structure Engine where
  order : {β : Type} → List β → List β
  perm : ∀ {β : Type} (groups : List β), (order groups).Perm groups

section Groups

variable {α : Type u} {κ : Type} [DecidableEq κ] (key : α → κ)

/-- The number of rows with a key. -/
def count (rows : List α) (k : κ) : Nat := rows.countP fun row => key row = k

/-- `SELECT key, COUNT(*) GROUP BY key` -/
def counts (rows : List α) : List (κ × Nat) :=
  (rows.map key).dedup.map fun k => (k, count key rows k)

/-- `ORDER BY COUNT(*) DESC` -/
def descending {β : Type} (count : β → Nat) (groups : List β) : List β :=
  groups.mergeSort fun a b => count b ≤ count a

/-- The groups with the largest counts. -/
def top (engine : Engine) (limit : Int) (rows : List α) : List (κ × Nat) :=
  SqlQuery.page limit 0 (descending Prod.snd (engine.order (counts key rows)))

/-- **The most frequent keys**, as many as there are up to the limit. -/
structure Tops (limit : Int) (rows : List α) (listed : List (κ × Nat)) : Prop where
  exact : ∀ group ∈ listed, group.2 = count key rows group.1 ∧ 0 < group.2
  nodup : (listed.map Prod.fst).Nodup
  sorted : listed.Pairwise fun a b => b.2 ≤ a.2
  length : listed.length =
    if limit < 0 then (rows.map key).dedup.length
    else min limit.toNat (rows.map key).dedup.length
  /-- A key that is not listed occurs at most as often as each that is. -/
  best : ∀ row ∈ rows, key row ∈ listed.map Prod.fst ∨
    ∀ group ∈ listed, count key rows (key row) ≤ group.2

end Groups

section Descending

variable {β : Type} {count : β → Nat} {groups : List β}

theorem perm_descending : (descending count groups).Perm groups := List.mergeSort_perm ..

theorem pairwise_descending :
    (descending count groups).Pairwise fun a b => count b ≤ count a := by
  have sorted : (descending count groups).Pairwise fun a b => decide (count b ≤ count a) := by
    refine List.pairwise_mergeSort (fun a b c first second => ?_) (fun a b => ?_) groups
    · have here : count b ≤ count a := of_decide_eq_true first
      have there : count c ≤ count b := of_decide_eq_true second
      exact decide_eq_true (there.trans here)
    · have total := le_total (count b) (count a)
      simpa using total
  exact sorted.imp fun order => of_decide_eq_true order

end Descending

section Top

variable {α : Type u} {κ : Type} [DecidableEq κ] {key : α → κ} {rows : List α}

theorem mem_counts {group : κ × Nat} :
    group ∈ counts key rows ↔ (∃ row ∈ rows, key row = group.1) ∧
      group.2 = count key rows group.1 := by
  simp only [counts, List.mem_map, List.mem_dedup]
  constructor
  · rintro ⟨k, ⟨row, mem, rfl⟩, rfl⟩
    exact ⟨⟨row, mem, rfl⟩, rfl⟩
  · rintro ⟨⟨row, mem, here⟩, same⟩
    exact ⟨group.1, ⟨row, mem, here⟩, by rw [← same]⟩

theorem keys_counts : (counts key rows).map Prod.fst = (rows.map key).dedup := by
  simp [counts, Function.comp_def]

/-- The first of a list that descends are at least as large as the others. -/
theorem le_of_mem_take {β : Type} {count : β → Nat} {groups : List β} {n : Nat}
    (sorted : groups.Pairwise fun a b => count b ≤ count a) {a b : β} (first : a ∈ groups.take n)
    (later : b ∈ groups.drop n) : count b ≤ count a := by
  rw [← List.take_append_drop n groups] at sorted
  exact (List.pairwise_append.mp sorted).2.2 a first b later

/-- **The query gives the most frequent keys**, in every order of the engine. -/
theorem tops_top (engine : Engine) (limit : Int) (rows : List α) :
    Tops key limit rows (top key engine limit rows) := by
  have perm : (descending Prod.snd (engine.order (counts key rows))).Perm (counts key rows) :=
    perm_descending.trans (engine.perm _)
  have sorted : (descending Prod.snd (engine.order (counts key rows))).Pairwise
      fun a b => b.2 ≤ a.2 := pairwise_descending
  obtain ⟨n, page⟩ : ∃ n, top key engine limit rows =
      (descending Prod.snd (engine.order (counts key rows))).take n ∧
        (n = if limit < 0 then (rows.map key).dedup.length else limit.toNat) := by
    refine ⟨_, ?_, rfl⟩
    unfold top SqlQuery.page
    split
    · rw [List.take_of_length_le]
      · rfl
      · rw [perm.length_eq, counts, List.length_map]
    · rfl
  rw [page.1]
  have part := List.take_sublist n (descending Prod.snd (engine.order (counts key rows)))
  have from_counts : ∀ group ∈ (descending Prod.snd (engine.order (counts key rows))).take n,
      group ∈ counts key rows := fun group mem => perm.mem_iff.mp (part.subset mem)
  refine
    { exact := ?_
      nodup := ?_
      sorted := sorted.sublist part
      length := ?_
      best := ?_ }
  · intro group mem
    obtain ⟨⟨row, inside, here⟩, same⟩ := mem_counts.mp (from_counts group mem)
    refine ⟨same, ?_⟩
    rw [same]
    exact List.countP_pos_iff.mpr ⟨row, inside, by simpa using here⟩
  · have distinct :
        ((descending Prod.snd (engine.order (counts key rows))).map Prod.fst).Nodup := by
      rw [(perm.map Prod.fst).nodup_iff, keys_counts]
      exact List.nodup_dedup _
    exact distinct.sublist (part.map Prod.fst)
  · rw [List.length_take, perm.length_eq, counts, List.length_map, page.2]
    split
    · exact min_self _
    · rfl
  · intro row mem
    have group : (key row, count key rows (key row)) ∈ counts key rows :=
      mem_counts.mpr ⟨⟨row, mem, rfl⟩, rfl⟩
    have inside := perm.mem_iff.mpr group
    rw [← List.take_append_drop n (descending Prod.snd (engine.order (counts key rows))),
      List.mem_append] at inside
    rcases inside with listed | beyond
    · exact Or.inl (List.mem_map_of_mem listed)
    · exact Or.inr fun group' listed => le_of_mem_take sorted listed beyond

theorem sum_counts : ((counts key rows).map Prod.snd).sum = rows.length := by
  have sum := List.sum_map_count_dedup_eq_length (rows.map key)
  rw [List.length_map] at sum
  rw [← sum, counts, List.map_map]
  refine congrArg List.sum (List.map_congr_left fun k _ => ?_)
  rw [List.count_eq_countP, List.countP_map]
  refine List.countP_congr fun row _ => ?_
  simp

namespace Tops

variable {limit : Int} {listed : List (κ × Nat)}

/-- What is listed is part of the groups. -/
theorem subperm (tops : Tops key limit rows listed) : listed.Subperm (counts key rows) := by
  refine List.subperm_of_subset (List.Nodup.of_map _ tops.nodup) fun group mem => ?_
  obtain ⟨same, pos⟩ := tops.exact group mem
  rw [mem_counts]
  refine ⟨?_, same⟩
  rw [same] at pos
  obtain ⟨row, inside, here⟩ := List.countP_pos_iff.mp pos
  exact ⟨row, inside, of_decide_eq_true here⟩

/-- The listed counts are of different rows. -/
theorem sum_le (tops : Tops key limit rows listed) : (listed.map Prod.snd).sum ≤ rows.length := by
  obtain ⟨part, perm, sublist⟩ := tops.subperm
  have whole : ((counts key rows).map Prod.snd).sum = rows.length := sum_counts
  rw [← whole, ← (perm.map Prod.snd).sum_eq]
  exact (sublist.map Prod.snd).sum_le_sum fun _ _ => Nat.zero_le _

/-- With room for every key the list has all groups. -/
theorem perm_counts (tops : Tops key limit rows listed)
    (room : limit < 0 ∨ (rows.map key).dedup.length ≤ limit.toNat) :
    listed.Perm (counts key rows) := by
  refine tops.subperm.perm_of_length_le ?_
  rw [tops.length, counts, List.length_map]
  split
  · exact le_refl _
  · exact le_min (room.resolve_left ‹_›) (le_refl _)

/-- Then the counts are of all rows. -/
theorem sum_eq (tops : Tops key limit rows listed)
    (room : limit < 0 ∨ (rows.map key).dedup.length ≤ limit.toNat) :
    (listed.map Prod.snd).sum = rows.length := by
  have whole : ((counts key rows).map Prod.snd).sum = rows.length := sum_counts
  rw [← whole, ((tops.perm_counts room).map Prod.snd).sum_eq]

end Tops

end Top

end SqlTop
