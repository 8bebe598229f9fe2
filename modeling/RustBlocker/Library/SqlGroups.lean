import Mathlib

/-!
# `GROUP BY` and its table

A query with `GROUP BY` gives a row for each key that occurs, in no particular order, and its
reader puts the rows into a table with a slot for each key from 0 on.

* `SqlGroups.table_groups`: a slot has the aggregate of the rows with its key, which is that of no
  rows where the key does not occur.
* `SqlGroups.sum_slots`: if every key has a slot, the slots together count every row once.

A key without a slot, one that is negative or too large, is dropped without a word, as code does
that writes to `table[key]` only where there is such an element.  So the second result needs every
key to have a slot, and it is there that the bounds on the keys have to come from.  The aggregate
is any function of the rows with a key; that it is applied to no rows for a slot that is not
written is how the table begins.
-/

universe u v

namespace SqlGroups

section Table

variable {α : Type u} {β : Type v} (key : α → Int) (aggregate : List α → β)

/-- The rows with a key. -/
def having (k : Int) (rows : List α) : List α := rows.filter fun row => key row = k

/-- `SELECT key, aggregate GROUP BY key` -/
def groups (rows : List α) : List (Int × β) :=
  (rows.map key).dedup.map fun k => (k, aggregate (having key k rows))

/-- Write a value into the slot of a key, if there is one. -/
def put (table : List β) (group : Int × β) : List β :=
  if 0 ≤ group.1 then table.set group.1.toNat group.2 else table

@[simp] theorem length_put (table : List β) (group : Int × β) :
    (put table group).length = table.length := by
  unfold put
  split
  · exact List.length_set
  · rfl

theorem length_foldl_put (groups : List (Int × β)) (table : List β) :
    (groups.foldl put table).length = table.length := by
  induction groups generalizing table with
  | nil => rfl
  | cons group rest ih => rw [List.foldl_cons, ih, length_put]

/-- A slot has the value of its key, or what it had before. -/
theorem getElem?_foldl_put {value : Int → β} {i : Nat} :
    ∀ (keys : List Int) {table : List β}, i < table.length →
      ((keys.map fun k => (k, value k)).foldl put table)[i]? =
        if (i : Int) ∈ keys then some (value i) else table[i]? := by
  intro keys
  induction keys with
  | nil =>
      intro table _
      simp
  | cons k rest ih =>
      intro table inside
      rw [List.map_cons, List.foldl_cons, ih (by rwa [length_put])]
      by_cases later : (i : Int) ∈ rest
      · rw [if_pos later, if_pos (List.mem_cons_of_mem _ later)]
      · rw [if_neg later]
        by_cases here : (i : Int) = k
        · subst here
          rw [if_pos List.mem_cons_self, put, if_pos (Int.natCast_nonneg i), Int.toNat_natCast,
            List.getElem?_set_self inside]
        · have other : (i : Int) ∉ k :: rest := by simp [here, later]
          rw [if_neg other]
          unfold put
          split
          next nonneg =>
            refine List.getElem?_set_ne fun same => here ?_
            have toNat : k.toNat = i := same
            omega
          next => rfl

/-- **The table of the groups** has in each slot the aggregate of the rows with its key. -/
theorem table_groups (slots : Nat) (rows : List α) :
    (groups key aggregate rows).foldl put (List.replicate slots (aggregate [])) =
      (List.range slots).map fun (i : Nat) => aggregate (having key (i : Int) rows) := by
  have lengths : ((groups key aggregate rows).foldl put
      (List.replicate slots (aggregate []))).length = slots := by
    rw [length_foldl_put, List.length_replicate]
  refine List.ext_getElem? fun i => ?_
  by_cases inside : i < slots
  · rw [List.getElem?_map, List.getElem?_range inside, Option.map_some, groups,
      getElem?_foldl_put _ (by rwa [List.length_replicate])]
    split
    next => rfl
    next absent =>
      -- no row has the key
      have empty : having key (i : Int) rows = [] := by
        refine List.filter_eq_nil_iff.mpr fun row mem same => absent ?_
        rw [List.mem_dedup, List.mem_map]
        exact ⟨row, mem, of_decide_eq_true same⟩
      rw [empty, List.getElem?_replicate_of_lt inside]
  · rw [List.getElem?_eq_none (by omega), List.getElem?_eq_none (by simpa using inside)]

/-- **The slots count every row once**, if each key has one. -/
theorem sum_slots {slots : Nat} (p : α → Bool) {rows : List α}
    (keys : ∀ row ∈ rows, 0 ≤ key row ∧ key row < slots) :
    ((List.range slots).map fun (i : Nat) => (having key (i : Int) rows).countP p).sum =
      rows.countP p := by
  induction rows with
  | nil => simp [having]
  | cons row rest ih =>
      have ⟨low, high⟩ := keys row List.mem_cons_self
      have each (i : Nat) : (having key (i : Int) (row :: rest)).countP p =
          (having key (i : Int) rest).countP p +
            if i = (key row).toNat then (if p row then 1 else 0) else 0 := by
        unfold having
        by_cases same : key row = i
        · have slot : i = (key row).toNat := by omega
          rw [List.filter_cons_of_pos (by simpa using same), List.countP_cons, if_pos slot]
        · have slot : i ≠ (key row).toNat := by omega
          rw [List.filter_cons_of_neg (by simpa using same), if_neg slot, Nat.add_zero]
      have only : ((List.range slots).map fun (i : Nat) =>
          if i = (key row).toNat then (if p row then 1 else 0) else 0).sum =
            if p row then 1 else 0 := by
        show (∑ i ∈ Finset.range slots,
          if i = (key row).toNat then (if p row then 1 else 0) else 0) = _
        rw [Finset.sum_ite_eq' (Finset.range slots), if_pos (Finset.mem_range.mpr (by omega))]
      rw [List.countP_cons, ← ih fun other mem => keys other (List.mem_cons_of_mem _ mem), ← only,
        ← List.sum_map_add]
      exact congrArg List.sum (List.map_congr_left fun i _ => each i)

end Table

end SqlGroups
