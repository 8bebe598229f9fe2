import Mathlib

/-!
# Tables with an auto-incremented id

A table is a list of rows in the order of their ids.  Ids are handed out by `AUTOINCREMENT`: the
next one is one more than the largest ever handed out, so an id is never given twice, even after
its row is gone, and none is zero.  An insert that is ignored because its row clashes has drawn
its id already, and that id is lost.  A column may be `UNIQUE`; `key` reads it off a row, and is
`none` where the table has no such column.

The constraints are fields of the structure, so a table that violates one cannot be built, and
each operation below proves that it keeps them.  A user reasons about `values`, the rows without
their ids, and about `find?`, the row of an id.

## Design notes

* **One unique column** at most.  A table with a unique pair has the pair as its key.
* **Failures** of a statement are not here.  An operation is the statement when it succeeds; that
  it may fail, and leave the table as it was, is for the caller, who knows which statement it is.
* **Ids are natural numbers** and do not end.  SQLite stops at `2 ^ 63 - 1` with an error, after
  more inserts than a disk has room for.
* **The order of rows** is that of the ids, which is the order in which SQLite scans such a table.
  A query without `ORDER BY` may rely on no order, and its model should not either.
-/

universe u v

/-- A table of rows of type `ν` whose unique column, if any, has type `κ`. -/
structure SqlTable (ν : Type u) (κ : Type v) (key : ν → Option κ) where
  /-- The rows with their ids, oldest first. -/
  rows : List (Nat × ν)
  /-- The largest id ever handed out. -/
  seq : Nat
  /-- `PRIMARY KEY` -/
  ids_nodup : (rows.map Prod.fst).Nodup
  /-- `AUTOINCREMENT` -/
  ids_le : ∀ row ∈ rows, row.1 ≤ seq
  /-- The first id is one. -/
  ids_pos : ∀ row ∈ rows, 0 < row.1
  /-- `UNIQUE` -/
  unique : rows.Pairwise fun row row' => ∀ k, key row.2 = some k → key row'.2 ≠ some k

namespace SqlTable

variable {ν : Type u} {κ : Type v} {key : ν → Option κ}

/-- The rows without their ids, in the order of the ids.  Most of what is said of a table is said
of these. -/
def values (t : SqlTable ν κ key) : List ν := t.rows.map Prod.snd

/-- The row with the given id. -/
def find? (t : SqlTable ν κ key) (id : Nat) : Option ν :=
  (t.rows.find? fun row => row.1 == id).map Prod.snd

/-- The table without rows. -/
def empty : SqlTable ν κ key where
  rows := []
  seq := 0
  ids_nodup := List.nodup_nil
  ids_le := by simp
  ids_pos := by simp
  unique := List.Pairwise.nil

/-- `DELETE ... WHERE`: drop the rows that satisfy `p`.  The counter stays, so that no id of a
deleted row is given again. -/
def deleteWhere (t : SqlTable ν κ key) (p : Nat × ν → Bool) : SqlTable ν κ key where
  rows := t.rows.filter fun row => !p row
  seq := t.seq
  ids_nodup := (List.filter_sublist.map _).nodup t.ids_nodup
  ids_le := fun row mem => t.ids_le row (List.mem_filter.mp mem).1
  ids_pos := fun row mem => t.ids_pos row (List.mem_filter.mp mem).1
  unique := t.unique.filter _

/-- `DELETE` without a condition; the ids go on from where they were. -/
def deleteAll (t : SqlTable ν κ key) : SqlTable ν κ key where
  rows := []
  seq := t.seq
  ids_nodup := List.nodup_nil
  ids_le := by simp
  ids_pos := by simp
  unique := List.Pairwise.nil

/-- `DELETE FROM sqlite_sequence`: the next id is one more than the largest of the rows. -/
def resetSeq (t : SqlTable ν κ key) : SqlTable ν κ key where
  rows := t.rows
  seq := ((t.rows.map Prod.fst).max?).getD 0
  ids_nodup := t.ids_nodup
  ids_le := by
    intro row mem
    have inside : row.1 ∈ t.rows.map Prod.fst := List.mem_map_of_mem mem
    obtain ⟨largest, same⟩ := Option.isSome_iff_exists.mp
      (List.isSome_max?_of_mem inside)
    rw [same, Option.getD_some]
    exact (List.max?_eq_some_iff.mp same).2 _ inside
  ids_pos := t.ids_pos
  unique := t.unique

/-- `UPDATE ... WHERE id = ?` of columns other than the unique one.  That the unique one stays is
an argument, since without it the table could come to clash. -/
def update (t : SqlTable ν κ key) (id : Nat) (f : ν → ν) (keyed : ∀ v, key (f v) = key v) :
    SqlTable ν κ key where
  rows := t.rows.map fun row => if row.1 = id then (row.1, f row.2) else row
  seq := t.seq
  ids_nodup := by
    have same : (t.rows.map fun row => if row.1 = id then (row.1, f row.2) else row).map
        Prod.fst = t.rows.map Prod.fst := by
      rw [List.map_map]
      refine List.map_congr_left fun row _ => ?_
      simp only [Function.comp_apply]
      split <;> rfl
    rw [same]
    exact t.ids_nodup
  ids_le := by
    intro row mem
    obtain ⟨old, inside, rfl⟩ := List.mem_map.mp mem
    have bounded := t.ids_le old inside
    split <;> exact bounded
  ids_pos := by
    intro row mem
    obtain ⟨old, inside, rfl⟩ := List.mem_map.mp mem
    have positive := t.ids_pos old inside
    split <;> exact positive
  unique := by
    have same : ∀ row : Nat × ν,
        key (if row.1 = id then (row.1, f row.2) else row).2 = key row.2 := by
      intro row
      split
      · exact keyed row.2
      · rfl
    refine List.pairwise_map.mpr (t.unique.imp fun {row row'} apart k held => ?_)
    rw [same] at held ⊢
    exact apart k held

variable [DecidableEq κ]

/-- Whether a row has the unique value of `v`. -/
def clashes (t : SqlTable ν κ key) (v : ν) : Bool :=
  t.rows.any fun row => (key row.2).isSome && key row.2 == key v

theorem clashes_eq_true {t : SqlTable ν κ key} {v : ν} :
    t.clashes v = true ↔ ∃ v' ∈ t.values, ∃ k, key v' = some k ∧ key v = some k := by
  simp only [clashes, List.any_eq_true, Bool.and_eq_true, Option.isSome_iff_exists,
    beq_iff_eq, values, List.mem_map]
  constructor
  · rintro ⟨row, mem, ⟨k, held⟩, same⟩
    exact ⟨row.2, ⟨row, mem, rfl⟩, k, held, by rw [← same, held]⟩
  · rintro ⟨_, ⟨row, mem, rfl⟩, k, held, same⟩
    exact ⟨row, mem, ⟨k, held⟩, by rw [held, same]⟩

/-- `INSERT`: a new row with the next id; fails if the unique column clashes. -/
def insert (t : SqlTable ν κ key) (v : ν) : Option (SqlTable ν κ key) :=
  if fresh : t.clashes v = false then
    some
      { rows := t.rows ++ [(t.seq + 1, v)]
        seq := t.seq + 1
        ids_nodup := by
          rw [List.map_append, List.map_singleton, List.nodup_append]
          refine ⟨t.ids_nodup, List.nodup_singleton _, ?_⟩
          intro id old id' new
          obtain ⟨row, mem, rfl⟩ := List.mem_map.mp old
          rw [List.mem_singleton.mp new]
          exact Nat.ne_of_lt (Nat.lt_succ_of_le (t.ids_le row mem))
        ids_le := by
          intro row mem
          rcases List.mem_append.mp mem with old | new
          · exact Nat.le_succ_of_le (t.ids_le row old)
          · exact Nat.le_of_eq (congrArg Prod.fst (List.mem_singleton.mp new))
        ids_pos := by
          intro row mem
          rcases List.mem_append.mp mem with old | new
          · exact t.ids_pos row old
          · rw [congrArg Prod.fst (List.mem_singleton.mp new)]
            exact Nat.succ_pos t.seq
        unique := by
          refine List.pairwise_append.mpr ⟨t.unique, List.pairwise_singleton _ _, ?_⟩
          intro row mem row' new k held clash
          rw [List.mem_singleton.mp new] at clash
          rw [Bool.eq_false_iff] at fresh
          exact fresh (clashes_eq_true.mpr
            ⟨row.2, List.mem_map_of_mem mem, k, held, clash⟩) }
  else none

/-- `SELECT id ... WHERE` the unique column has the given value.  There is at most one such row. -/
def idOf? (t : SqlTable ν κ key) (k : κ) : Option Nat :=
  (t.rows.find? fun row => key row.2 == some k).map Prod.fst

omit [DecidableEq κ] in
/-- An id that is drawn and given to no row. -/
def skipId (t : SqlTable ν κ key) : SqlTable ν κ key where
  rows := t.rows
  seq := t.seq + 1
  ids_nodup := t.ids_nodup
  ids_le := fun row mem => Nat.le_succ_of_le (t.ids_le row mem)
  ids_pos := t.ids_pos
  unique := t.unique

/-- `INSERT OR IGNORE`: a row that clashes does not go in.  Its id is drawn before the clash is
found, so the ids go on after it. -/
def insertOrIgnore (t : SqlTable ν κ key) (v : ν) : SqlTable ν κ key :=
  (t.insert v).getD t.skipId

/-! ## The rows after an operation

One lemma for each operation and each way of looking at a table: its values, the row of an id, and
whether a value is in it. -/

omit [DecidableEq κ] in
@[simp] theorem values_empty : (empty : SqlTable ν κ key).values = [] := rfl

omit [DecidableEq κ] in
@[simp] theorem values_deleteAll (t : SqlTable ν κ key) : t.deleteAll.values = [] := rfl

theorem insert_eq_none {t : SqlTable ν κ key} {v : ν} :
    t.insert v = none ↔ t.clashes v = true := by
  unfold insert
  split
  next fresh => simp [fresh]
  next clash => simpa using clash

/-- A row that does not clash can be inserted. -/
theorem exists_insert {t : SqlTable ν κ key} {v : ν} (fresh : t.clashes v = false) :
    ∃ t', t.insert v = some t' :=
  Option.ne_none_iff_exists'.mp fun refused => by
    rw [insert_eq_none, fresh] at refused
    cases refused

/-- A successful insert appends one row. -/
theorem insert_eq_some {t t' : SqlTable ν κ key} {v : ν} (h : t.insert v = some t') :
    t.clashes v = false ∧ t'.rows = t.rows ++ [(t.seq + 1, v)] ∧ t'.seq = t.seq + 1 := by
  unfold insert at h
  split at h
  next fresh =>
    cases h
    exact ⟨fresh, rfl, rfl⟩
  next => cases h

theorem values_insert {t t' : SqlTable ν κ key} {v : ν} (h : t.insert v = some t') :
    t'.values = t.values ++ [v] := by
  rw [values, (insert_eq_some h).2.1, List.map_append]
  rfl

omit [DecidableEq κ] in
@[simp] theorem rows_skipId (t : SqlTable ν κ key) : t.skipId.rows = t.rows := rfl

omit [DecidableEq κ] in
@[simp] theorem values_skipId (t : SqlTable ν κ key) : t.skipId.values = t.values := rfl

omit [DecidableEq κ] in
@[simp] theorem find?_skipId (t : SqlTable ν κ key) (id : Nat) : t.skipId.find? id = t.find? id :=
  rfl

theorem insertOrIgnore_of_clashes {t : SqlTable ν κ key} {v : ν}
    (clash : t.clashes v = true) : t.insertOrIgnore v = t.skipId := by
  rw [insertOrIgnore, insert_eq_none.mpr clash, Option.getD_none]

theorem values_insertOrIgnore_of_not_clashes {t : SqlTable ν κ key} {v : ν}
    (fresh : t.clashes v = false) : (t.insertOrIgnore v).values = t.values ++ [v] := by
  obtain ⟨t', inserted⟩ := exists_insert fresh
  rw [insertOrIgnore, inserted, Option.getD_some, values_insert inserted]

omit [DecidableEq κ] in
theorem mem_values_deleteWhere {t : SqlTable ν κ key} {p : Nat × ν → Bool} {v : ν} :
    v ∈ (t.deleteWhere p).values ↔ ∃ id, (id, v) ∈ t.rows ∧ p (id, v) = false := by
  simp only [values, deleteWhere, List.mem_map, List.mem_filter, Bool.not_eq_true',
    Prod.exists, exists_eq_right]

omit [DecidableEq κ] in
theorem mem_values {t : SqlTable ν κ key} {v : ν} :
    v ∈ t.values ↔ ∃ id, (id, v) ∈ t.rows := by
  simp [values]

omit [DecidableEq κ] in
/-- The row of an id is the one row that has it. -/
theorem find?_eq_some {t : SqlTable ν κ key} {id : Nat} {v : ν} :
    t.find? id = some v ↔ (id, v) ∈ t.rows := by
  simp only [find?, Option.map_eq_some_iff, Prod.exists, exists_eq_right]
  constructor
  · rintro ⟨id', found⟩
    have same : id' = id := by simpa using List.find?_some found
    rw [← same]
    exact List.mem_of_find?_eq_some found
  · intro mem
    obtain ⟨row, found⟩ : ∃ row, t.rows.find? (fun row => row.1 == id) = some row := by
      rw [← Option.isSome_iff_exists, List.find?_isSome]
      exact ⟨(id, v), mem, by simp⟩
    have same : row.1 = id := by simpa using List.find?_some found
    have inside := List.mem_of_find?_eq_some found
    have equal := List.inj_on_of_nodup_map t.ids_nodup inside mem same
    exact ⟨id, by rw [found, equal]⟩

omit [DecidableEq κ] in
theorem find?_isSome {t : SqlTable ν κ key} {id : Nat} :
    (t.find? id).isSome ↔ id ∈ t.rows.map Prod.fst := by
  rw [Option.isSome_iff_exists, List.mem_map]
  constructor
  · rintro ⟨v, found⟩
    exact ⟨(id, v), find?_eq_some.mp found, rfl⟩
  · rintro ⟨⟨_, v⟩, mem, rfl⟩
    exact ⟨v, find?_eq_some.mpr mem⟩

omit [DecidableEq κ] in
@[simp] theorem find?_update {t : SqlTable ν κ key} {id id' : Nat} {f : ν → ν}
    {keyed : ∀ v, key (f v) = key v} :
    (t.update id f keyed).find? id' =
      (t.find? id').map fun v => if id' = id then f v else v := by
  ext v
  simp only [find?_eq_some, Option.map_eq_some_iff, update, List.mem_map, Prod.exists]
  constructor
  · rintro ⟨i, w, mem, same⟩
    split at same
    next here =>
      cases same
      exact ⟨w, mem, by rw [if_pos here]⟩
    next elsewhere =>
      cases same
      exact ⟨v, mem, if_neg elsewhere⟩
  · rintro ⟨w, mem, rfl⟩
    refine ⟨id', w, mem, ?_⟩
    split <;> rfl

omit [DecidableEq κ] in
/-- A row that was deleted is not found. -/
theorem find?_deleteWhere_id {t : SqlTable ν κ key} {id : Nat} :
    (t.deleteWhere fun row => row.1 == id).find? id = none := by
  rw [Option.eq_none_iff_forall_ne_some]
  intro v found
  have kept := (List.mem_filter.mp (find?_eq_some.mp found)).2
  simp at kept

omit [DecidableEq κ] in
/-- No row has the id zero. -/
theorem find?_zero (t : SqlTable ν κ key) : t.find? 0 = none := by
  rw [Option.eq_none_iff_forall_ne_some]
  intro v found
  exact Nat.lt_irrefl 0 (t.ids_pos _ (find?_eq_some.mp found))

/-! ## Rows by their unique column -/

omit [DecidableEq κ] in
/-- Two rows with the same unique value are one. -/
theorem row_eq_of_key {t : SqlTable ν κ key} {row row' : Nat × ν} {k : κ} (here : row ∈ t.rows)
    (there : row' ∈ t.rows) (held : key row.2 = some k) (held' : key row'.2 = some k) :
    row = row' := by
  have apart : t.rows.Pairwise fun r r' => ¬ (key r.2 = some k ∧ key r'.2 = some k) :=
    t.unique.imp fun distinct both => distinct k both.1 both.2
  have symmetric : Std.Symm fun r r' : Nat × ν => ¬ (key r.2 = some k ∧ key r'.2 = some k) :=
    ⟨fun _ _ distinct both => distinct ⟨both.2, both.1⟩⟩
  by_contra differ
  exact apart.forall here there differ ⟨held, held'⟩

omit [DecidableEq κ] in
/-- Two values with the same unique value are one. -/
theorem eq_of_key {t : SqlTable ν κ key} {v w : ν} {k : κ} (here : v ∈ t.values)
    (there : w ∈ t.values) (held : key v = some k) (held' : key w = some k) : v = w := by
  obtain ⟨id, row⟩ := mem_values.mp here
  obtain ⟨id', row'⟩ := mem_values.mp there
  exact congrArg Prod.snd (row_eq_of_key row row' held held')

/-- A stored value of the unique column has an id. -/
theorem idOf?_isSome {t : SqlTable ν κ key} {v : ν} {k : κ} (mem : v ∈ t.values)
    (held : key v = some k) : (t.idOf? k).isSome := by
  obtain ⟨id, row⟩ := mem_values.mp mem
  rw [idOf?, Option.isSome_map, List.find?_isSome]
  exact ⟨(id, v), row, by simp [held]⟩

/-- The id of a value is the id of the row that has it. -/
theorem find?_of_idOf? {t : SqlTable ν κ key} {k : κ} {id : Nat}
    (selected : t.idOf? k = some id) : ∃ v, t.find? id = some v ∧ key v = some k := by
  obtain ⟨⟨_, v⟩, found, rfl⟩ := Option.map_eq_some_iff.mp selected
  have held : key v = some k := by simpa using List.find?_some found
  exact ⟨v, find?_eq_some.mpr (List.mem_of_find?_eq_some found), held⟩

/-! ## Tables with a full unique column

Every value has a unique value here, so that the rows are known by it. -/

section Full

variable {t : SqlTable ν κ key} {f : ν → κ} {id : Nat} {k : κ}

/-- The id of a unique value is the one of the row that has it. -/
theorem idOf?_eq_some_iff (keyed : ∀ v, key v = some (f v)) :
    t.idOf? k = some id ↔ (id, k) ∈ t.rows.map fun row => (row.1, f row.2) := by
  rw [List.mem_map]
  constructor
  · intro selected
    obtain ⟨v, found, held⟩ := find?_of_idOf? selected
    rw [keyed] at held
    exact ⟨(id, v), find?_eq_some.mp found, by rw [← Option.some.inj held]⟩
  · rintro ⟨⟨id, v⟩, mem, same⟩
    cases same
    have held := keyed v
    obtain ⟨id', selected⟩ := Option.isSome_iff_exists.mp
      (idOf?_isSome (mem_values.mpr ⟨id, mem⟩) held)
    obtain ⟨v', found, held'⟩ := find?_of_idOf? selected
    have one := row_eq_of_key (find?_eq_some.mp found) mem held' held
    rw [selected]
    exact congrArg (fun row => some row.1) one

omit [DecidableEq κ] in
/-- **A delete by the id of a row takes the row of its unique value**, and no other. -/
theorem mem_rows_deleteWhere_id (keyed : ∀ v, key v = some (f v))
    (here : (id, k) ∈ t.rows.map fun row => (row.1, f row.2)) (row : Nat × κ) :
    row ∈ (t.deleteWhere fun row => row.1 == id).rows.map (fun row => (row.1, f row.2)) ↔
      row ∈ t.rows.map (fun row => (row.1, f row.2)) ∧ row.2 ≠ k := by
  obtain ⟨⟨id, v⟩, mem, same⟩ := List.mem_map.mp here
  cases same
  simp only [deleteWhere, List.mem_map, List.mem_filter, Bool.not_eq_true',
    beq_eq_false_iff_ne]
  constructor
  · rintro ⟨row, ⟨inside, other⟩, rfl⟩
    refine ⟨⟨row, inside, rfl⟩, fun same => other ?_⟩
    have held : key row.2 = some (f v) := (keyed row.2).trans (congrArg some same)
    exact congrArg Prod.fst (row_eq_of_key inside mem held (keyed v))
  · rintro ⟨⟨row, inside, rfl⟩, other⟩
    refine ⟨row, ⟨inside, fun same => other ?_⟩, rfl⟩
    rw [List.inj_on_of_nodup_map t.ids_nodup inside mem same]

end Full

/-! ## Tables of one unique column -/

/-- In a table whose rows are their own unique column, `INSERT OR IGNORE` adds
the value. -/
theorem mem_values_insertOrIgnore {t : SqlTable κ κ some} {v v' : κ} :
    v' ∈ (t.insertOrIgnore v).values ↔ v' = v ∨ v' ∈ t.values := by
  cases present : t.clashes v with
  | true =>
      obtain ⟨w, mem, k, here, there⟩ := clashes_eq_true.mp present
      cases here
      cases there
      rw [insertOrIgnore_of_clashes present, values_skipId]
      constructor
      · exact Or.inr
      · rintro (rfl | old)
        · exact mem
        · exact old
  | false =>
      rw [values_insertOrIgnore_of_not_clashes present, List.mem_append,
        List.mem_singleton, or_comm]

omit [DecidableEq κ] in
theorem nodup_values (t : SqlTable κ κ some) : t.values.Nodup := by
  refine List.pairwise_map.mpr (t.unique.imp ?_)
  intro row row' apart same
  exact apart row.2 rfl (by rw [same])

/-! ## Replacing a row

`INSERT OR REPLACE` deletes what is in the way and inserts, under a new id.  Seen by its unique
column, the table is a map, and this is its update. -/

section Replacing

variable {t : SqlTable ν κ key} {v w : ν} {k : κ}

/-- `INSERT OR REPLACE`: the rows that clash are deleted first, so that the new row has a new
id. -/
def insertOrReplace (t : SqlTable ν κ key) (v : ν) : SqlTable ν κ key :=
  (t.deleteWhere fun row => (key row.2).isSome && key row.2 == key v).insertOrIgnore v

theorem rows_insertOrIgnore_of_not_clashes {t : SqlTable ν κ key} {v : ν}
    (fresh : t.clashes v = false) : (t.insertOrIgnore v).rows = t.rows ++ [(t.seq + 1, v)] := by
  obtain ⟨t', inserted⟩ := exists_insert fresh
  rw [insertOrIgnore, inserted, Option.getD_some, (insert_eq_some inserted).2.1]

/-- The rows that do not clash are kept, and the new one comes last. -/
theorem rows_insertOrReplace (t : SqlTable ν κ key) (v : ν) :
    (t.insertOrReplace v).rows =
      (t.rows.filter fun row => !((key row.2).isSome && key row.2 == key v)) ++
        [(t.seq + 1, v)] := by
  refine rows_insertOrIgnore_of_not_clashes (Bool.eq_false_iff.mpr fun clash => ?_)
  obtain ⟨row, mem, held⟩ := List.any_eq_true.mp clash
  have kept := (List.mem_filter.mp mem).2
  simp [held] at kept

/-- The row of a unique value. -/
def lookup (t : SqlTable ν κ key) (k : κ) : Option ν :=
  (t.rows.find? fun row => key row.2 == some k).map Prod.snd

theorem lookup_eq_some {t : SqlTable ν κ key} {k : κ} {v : ν} :
    t.lookup k = some v ↔ v ∈ t.values ∧ key v = some k := by
  constructor
  · intro found
    obtain ⟨row, here, rfl⟩ := Option.map_eq_some_iff.mp found
    have held : key row.2 = some k := by simpa using List.find?_some here
    exact ⟨List.mem_map_of_mem (List.mem_of_find?_eq_some here), held⟩
  · rintro ⟨mem, held⟩
    obtain ⟨id, row⟩ := mem_values.mp mem
    obtain ⟨found, here⟩ : ∃ found, t.rows.find? (fun row => key row.2 == some k) = some found := by
      rw [← Option.isSome_iff_exists, List.find?_isSome]
      exact ⟨(id, v), row, by simp [held]⟩
    have held' : key found.2 = some k := by simpa using List.find?_some here
    have same := row_eq_of_key (List.mem_of_find?_eq_some here) row held' held
    rw [lookup, here, same]
    rfl

theorem mem_values_insertOrReplace {t : SqlTable ν κ key} {v w : ν} {k : κ}
    (keyed : key v = some k) :
    w ∈ (t.insertOrReplace v).values ↔ w = v ∨ w ∈ t.values ∧ key w ≠ some k := by
  simp only [mem_values, rows_insertOrReplace, List.mem_append, List.mem_filter,
    List.mem_singleton, keyed]
  constructor
  · rintro ⟨id, ⟨mem, other⟩ | same⟩
    · refine Or.inr ⟨⟨id, mem⟩, fun held => ?_⟩
      simp [held] at other
    · exact Or.inl (congrArg Prod.snd same)
  · rintro (rfl | ⟨⟨id, mem⟩, other⟩)
    · exact ⟨_, Or.inr rfl⟩
    · refine ⟨id, Or.inl ⟨mem, ?_⟩⟩
      simp [other]

/-- **A replacement is what its unique value leads to**, and every other value leads where it
did. -/
theorem lookup_insertOrReplace {t : SqlTable ν κ key} {v : ν} {k : κ} (keyed : key v = some k)
    (k' : κ) : (t.insertOrReplace v).lookup k' = if k' = k then some v else t.lookup k' := by
  refine Option.ext fun w => ?_
  rw [lookup_eq_some, mem_values_insertOrReplace keyed]
  split
  next same =>
    subst same
    constructor
    · rintro ⟨rfl | ⟨-, other⟩, held⟩
      · rfl
      · exact absurd held other
    · rintro ⟨⟩
      exact ⟨Or.inl rfl, keyed⟩
  next other =>
    rw [lookup_eq_some]
    constructor
    · rintro ⟨rfl | ⟨mem, -⟩, held⟩
      · exact absurd (Option.some.inj (held.symm.trans keyed)) other
      · exact ⟨mem, held⟩
    · rintro ⟨mem, held⟩
      exact ⟨Or.inr ⟨mem, fun same => other (Option.some.inj (held.symm.trans same))⟩, held⟩

end Replacing

end SqlTable
