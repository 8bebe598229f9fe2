import RustBlocker.Rewrites
import RustBlocker.SourceLists
import RustBlocker.StoredText

/-!
# The ids that an add answers

`add_domain`, `add_rewrite` and `add_source` insert a row unless its text is stored already, and
answer an id.  Two of them select it; `add_rewrite` asks the connection for the rowid of its last
insert, which is another row's if its own insert was ignored.

* **A connection** outlives a request: the pool hands it out again.  `PooledConnection` keeps the
  rowids its inserts were given, into whatever table.
* **The id of a row** is what a later delete goes by.  `IsRowOf` says that the id is the one of
  the row with the text, and that a delete by it takes that row and no other.

`returnsRowId_iff` says exactly when the id that is answered is the one of the row.

The state is any: the tables may have come about in whatever way, and the rowids of the connection
are free, so that the result does not depend on which ids the engine hands out.  What it needs is
that the tables keep their two promises, one row for an id and one for a text.

A delete is part of the property because an id is of no other use.  An answer with the id of
another row is not merely wrong; the operator who removes what was just added removes something
else.

At the end a machine of connections shows that the bad states are reached: an add of one rewrite,
of a second one, and of the first again.
-/

namespace RustBlocker

/-- A connection of the pool, with the database behind it.  Other connections change the database
too. -/
structure PooledConnection where
  db : Db := {}
  /-- The rowids its inserts were given, the last one first; an ignored insert is given none. -/
  rowids : List Nat := []

/-- `last_insert_rowid`: zero before the first insert. -/
def PooledConnection.lastInsertRowid (c : PooledConnection) : Nat := c.rowids.headD 0

/-- A call that adds a row. -/
inductive AddRequest where
  | domain (list : DomainList) (domain : Str)
  | rewrite (domain : Str) (ipv4 ipv6 : Option Str)
  | source (url listType : Str) (intervalHours : Int)

/-- Which statements of an add fail, for each of the three kinds. -/
structure AddPlans where
  domain : Plan AddDomainCall := .clear
  rewrite : Plan AddRewriteCall := .clear
  source : Plan AddSourceCall := .clear

section Requests

variable (u : CaseTables)

/-- `add_domain`, `add_rewrite` and `add_source` on a connection: the id and the database. -/
def PooledConnection.add (fails : AddPlans) (c : PooledConnection) :
    AddRequest → Except DbError (Nat × Db)
  | .domain list domain => addDomain u fails.domain c.db list domain
  | .rewrite domain ipv4 ipv6 =>
      dbAddRewrite u fails.rewrite c.lastInsertRowid c.db domain ipv4 ipv6
  | .source url listType hours => addSource fails.source c.db url listType hours

namespace AddRequest

/-- The text of the unique column. -/
def key : AddRequest → Str
  | .domain _ name => normalizeDomain u name
  | .rewrite name _ _ => normalizeDomain u name
  | .source url _ _ => url

/-- The ids of the table with the texts of its unique column. -/
def rows (db : Db) : AddRequest → List (Nat × Str)
  | .domain list _ => (db.domains list).rows
  | .rewrite .. => db.rewrites.rows.map fun row => (row.1, row.2.domain)
  | .source .. => db.sources.rows.map fun row => (row.1, row.2.url)

/-- The delete by id from the table of the request. -/
def delete (db : Db) (id : Nat) : AddRequest → Db
  | .domain list _ => (deleteDomainById .clear db list id).1
  | .rewrite .. => (deleteRewriteById .clear db id).1
  | .source .. => (deleteSourceWithCleanup .clear ∅ db id).1

/-- **The id is the one of the row of the text**, and a delete by it removes that row and no
other. -/
structure IsRowOf (request : AddRequest) (db : Db) (id : Nat) : Prop where
  row : (id, request.key u) ∈ request.rows db
  deleted : ∀ row, row ∈ request.rows (request.delete db id) ↔
    row ∈ request.rows db ∧ row.2 ≠ request.key u

/-- **When an add finds the row.**  The select of `add_source` has to succeed; for `add_rewrite` a
row that is stored already has to be the one the connection was given last.  It is a condition on
the state before the add and on the calls that fail. -/
def FindsRow (fails : AddPlans) (c : PooledConnection) : AddRequest → Prop
  | .domain .. => True
  | .rewrite name _ _ =>
      fails.rewrite .connection = none → fails.rewrite .insert = none →
        ∀ id, c.db.rewrites.idOf? (normalizeDomain u name) = some id → c.lastInsertRowid = id
  | .source .. =>
      fails.source .connection = none → fails.source .insert = none →
        fails.source .select = none

end AddRequest

/-- Whatever an add answers is the id of its row; an add that fails answers none. -/
def PooledConnection.ReturnsRowId (fails : AddPlans) (c : PooledConnection)
    (request : AddRequest) : Prop :=
  ∀ id db, c.add u fails request = .ok (id, db) → request.IsRowOf u db id

end Requests

/-! ## Which id is answered

An id that was selected is that of the row.  For `add_rewrite`, which selects nothing, it is
decided by whether its own insert was the last one of the connection. -/

section Answer

variable {u : CaseTables} {fails : AddPlans} {c : PooledConnection}

/-- What is deleted by the id of the row of a text is that row. -/
theorem AddRequest.isRowOf_iff {request : AddRequest} {db : Db} {id : Nat} :
    request.IsRowOf u db id ↔ (id, request.key u) ∈ request.rows db := by
  refine ⟨fun isRow => isRow.row, fun row => ⟨row, ?_⟩⟩
  cases request with
  | domain list name =>
      have found := SqlTable.find?_eq_some.mpr row
      have whole : ∀ rows : List (Nat × Str), rows.map (fun row => (row.1, row.2)) = rows :=
        List.map_id'
      have deleted := SqlTable.mem_rows_deleteWhere_id (t := db.domains list) (f := fun v => v)
        (fun _ => rfl) (by rw [whole]; exact row)
      simp only [whole] at deleted
      simp only [delete, rows, deleteDomainById_clear found, Db.setDomains_domains_self]
      exact deleted
  | rewrite name ipv4 ipv6 =>
      obtain ⟨⟨id, v⟩, mem, same⟩ := List.mem_map.mp row
      obtain ⟨rfl, -⟩ := Prod.mk.inj same
      have found := SqlTable.find?_eq_some.mpr mem
      simp only [delete, deleteRewriteById, Plan.clear, found]
      exact SqlTable.mem_rows_deleteWhere_id (fun _ => rfl) row
  | source url listType hours =>
      obtain ⟨⟨id, v⟩, mem, same⟩ := List.mem_map.mp row
      obtain ⟨rfl, -⟩ := Prod.mk.inj same
      have found := SqlTable.find?_eq_some.mpr mem
      simp only [delete, deleteSourceWithCleanup_clear found]
      exact SqlTable.mem_rows_deleteWhere_id (fun _ => rfl) row

theorem rewrite_returnsRowId_iff (name : Str) (ipv4 ipv6 : Option Str) :
    c.ReturnsRowId u fails (.rewrite name ipv4 ipv6) ↔
      (AddRequest.rewrite name ipv4 ipv6).FindsRow u fails c := by
  let row : RewriteRow := { domain := normalizeDomain u name, ipv4, ipv6 }
  have answer : ∀ id db, c.add u fails (.rewrite name ipv4 ipv6) = .ok (id, db) ↔
      fails.rewrite .connection = none ∧ fails.rewrite .insert = none ∧
        (if c.db.rewrites.clashes row then c.lastInsertRowid else c.db.rewrites.seq + 1) = id ∧
        { c.db with rewrites := c.db.rewrites.insertOrIgnore row } = db := by
    intro id db
    rw [PooledConnection.add, dbAddRewrite, Plan.attempt_bind_eq_ok, Plan.attempt_bind_eq_ok]
    simp only [dbNormalize_eq, pure, Except.pure, Except.ok.injEq, Prod.mk.injEq, row]
  constructor
  · intro returns connection insert id stored
    have here := (SqlTable.idOf?_eq_some_iff (f := RewriteRow.domain) fun _ => rfl).mp stored
    obtain ⟨⟨id, v⟩, mem, same⟩ := List.mem_map.mp here
    obtain ⟨rfl, named⟩ := Prod.mk.inj same
    have clash : c.db.rewrites.clashes row = true :=
      clashes_rewrite.mpr ⟨v, SqlTable.mem_values.mpr ⟨_, mem⟩, named⟩
    -- the insert is ignored, and the connection answers its last rowid
    have answered := returns _ _ ((answer c.lastInsertRowid _).mpr
      ⟨connection, insert, if_pos clash, rfl⟩)
    have last := answered.row
    simp only [AddRequest.rows, SqlTable.insertOrIgnore_of_clashes clash,
      SqlTable.rows_skipId] at last
    have selected := (SqlTable.idOf?_eq_some_iff (f := RewriteRow.domain) fun _ => rfl).mpr last
    exact Option.some.inj (selected.symm.trans stored)
  · intro finds id db ok
    obtain ⟨connection, insert, rfl, rfl⟩ := (answer id db).mp ok
    rw [AddRequest.isRowOf_iff]
    cases clash : c.db.rewrites.clashes row with
    | true =>
        obtain ⟨v, mem, named⟩ := clashes_rewrite.mp clash
        obtain ⟨id, selected⟩ := Option.isSome_iff_exists.mp
          (SqlTable.idOf?_isSome mem (congrArg some named))
        have last := finds connection insert id selected
        simp only [AddRequest.rows, SqlTable.insertOrIgnore_of_clashes clash,
          SqlTable.rows_skipId, if_true, last]
        exact (SqlTable.idOf?_eq_some_iff (f := RewriteRow.domain) fun _ => rfl).mp selected
    | false =>
        obtain ⟨table, inserted⟩ := SqlTable.exists_insert clash
        have rows := (SqlTable.insert_eq_some inserted).2.1
        simp only [AddRequest.rows, SqlTable.insertOrIgnore, inserted, Option.getD_some, rows,
          Bool.false_eq_true, if_false, List.map_append, List.map_cons]
        exact List.mem_append_right _ List.mem_cons_self

/-- **An add answers the id of its row** exactly if it finds the row: `add_domain` always does,
`add_source` if its select succeeds, and `add_rewrite` if the row is new or is the one the
connection was given last. -/
theorem returnsRowId_iff (u : CaseTables) (fails : AddPlans) (c : PooledConnection)
    (request : AddRequest) : c.ReturnsRowId u fails request ↔ request.FindsRow u fails c := by
  cases request with
  | domain list name =>
      refine iff_of_true (fun id db ok => AddRequest.isRowOf_iff.mpr ?_) trivial
      exact SqlTable.find?_eq_some.mp (addDomain_find? ok)
  | rewrite name ipv4 ipv6 => exact rewrite_returnsRowId_iff name ipv4 ipv6
  | source url listType hours =>
      constructor
      · intro returns connection insert
        cases selected : fails.source .select with
        | none => rfl
        | some error =>
            have answered := (returns _ _ (addSource_eq_ok.mpr
              ⟨connection, insert, rfl, rfl⟩)).row
            obtain ⟨⟨id, v⟩, mem, same⟩ := List.mem_map.mp answered
            obtain ⟨zero, -⟩ := Prod.mk.inj same
            rw [selected, Option.isSome_some, if_pos rfl] at zero
            exact absurd zero (Nat.ne_of_gt (SqlTable.ids_pos _ _ mem))
      · intro finds id db ok
        obtain ⟨connection, insert, rfl, rfl⟩ := addSource_eq_ok.mp ok
        rw [AddRequest.isRowOf_iff, finds connection insert, Option.isSome_none,
          if_neg Bool.false_ne_true]
        obtain ⟨row, found, named, -⟩ := find?_selectSourceId c.db url listType hours
        exact List.mem_map.mpr ⟨_, SqlTable.find?_eq_some.mp found, by rw [named]; rfl⟩

end Answer

/-! ## The history of a connection

A connection with its inserts, so that the state in which a wrong id is answered is seen to arise
from three ordinary requests. -/

/-- The rowid an `INSERT OR IGNORE` is given, if any. -/
def givenRowid {ν κ : Type} {key : ν → Option κ} [DecidableEq κ] (t : SqlTable ν κ key)
    (v : ν) : List Nat :=
  if t.clashes v then [] else [t.seq + 1]

/-- What happens on a connection. -/
inductive ConnectionAction where
  /-- An add whose statements succeed; the rowid is the one `manual_domains` would give. -/
  | add (request : AddRequest) (manualRowid : Nat)
  /-- Another insert of the connection, into any table. -/
  | insert (rowid : Nat) (db : Db)
  /-- Any other statement, here or on another connection. -/
  | other (db : Db)

section History

variable (u : CaseTables)

/-- The rowids that the inserts of an add are given, the last one first. -/
def PooledConnection.given (c : PooledConnection) (manualRowid : Nat) : AddRequest → List Nat
  | .domain list domain =>
      (if (list, normalizeDomain u domain) ∈ c.db.manualDomains then [] else [manualRowid]) ++
        givenRowid (c.db.domains list) (normalizeDomain u domain)
  | .rewrite domain ipv4 ipv6 =>
      givenRowid c.db.rewrites { domain := normalizeDomain u domain, ipv4, ipv6 }
  | .source url listType hours =>
      givenRowid c.db.sources { url, listType, updateIntervalHours := hours }

/-- A connection in use. -/
def pooledConnection : StateMachine PooledConnection ConnectionAction where
  init c := c.rowids = []
  step c
    | .add request manualRowid =>
        (c.add u {} request).toOption.map fun out =>
          { db := out.2, rowids := c.given u manualRowid request ++ c.rowids }
    | .insert rowid db => some { db, rowids := rowid :: c.rowids }
    | .other db => some { c with db }

/-- Two rewrites are added, and the first one again. -/
def twoRewrites : List ConnectionAction :=
  [.add (.rewrite "a.example".toList none none) 0, .add (.rewrite "b.example".toList none none) 0]

/-- The first rewrite is answered the id of the second one: the insert is ignored, and the last
rowid of the connection is that of `b.example`. -/
theorem not_returnsRowId_again :
    (pooledConnection .ascii).init {} ∧
      ∃ c, (pooledConnection .ascii).exec {} twoRewrites = some c ∧
        (∃ db, c.add .ascii {} (.rewrite "a.example".toList none none) = .ok (2, db) ∧
          (2, "b.example".toList) ∈ (AddRequest.rewrite "a.example".toList none none).rows db) ∧
        ¬ c.ReturnsRowId .ascii {} (.rewrite "a.example".toList none none) := by
  have ends : ((pooledConnection .ascii).exec {} twoRewrites).map (fun c =>
      (c.lastInsertRowid, c.db.rewrites.idOf? (normalizeDomain .ascii "a.example".toList))) =
      some (2, some 1) := by
    decide +kernel
  have answered : ((pooledConnection .ascii).exec {} twoRewrites).map (fun c =>
      (c.add .ascii {} (.rewrite "a.example".toList none none)).toOption.map fun out =>
        (out.1, (AddRequest.rewrite "a.example".toList none none).rows out.2)) =
      some (some (2, [(1, "a.example".toList), (2, "b.example".toList)])) := by
    decide +kernel
  obtain ⟨c, run, ends⟩ := Option.map_eq_some_iff.mp ends
  obtain ⟨last, stored⟩ := Prod.mk.inj ends
  rw [run, Option.map_some, Option.some_inj] at answered
  refine ⟨rfl, c, run, ?_, fun returns => ?_⟩
  · obtain ⟨⟨id, db⟩, ok, same⟩ := Option.map_eq_some_iff.mp answered
    obtain ⟨rfl, rows⟩ := Prod.mk.inj same
    refine ⟨db, ?_, ?_⟩
    · cases result : c.add .ascii {} (.rewrite "a.example".toList none none) with
      | error error =>
          rw [result] at ok
          cases ok
      | ok out =>
          rw [result] at ok
          exact congrArg Except.ok (Option.some.inj ok)
    · rw [rows]
      exact List.mem_cons_of_mem _ List.mem_cons_self
  · have finds := (rewrite_returnsRowId_iff _ _ _).mp returns rfl rfl 1 stored
    rw [last] at finds
    cases finds

end History

end RustBlocker
