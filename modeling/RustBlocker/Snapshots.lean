import RustBlocker.Database

/-!
# Applying a snapshot to a table

The transactions in which a replica replaces a table by the rows of a snapshot: delete every row,
insert the new ones.  The lists ignore a repeated domain; the other tables refuse a repeated
unique value, and with it the whole snapshot (`none`).  Ids go on from where they were, so a
replaced row has a new id.

The functions here are the database part alone, of rows that have been read from the payload
already.  What a payload may be, and which of its rows are read, is the importer's part.

A transaction that is refused leaves the table as it was, and that a snapshot with a repeated
value is refused as a whole is what the lemmas on `insertRows` say: all rows go in, or none.
-/

namespace RustBlocker

/-- A source as a snapshot hands it over; the other columns take their
defaults. -/
structure SourceItem where
  url : Str
  listType : Str
  updateIntervalHours : Int
deriving DecidableEq, Repr

/-- The row inserted for a source of a snapshot. -/
def SourceItem.row (item : SourceItem) : SourceRow :=
  { url := item.url, listType := item.listType, updateIntervalHours := item.updateIntervalHours }

/-- Insert rows in order; one that clashes fails the transaction. -/
def insertRows {ν κ : Type} {key : ν → Option κ} [DecidableEq κ] (table : SqlTable ν κ key)
    (rows : List ν) : Option (SqlTable ν κ key) :=
  rows.foldlM SqlTable.insert table

/-- `INSERT INTO upstreams`; the table checks the port. -/
def insertUpstream (table : UpstreamTable) (row : UpstreamRow) : Option UpstreamTable :=
  if 1 ≤ row.port && row.port ≤ 65535 then table.insert row else none

namespace Db

/-- The transaction of `apply_domains_inner`. -/
def applyDomains (db : Db) (list : DomainList) (domains : List Str) : Db :=
  db.setDomains list (domains.foldl SqlTable.insertOrIgnore (db.domains list).deleteAll)

/-- The transaction of `apply_upstreams`. -/
def applyUpstreams (db : Db) (items : List UpstreamRow) : Option Db :=
  (items.foldlM insertUpstream db.upstreams.deleteAll).map fun table =>
    { db with upstreams := table }

/-- The transaction of `apply_rewrites`. -/
def applyRewrites (db : Db) (items : List RewriteRow) : Option Db :=
  (insertRows db.rewrites.deleteAll items).map fun table => { db with rewrites := table }

/-- The transaction of `apply_sources`. -/
def applySources (db : Db) (items : List SourceItem) : Option Db :=
  (insertRows db.sources.deleteAll (items.map SourceItem.row)).map fun table =>
    { db with sources := table }

end Db

/-! ## The tables afterwards

All rows go in or none does; in the first case the table has the rows of the snapshot, in order.
An emptied table clashes with nothing, so only the rows themselves decide. -/

section InsertRows

variable {ν κ : Type} {key : ν → Option κ} [DecidableEq κ] {table table' : SqlTable ν κ key}
variable {rows : List ν}

/-- Rows that go in go in at the end, under new ids. -/
theorem insertRows_eq_some (inserted : insertRows table rows = some table') :
    table'.values = table.values ++ rows ∧ table.seq ≤ table'.seq ∧
      ∀ row ∈ table'.rows, row ∈ table.rows ∨ table.seq < row.1 := by
  induction rows generalizing table with
  | nil =>
      cases inserted
      exact ⟨(List.append_nil _).symm, Nat.le_refl _, fun row mem => Or.inl mem⟩
  | cons v rest ih =>
      rw [insertRows, List.foldlM_cons, Option.bind_eq_bind, Option.bind_eq_some_iff] at inserted
      obtain ⟨one, first, later⟩ := inserted
      obtain ⟨values, grows, ids⟩ := ih later
      obtain ⟨-, oneRows, oneSeq⟩ := SqlTable.insert_eq_some first
      rw [SqlTable.values_insert first, List.append_assoc] at values
      refine ⟨values, by omega, fun row mem => ?_⟩
      rcases ids row mem with old | new
      · rw [oneRows, List.mem_append, List.mem_singleton] at old
        rcases old with old | rfl
        · exact Or.inl old
        · exact Or.inr (Nat.lt_succ_self _)
      · exact Or.inr (by omega)

/-- Rows go in if no two of them clash, with each other or with the table. -/
theorem insertRows_isSome
    (fresh : ∀ v ∈ rows, table.clashes v = false)
    (apart : rows.Pairwise fun v v' => ∀ k, key v = some k → key v' ≠ some k) :
    (insertRows table rows).isSome := by
  induction rows generalizing table with
  | nil => rfl
  | cons v rest ih =>
      have here := fresh v List.mem_cons_self
      obtain ⟨one, first⟩ := SqlTable.exists_insert here
      have split : insertRows table (v :: rest) = insertRows one rest := by
        simp only [insertRows, List.foldlM_cons, first]
        rfl
      rw [split]
      refine ih (fun v' mem => ?_) (List.pairwise_cons.mp apart).2
      rw [Bool.eq_false_iff]
      intro clash
      obtain ⟨w, inside, k, held, clashes⟩ := SqlTable.clashes_eq_true.mp clash
      rw [SqlTable.values_insert first, List.mem_append, List.mem_singleton] at inside
      rcases inside with old | rfl
      · have := fresh v' (List.mem_cons_of_mem _ mem)
        rw [Bool.eq_false_iff] at this
        exact this (SqlTable.clashes_eq_true.mpr ⟨w, old, k, held, clashes⟩)
      · exact (List.pairwise_cons.mp apart).1 v' mem k held clashes

/-- **A snapshot goes into an emptied table exactly if no two of its rows clash.** -/
theorem insertRows_deleteAll_isSome :
    (insertRows table.deleteAll rows).isSome ↔
      rows.Pairwise fun v v' => ∀ k, key v = some k → key v' ≠ some k := by
  constructor
  · intro isSome
    obtain ⟨table', inserted⟩ := Option.isSome_iff_exists.mp isSome
    have values := (insertRows_eq_some inserted).1
    rw [SqlTable.values_deleteAll, List.nil_append] at values
    rw [← values]
    exact List.pairwise_map.mpr table'.unique
  · intro apart
    refine insertRows_isSome (fun v _ => ?_) apart
    rfl

end InsertRows

/-- Ports that are no more than 65535 and not zero pass the check. -/
theorem foldlM_insertUpstream {rows : List UpstreamRow}
    (valid : ∀ row ∈ rows, row.port ≠ 0 ∧ row.port ≤ 65535) (table : UpstreamTable) :
    rows.foldlM insertUpstream table = insertRows table rows := by
  induction rows generalizing table with
  | nil => rfl
  | cons row rest ih =>
      obtain ⟨positive, small⟩ := valid row List.mem_cons_self
      have first : insertUpstream table row = table.insert row := by
        rw [insertUpstream, if_pos]
        simpa [Nat.one_le_iff_ne_zero] using And.intro positive small
      rw [insertRows, List.foldlM_cons, List.foldlM_cons, first]
      congr 1
      funext next
      exact ih (fun row' mem => valid row' (List.mem_cons_of_mem _ mem)) next

namespace Db

theorem mem_applyDomains {db : Db} {list : DomainList} {domains : List Str} {d : Str} :
    d ∈ ((db.applyDomains list domains).domains list).values ↔ d ∈ domains := by
  have loop : ∀ (domains : List Str) (table : DomainTable),
      d ∈ (domains.foldl SqlTable.insertOrIgnore table).values ↔
        d ∈ domains ∨ d ∈ table.values := by
    intro domains
    induction domains with
    | nil => simp
    | cons domain rest ih =>
        intro table
        rw [List.foldl_cons, ih, SqlTable.mem_values_insertOrIgnore, List.mem_cons]
        tauto
  rw [applyDomains, setDomains_domains_self, loop]
  simp

theorem applyDomains_domains_of_ne {db : Db} {list list' : DomainList} (ne : list' ≠ list)
    (domains : List Str) : (db.applyDomains list domains).domains list' = db.domains list' :=
  setDomains_domains_of_ne ne _

end Db

end RustBlocker
