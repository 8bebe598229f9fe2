import Mathlib
import RustBlocker.DomainLines
import RustBlocker.Library.SqlTable

/-!
# The database

The tables of `init_schema` that the lists, the sources and the sync use, and the functions of
`db.rs` that write a domain or a source.

* **Ids.** Every table but `settings`, `source_domains` and `manual_domains` has an
  `AUTOINCREMENT` id; those three are sets of their rows.
* **Failures.** A function takes its database calls as a type and a *plan*, which gives the error
  text of each call that fails.  A transaction that does not reach its commit leaves the database
  as it was, so a function that runs in one returns the new database only on success.
* **Time.** `datetime('now')` is the argument `now`.

The table name that the code passes around as text is the type `DomainList`.

## Failing calls

Which call fails is data of the plan, for each call by itself, and every statement about a
function is about every plan.  A call in a loop carries what it is called with, so that the
insertion of one domain may fail and that of the next succeed.  What a failing call leaves behind
is decided by whether the function runs in a transaction, which was read off the source for each
of them: those that do not, such as `delete_domain_by_id`, keep what was written before the
failure.  The refinement of the transactions themselves, statement by statement over a connection,
is in `RustBlocker.Transactions`.

Columns that nothing modelled reads are left out of the rows.
-/

namespace RustBlocker

/-- `blocklist_domains` or `allowlist_domains`, and the list it feeds. -/
inductive DomainList where
  | blocklist
  | allowlist
deriving DecidableEq, Repr

namespace DomainList

/-- The list a `list_type` selects: every text but `allowlist` is the blocklist. -/
def ofType (listType : Str) : DomainList :=
  if listType = "allowlist".toList then allowlist else blocklist

/-- The `list_type` stored for a list. -/
def type : DomainList → Str
  | blocklist => "blocklist".toList
  | allowlist => "allowlist".toList

@[simp] theorem ofType_type (list : DomainList) : ofType list.type = list := by
  cases list <;> decide

end DomainList

/-! ## Rows

The columns are those that some function of the server reads or writes.  An id belongs to a table
and not to a row, which is why the rows here have none. -/

/-- A row of `upstreams`, without its id. -/
structure UpstreamRow where
  address : Str
  port : Nat
deriving DecidableEq, Repr

/-- A row of `rewrites`, without its id. -/
structure RewriteRow where
  domain : Str
  ipv4 : Option Str
  ipv6 : Option Str
deriving DecidableEq, Repr

/-- A row of `sources`, without its id; `enabled` is an integer column. -/
structure SourceRow where
  url : Str
  listType : Str
  enabled : Int := 1
  updateIntervalHours : Int := 24
  lastUpdated : Option Str := none
  lastStatus : Option Str := none
deriving DecidableEq, Repr

/-- `DbSource`: a row of `sources` as it is handed around. -/
structure DbSource where
  id : Nat
  url : Str
  listType : Str
  enabled : Bool := true
  updateIntervalHours : Int := 24
  lastUpdated : Option Str := none
  lastStatus : Option Str := none
deriving DecidableEq, Repr

/-- A row as it is read: enabled unless the column is zero. -/
def SourceRow.source (id : Nat) (row : SourceRow) : DbSource where
  id := id
  url := row.url
  listType := row.listType
  enabled := row.enabled != 0
  updateIntervalHours := row.updateIntervalHours
  lastUpdated := row.lastUpdated
  lastStatus := row.lastStatus

/-- `blocklist_domains` and `allowlist_domains`. -/
abbrev DomainTable := SqlTable Str Str some

/-- `rewrites`. -/
abbrev RewriteTable := SqlTable RewriteRow Str fun row => some row.domain

/-- `sources`. -/
abbrev SourceTable := SqlTable SourceRow Str fun row => some row.url

/-- `upstreams`, which has no unique column. -/
abbrev UpstreamTable := SqlTable UpstreamRow Str fun _ => none

/-- The database.  Tables without an id are sets, because their primary key is the whole row. -/
structure Db where
  settings : AList fun _ : Str => Str := ∅
  upstreams : UpstreamTable := .empty
  domains : DomainList → DomainTable := fun _ => .empty
  rewrites : RewriteTable := .empty
  sources : SourceTable := .empty
  /-- Which source wrote which domain; it does not say to which list. -/
  sourceDomains : Finset (Nat × Str) := ∅
  /-- The domains an operator added, by list. -/
  manualDomains : Finset (DomainList × Str) := ∅

/-! ## Failing calls

Any call of the database may fail, and the result of an operation depends on which one does.  The
operation takes a plan and asks it before each of its calls, so that one definition covers all
ways to fail. -/

/-- `DbError`. -/
inductive DbError where
  | pool (error : Str)
  | sql (error : Str)
deriving DecidableEq, Repr

/-- `Display for DbError`. -/
def DbError.text : DbError → Str
  | pool error => "database pool error: ".toList ++ error
  | sql error => "database error: ".toList ++ error

/-- Which database calls of an operation fail, and with what text.  It is a function and not a
list, so that nothing is said of how often a call is made. -/
abbrev Plan (γ : Type) := γ → Option Str

namespace Plan

variable {γ : Type} {ε : Type}

/-- Every call succeeds. -/
def clear : Plan γ := fun _ => none

/-- A call with `?`: on failure the operation returns its error. -/
def attempt (fails : Plan γ) (call : γ) (wrap : Str → ε) : Except ε Unit :=
  match fails call with
  | none => .ok ()
  | some error => .error (wrap error)

theorem attempt_bind_eq_ok {α : Type} {fails : Plan γ} {call : γ} {wrap : Str → ε}
    {next : Unit → Except ε α} {a : α} :
    (fails.attempt call wrap >>= next) = .ok a ↔ fails call = none ∧ next () = .ok a := by
  unfold attempt
  cases fails call with
  | none => exact ⟨fun h => ⟨rfl, h⟩, fun h => h.2⟩
  | some error =>
      constructor
      · intro h
        cases h
      · rintro ⟨h, -⟩
        cases h

theorem ok_bind {α β : Type} (a : α) (next : α → Except ε β) :
    (Except.ok a >>= next) = next a := rfl

@[simp] theorem attempt_clear (call : γ) (wrap : Str → ε) :
    (clear : Plan γ).attempt call wrap = .ok () := rfl

end Plan

/-! ## Tables -/

namespace Db

/-- Replace the table of a list. -/
def setDomains (db : Db) (list : DomainList) (table : DomainTable) : Db :=
  { db with domains := Function.update db.domains list table }

@[simp] theorem setDomains_domains_self (db : Db) (list : DomainList) (table : DomainTable) :
    (db.setDomains list table).domains list = table :=
  Function.update_self ..

theorem setDomains_domains_of_ne {db : Db} {list list' : DomainList} (ne : list' ≠ list)
    (table : DomainTable) : (db.setDomains list table).domains list' = db.domains list' :=
  Function.update_of_ne ne ..

/-- `INSERT OR IGNORE INTO <list> (domain)` -/
def insertDomain (db : Db) (list : DomainList) (domain : Str) : Db :=
  db.setDomains list ((db.domains list).insertOrIgnore domain)

/-- `INSERT OR IGNORE INTO manual_domains` -/
def insertManual (db : Db) (list : DomainList) (domain : Str) : Db :=
  { db with manualDomains := insert (list, domain) db.manualDomains }

theorem mem_insertDomain {db : Db} {list list' : DomainList} {domain d : Str} :
    d ∈ ((db.insertDomain list domain).domains list').values ↔
      (list' = list ∧ d = domain) ∨ d ∈ (db.domains list').values := by
  by_cases same : list' = list
  · subst same
    rw [insertDomain, setDomains_domains_self, SqlTable.mem_values_insertOrIgnore]
    simp
  · rw [insertDomain, setDomains_domains_of_ne same]
    simp [same]

end Db

/-! ## Writing domains

The three ways in which an operator changes a list.  Two of them are transactions, so that an
error leaves the database as it was; the deletion is not, and the model keeps its two statements
apart. -/

/-- `to_lowercase`, then `strip_suffix('.')`: how `add_domain` normalizes. -/
def dbNormalize (u : CaseTables) (domain : Str) : Str :=
  let normalized := u.toLowercase domain
  (Str.stripSuffix '.' normalized).getD normalized

/-- The database and the store normalize alike. -/
theorem dbNormalize_eq (u : CaseTables) (domain : Str) :
    dbNormalize u domain = normalizeDomain u domain := by
  simp only [dbNormalize, normalizeDomain, Str.stripSuffix]
  split <;> rfl

/-- The calls of `add_domain`. -/
inductive AddDomainCall where
  | connection
  | begin
  | insertDomain
  | selectId
  | insertManual
  | commit
deriving DecidableEq

/-- `add_domain`: the id of the row and the new database.  The domain is marked as manual even
where it was there already, which is how a domain of a source becomes one of the operator. -/
def addDomain (u : CaseTables) (fails : Plan AddDomainCall) (db : Db) (list : DomainList)
    (domain : Str) : Except DbError (Nat × Db) := do
  fails.attempt .connection .pool
  let normalized := dbNormalize u domain
  fails.attempt .begin .sql
  fails.attempt .insertDomain .sql
  let inserted := db.insertDomain list normalized
  fails.attempt .selectId .sql
  match (inserted.domains list).idOf? normalized with
  | none => .error (.sql "Query returned no rows".toList)
  | some id =>
      fails.attempt .insertManual .sql
      fails.attempt .commit .sql
      return (id, inserted.insertManual list normalized)

/-- The calls of `delete_domain_by_id`. -/
inductive DeleteDomainCall where
  | connection
  | select
  | delete
  | deleteManual
deriving DecidableEq

/-- `delete_domain_by_id`: the deleted domain, if any.  The three statements run
outside a transaction, and a failure of the last one is ignored. -/
def deleteDomainById (fails : Plan DeleteDomainCall) (db : Db) (list : DomainList)
    (id : Nat) : Db × Option Str :=
  if (fails .connection).isSome || (fails .select).isSome then (db, none)
  else
    match (db.domains list).find? id with
    | none => (db, none)
    | some domain =>
        if (fails .delete).isSome then (db, none)
        else
          let deleted :=
            db.setDomains list ((db.domains list).deleteWhere fun row => row.1 == id)
          if (fails .deleteManual).isSome then (deleted, some domain)
          else
            ({ deleted with
                manualDomains := deleted.manualDomains.erase (list, domain) }, some domain)

/-- The calls of `insert_domains_from_content`. -/
inductive ImportCall where
  | connection
  | begin
  | prepareDomain
  | prepareManual
  | insertDomain (domain : Str)
  | insertManual (domain : Str)
  | commit
deriving DecidableEq

/-- `DomainImportResult`. -/
structure DomainImportResult where
  inserted : Nat
  store : DomainStore

/-- The rows `execute` reports: one where the insert was not ignored, and none where the domain
was there already. -/
def insertedRows (db : Db) (list : DomainList) (domain : Str) : Nat :=
  if (db.domains list).clashes domain then 0 else 1

/-- The domains of a list text, in its order. -/
def contentDomains (content : Str) : List Str := (Str.lines content).filterMap parseDomainLine

/-- The loop of `insert_domains_from_content`. -/
def importDomains (u : CaseTables) (hash : Bytes → UInt64) (fails : Plan ImportCall)
    (list : DomainList) :
    List Str → DomainImportResult → Db → Except DbError (DomainImportResult × Db)
  | [], result, db => .ok (result, db)
  | domain :: rest, result, db => do
      fails.attempt (.insertDomain domain) .sql
      fails.attempt (.insertManual domain) .sql
      importDomains u hash fails list rest
        { inserted := result.inserted + insertedRows db list domain
          store := (result.store.insert u hash domain).1 }
        ((db.insertDomain list domain).insertManual list domain)

/-- `bulk_import_domains_with_entries`: write the domains of a text, mark them manual, and collect
them in a store of their own.  It runs in one transaction, so a failure leaves nothing of the
text. -/
def bulkImport (u : CaseTables) (hash : Bytes → UInt64) (fails : Plan ImportCall) (db : Db)
    (list : DomainList) (content : Str) : Except DbError (DomainImportResult × Db) := do
  fails.attempt .connection .pool
  fails.attempt .begin .sql
  fails.attempt .prepareDomain .sql
  fails.attempt .prepareManual .sql
  let imported ← importDomains u hash fails list (contentDomains content)
    { inserted := 0, store := .default } db
  fails.attempt .commit .sql
  return imported

/-! ## Sources -/

namespace Db

/-- `get_source_by_id`. -/
def getSourceById (db : Db) (id : Nat) : Option DbSource :=
  (db.sources.find? id).map (SourceRow.source id)

/-- `get_sources`. -/
def getSources (db : Db) : List DbSource :=
  db.sources.rows.map fun row => row.2.source row.1

/-- `update_source_status`: the status and the time are written to the row of the source, if there
is one. -/
def updateSourceStatus (db : Db) (now : Str) (id : Nat) (status : Str) : Db :=
  { db with
    sources := db.sources.update id
      (fun row => { row with lastUpdated := some now, lastStatus := some status })
      fun _ => rfl }

/-- The domains a source owns. -/
def ownedBy (db : Db) (sourceId : Nat) : Finset Str :=
  (db.sourceDomains.filter fun row => row.1 = sourceId).image Prod.snd

@[simp] theorem mem_ownedBy {db : Db} {sourceId : Nat} {domain : Str} :
    domain ∈ db.ownedBy sourceId ↔ (sourceId, domain) ∈ db.sourceDomains := by
  simp [ownedBy]

end Db

/-- The insert of `add_source`: ignored when the url is stored already, whatever
the other columns. -/
def insertSource (db : Db) (url listType : Str) (intervalHours : Int) : Db :=
  { db with
    sources := db.sources.insertOrIgnore
      { url := url, listType := listType, updateIntervalHours := intervalHours } }

/-- The select of `add_source`: `0` when there is no row of the url. -/
def selectSourceId (db : Db) (url : Str) : Nat := (db.sources.idOf? url).getD 0

end RustBlocker
