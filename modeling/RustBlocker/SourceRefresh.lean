import RustBlocker.Database

/-!
# Refreshing and deleting a source

`replace_source_domains` and `delete_source_with_cleanup`, and the rebuild of a list's store from
its table that follows both.

A refresh is one transaction.  It remembers what the source owned, clears that, writes the new
content, and then prunes: from the table of the *given* list it deletes each domain the source
used to own, that no source owns any more, and that is not marked manual in that list.  Ownership
rows carry no list, so the test "no source owns it" is over the sources of both lists.

A deletion prunes in the same way.  There the temporary table that holds the old domains is filled
outside the error path: failures of the batch that creates and empties it, of a row's insert and
of the prune itself are ignored, so after such a failure the transaction still commits.

## Failing calls

A `Plan` says for each call whether it fails, and with what; `clear` is the plan of none.  Which
calls a function makes is an enumeration of its own, in the order of the code, with the rows of a
loop told apart where each of them may fail.  An error inside a transaction is an `.error`, and
the caller keeps the database it had.

The functions here return what a commit leaves.  The same writes as scripts of statements, with
the transactions opened and settled one by one, are in `Transactions`.
-/

namespace RustBlocker

def maxSourceBytes : Nat := 64 * 1024 * 1024

def minSourceDomains : Nat := 10

def minSourceRetainedPercent : Nat := 10

/-- `{}` of a number. -/
def decimal (n : Nat) : Str := (Nat.repr n).toList

theorem isDigit_of_mem_decimal {n : Nat} {c : Char} (mem : c ∈ decimal n) : c.isDigit = true := by
  rw [decimal, Nat.toList_repr] at mem
  exact Nat.isDigit_of_mem_toDigits (by decide) (by decide) mem

theorem notMem_decimal {n : Nat} {c : Char} (other : c.isDigit = false) : c ∉ decimal n :=
  fun mem => absurd (isDigit_of_mem_decimal mem) (by simp [other])

theorem decimal_injective {m n : Nat} (same : decimal m = decimal n) : m = n :=
  Nat.repr_injective (String.toList_injective same)

/-- `parse_source_domains`: the domains of a text, sorted and without
duplicates; refused if there are fewer than ten. -/
def parseSourceDomains (content : Str) : Except Str (List Str) :=
  let domains := Str.dedup (Str.sort (contentDomains content))
  if domains.length < minSourceDomains then
    .error ("suspicious content: found ".toList ++ decimal domains.length ++
      " usable domains, minimum is ".toList ++ decimal minSourceDomains)
  else .ok domains

theorem mem_parseSourceDomains {content : Str} {domains : List Str}
    (parsed : parseSourceDomains content = .ok domains) {domain : Str} :
    domain ∈ domains ↔ domain ∈ contentDomains content := by
  unfold parseSourceDomains at parsed
  simp only at parsed
  split at parsed
  · cases parsed
  · cases parsed
    simp

theorem canonical_of_mem_contentDomains {content domain : Str}
    (mem : domain ∈ contentDomains content) : Canonical domain := by
  obtain ⟨line, -, parsed⟩ := List.mem_filterMap.mp mem
  exact ⟨line, parsed⟩

namespace Db

/-- `DELETE FROM source_domains WHERE source_id = ?` -/
def disown (db : Db) (sourceId : Nat) : Db :=
  { db with sourceDomains := db.sourceDomains.filter fun row => row.1 ≠ sourceId }

/-- `INSERT OR IGNORE INTO source_domains` -/
def own (db : Db) (sourceId : Nat) (domain : Str) : Db :=
  { db with sourceDomains := insert (sourceId, domain) db.sourceDomains }

/-- The prune: delete from a list the candidates that no source owns and that
are not manual in the list. -/
def prune (db : Db) (list : DomainList) (candidates : Finset Str) : Db :=
  db.setDomains list ((db.domains list).deleteWhere fun row =>
    row.2 ∈ candidates && row.2 ∉ db.sourceDomains.image Prod.snd &&
      (list, row.2) ∉ db.manualDomains)

end Db

/-! ## Refresh

The transaction of a refresh, statement by statement.  The guard against a source that shrinks
compares the number of its old domains with that of the new ones before anything is written. -/

/-- The calls of `replace_source_domains`, each of which may fail and end the transaction. -/
inductive RefreshCall where
  | connection
  | countPrior
  | begin
  | prepareTemp
  | snapshotOld
  | clearOwned
  | prepareOwned
  | prepareDomain (list : DomainList)
  | insertOwned (domain : Str)
  | insertDomain (domain : Str)
  | prune
  | updateStatus
  | commit
deriving DecidableEq

/-- `map_err(|e| format!("<context>: {e}"))` -/
def withContext (context error : Str) : Str := context ++ ": ".toList ++ error

/-- `ok: <n> domains`, the status of a refresh that succeeded. -/
def okStatus (count : Nat) : Str := "ok: ".toList ++ decimal count ++ " domains".toList

/-- The status of a refresh that failed. -/
def failedStatus (error : Str) : Str := "failed: ".toList ++ error

/-- The loop of `replace_source_domains` over the new domains. -/
def writeOwned (fails : Plan RefreshCall) (sourceId : Nat) (list : DomainList) :
    List Str → Db → Except Str Db
  | [], db => .ok db
  | domain :: rest, db => do
      fails.attempt (.insertOwned domain) (withContext "insert source_domains".toList)
      fails.attempt (.insertDomain domain) (withContext "insert domain".toList)
      writeOwned fails sourceId list rest ((db.own sourceId domain).insertDomain list domain)

/-- The shrink guard: whether a source of `previous` domains may be replaced by
`count` domains. -/
def retains (previous count : Nat) : Bool :=
  !(10 ≤ previous && saturatingMul count 100 < saturatingMul previous minSourceRetainedPercent)

/-- `replace_source_domains`, without the rebuild of the store: the number of
domains and the new database. -/
def replaceSourceDomains (fails : Plan RefreshCall) (now : Str) (db : Db) (sourceId : Nat)
    (list : DomainList) (content : Str) : Except Str (Nat × Db) := do
  fails.attempt .connection (withContext "failed to get DB connection".toList)
  let newList ← parseSourceDomains content
  fails.attempt .countPrior (withContext "count prior source domains".toList)
  let previousCount := (db.ownedBy sourceId).card
  if retains previousCount newList.length then
    fails.attempt .begin (withContext "failed to begin transaction".toList)
    fails.attempt .prepareTemp (withContext "prepare temp old domains".toList)
    fails.attempt .snapshotOld (withContext "snapshot old domains".toList)
    let oldDomains := db.ownedBy sourceId
    fails.attempt .clearOwned (withContext "clear source_domains".toList)
    let cleared := db.disown sourceId
    fails.attempt .prepareOwned (withContext "prepare source_domains insert".toList)
    fails.attempt (.prepareDomain list)
      (withContext ("prepare ".toList ++ list.type ++ " insert".toList))
    let written ← writeOwned fails sourceId list newList cleared
    fails.attempt .prune (withContext "prune unreferenced domains".toList)
    let pruned := written.prune list oldDomains
    fails.attempt .updateStatus (withContext "update source status".toList)
    let updated := pruned.updateSourceStatus now sourceId (okStatus newList.length)
    fails.attempt .commit (withContext "commit source refresh".toList)
    return (newList.length, updated)
  else
    .error ("suspicious content: ".toList ++ decimal newList.length ++
      " usable domains would retain less than ".toList ++ decimal minSourceRetainedPercent ++
      "% of prior ".toList ++ decimal previousCount)

/-! ## Deletion -/

/-- The calls of `delete_source_with_cleanup`. -/
inductive DeleteSourceCall where
  | connection
  | selectListType
  | begin
  | prepareOwned
  | queryOwned
  | ownedRow (domain : Str)
  | clearOwned
  | deleteSource
  | prepareTemp
  | prepareInsert
  | insertTemp (domain : Str)
  | prune
  | commit
deriving DecidableEq

/-- `DELETE FROM sources WHERE id = ?` -/
def Db.deleteSource (db : Db) (id : Nat) : Db :=
  { db with sources := db.sources.deleteWhere fun row => row.1 == id }

/-- The transaction of `delete_source_with_cleanup`: the new database and the
`list_type` of the deleted source.  `leftover` are the rows of the temporary
table should the batch that empties it fail. -/
def deleteSourceWithCleanup (fails : Plan DeleteSourceCall) (leftover : Finset Str) (db : Db)
    (id : Nat) : Db × Option Str :=
  let failed call := (fails call).isSome
  if failed .connection || failed .selectListType then (db, none)
  else
    match db.sources.find? id with
    | none => (db, none)
    | some source =>
        let list := DomainList.ofType source.listType
        if failed .begin || failed .prepareOwned || failed .queryOwned || failed .clearOwned ||
            failed .deleteSource || failed .prepareInsert || failed .commit then (db, none)
        else
          let owned := (db.ownedBy id).filter fun domain => !failed (.ownedRow domain)
          let deleted := (db.disown id).deleteSource id
          let temp := (if failed .prepareTemp then leftover else ∅) ∪
            owned.filter fun domain => !failed (.insertTemp domain)
          let pruned := if failed .prune then deleted else deleted.prune list temp
          (pruned, some source.listType)

/-! ## Rebuilding a store -/

/-- The calls of `load_domain_store_from_conn`. -/
inductive LoadCall where
  | prepare
  | query
  | row (domain : Str)
deriving DecidableEq

/-- Insert a list of domains into an empty store, in order. -/
def storeOf (u : CaseTables) (hash : Bytes → UInt64) (domains : List Str) : DomainStore :=
  domains.foldl (fun store domain => (store.insert u hash domain).1) .default

/-- `load_domain_store_from_conn`: the rows of the table in the order the query
returns them, except those that fail to be read. -/
def loadDomainStoreFromConn (u : CaseTables) (hash : Bytes → UInt64) (fails : Plan LoadCall)
    (scan : Reordering Str) (db : Db) (list : DomainList) : DomainStore :=
  if (fails .prepare).isSome || (fails .query).isSome then .default
  else
    storeOf u hash ((scan.apply (db.domains list).values).filter
      fun domain => (fails (.row domain)).isNone)

/-- `load_store_from_db`, as the server starts: the rows `ORDER BY domain`. -/
def loadStoreFromDb (u : CaseTables) (hash : Bytes → UInt64) (db : Db) (list : DomainList) :
    DomainStore :=
  storeOf u hash (Str.sort (db.domains list).values)

/-- What the functions that change a list work on: the database and the runtime stores. -/
structure Site where
  db : Db := {}
  runtime : DomainList → DomainStore := fun _ => .default

end RustBlocker
