import RustBlocker.ListWrites
import RustBlocker.Library.Transaction

/-!
# The list writes, statement by statement

`add_domain`, `bulk_import_domains_with_entries`, `delete_domain_by_id` and
`replace_source_domains` as scripts over a connection, with every statement a step of its own and
the transactions where the code opens and commits them.  The functions of the earlier modules say
what these scripts come to: a transaction settles, so they return a new database or an error, and
no third state.

`delete_domain_by_id` opens no transaction.  Its two deletes commit one after the other, and the
answer does not depend on the second.  `together_iff` says what that means for a list row and its
manual mark: they change together in every run of the three operations on them, except where that
second delete fails on a mark that is there.

The scripts are written against the connection of the library on transactions: a statement works
on the open transaction if there is one and on the database otherwise, and an error that leaves a
transaction drops it, which rolls back.  Each script is then related to the function of the
earlier module by one equation, so that what was proved of the functions holds of the statements.

In an import every execution of a statement may fail on its own, which is why its plan is about a
call together with the place of its domain.  A retry of a busy database is an execution that does
not fail, and a time-out is one that does.
-/

namespace RustBlocker

/-- The error a call fails with, if it does. -/
def Plan.failure {γ ε : Type} (fails : Plan γ) (call : γ) (wrap : Str → ε) : Option ε :=
  (fails call).map wrap

theorem Plan.attempt_bind {γ ε α : Type} (fails : Plan γ) (call : γ) (wrap : Str → ε)
    (next : Unit → Except ε α) :
    (fails.attempt call wrap >>= next) = (fails.failure call wrap).elim (next ()) .error := by
  unfold Plan.attempt Plan.failure
  cases fails call <;> rfl

theorem Plan.isSome_failure {γ ε : Type} (fails : Plan γ) (call : γ) (wrap : Str → ε) :
    (fails.failure call wrap).isSome = (fails call).isSome := Option.isSome_map

/-! ## The scripts

Statement by statement, in the order of the source, with the points at which a transaction begins
and ends. -/

/-- `add_domain`. -/
def addDomainScript (u : CaseTables) (fails : Plan AddDomainCall) (list : DomainList)
    (domain : Str) : Script Db DbError Nat := do
  .call (fails.failure .connection .pool)
  let normalized := dbNormalize u domain
  Script.transaction (fails.failure .begin .sql) (fails.failure .commit .sql) do
    .execute (fails.failure .insertDomain .sql) (fun _ => ()) (·.insertDomain list normalized)
    let id ← .queryRow (fails.failure .selectId .sql) (.sql "Query returned no rows".toList)
      fun db => (db.domains list).idOf? normalized
    .execute (fails.failure .insertManual .sql) (fun _ => ()) (·.insertManual list normalized)
    return id

/-- A statement of an import, with the place of its domain among those of the
content: each execution may fail on its own. -/
abbrev ImportStatement := ImportCall × Nat

/-- The loop of `insert_domains_from_content`, from the `n`-th domain on. -/
def importScript (u : CaseTables) (hash : Bytes → UInt64) (fails : Plan ImportStatement)
    (list : DomainList) :
    Nat → List Str → DomainImportResult → Script Db DbError DomainImportResult
  | _, [], result => pure result
  | n, domain :: rest, result => do
      let rows ← .execute (fails.failure (.insertDomain domain, n) .sql)
        (insertedRows · list domain) (·.insertDomain list domain)
      .execute (fails.failure (.insertManual domain, n) .sql) (fun _ => ())
        (·.insertManual list domain)
      importScript u hash fails list (n + 1) rest
        { inserted := result.inserted + rows
          store := (result.store.insert u hash domain).1 }

/-- `bulk_import_domains_with_entries`. -/
def bulkImportScript (u : CaseTables) (hash : Bytes → UInt64) (fails : Plan ImportStatement)
    (list : DomainList) (content : Str) : Script Db DbError DomainImportResult := do
  .call (fails.failure (.connection, 0) .pool)
  Script.transaction (fails.failure (.begin, 0) .sql) (fails.failure (.commit, 0) .sql) do
    .call (fails.failure (.prepareDomain, 0) .sql)
    .call (fails.failure (.prepareManual, 0) .sql)
    importScript u hash fails list 0 (contentDomains content) { inserted := 0, store := .default }

/-- `delete_domain_by_id`: an error of the connection, of the select or of the
first delete is a `None`, one of the second delete is dropped. -/
def deleteDomainScript (fails : Plan DeleteDomainCall) (list : DomainList) (id : Nat) :
    Script Db DbError (Option Str) := do
  let some () ← Script.ok? (.call (fails.failure .connection .pool)) | return none
  let some domain ← Script.ok? (.queryRow (fails.failure .select .sql)
    (.sql "Query returned no rows".toList) fun db => (db.domains list).find? id) | return none
  let some rows ← Script.ok? (.execute (fails.failure .delete .sql)
    (fun db => ((db.domains list).rows.filter fun row => row.1 == id).length)
    fun db => db.setDomains list ((db.domains list).deleteWhere fun row => row.1 == id))
    | return none
  if rows > 0 then
    let _ ← Script.ok? (.execute (fails.failure .deleteManual .sql) (fun _ => ())
      fun db => { db with manualDomains := db.manualDomains.erase (list, domain) })
    return some domain
  else return none

/-- What the statements of a refresh work on: the database and the rows of the
temporary table `tmp_source_old_domains` of the connection. -/
structure RefreshTables where
  db : Db
  oldDomains : Finset Str := ∅

/-- Change the database. -/
def RefreshTables.onDb (f : Db → Db) (t : RefreshTables) : RefreshTables :=
  { t with db := f t.db }

/-- The loop of `replace_source_domains`. -/
def writeOwnedScript (fails : Plan RefreshCall) (sourceId : Nat) (list : DomainList) :
    List Str → Script RefreshTables Str Unit
  | [] => pure ()
  | domain :: rest => do
      .execute (fails.failure (.insertOwned domain) (withContext "insert source_domains".toList))
        (fun _ => ()) (.onDb (·.own sourceId domain))
      .execute (fails.failure (.insertDomain domain) (withContext "insert domain".toList))
        (fun _ => ()) (.onDb (·.insertDomain list domain))
      writeOwnedScript fails sourceId list rest

/-- The body of the transaction of `replace_source_domains`. -/
def refreshBody (fails : Plan RefreshCall) (now : Str) (sourceId : Nat) (list : DomainList)
    (newList : List Str) : Script RefreshTables Str Nat := do
  .execute (fails.failure .prepareTemp (withContext "prepare temp old domains".toList))
    (fun _ => ()) fun t => { t with oldDomains := ∅ }
  .execute (fails.failure .snapshotOld (withContext "snapshot old domains".toList))
    (fun _ => ()) fun t => { t with oldDomains := t.oldDomains ∪ t.db.ownedBy sourceId }
  .execute (fails.failure .clearOwned (withContext "clear source_domains".toList))
    (fun _ => ()) (.onDb (·.disown sourceId))
  .call (fails.failure .prepareOwned (withContext "prepare source_domains insert".toList))
  .call (fails.failure (.prepareDomain list)
    (withContext ("prepare ".toList ++ list.type ++ " insert".toList)))
  writeOwnedScript fails sourceId list newList
  .execute (fails.failure .prune (withContext "prune unreferenced domains".toList))
    (fun _ => ()) fun t => t.onDb (·.prune list t.oldDomains)
  .execute (fails.failure .updateStatus (withContext "update source status".toList))
    (fun _ => ()) (.onDb (·.updateSourceStatus now sourceId (okStatus newList.length)))
  return newList.length

/-- `replace_source_domains`, without the rebuild of the store. -/
def replaceScript (fails : Plan RefreshCall) (now : Str) (sourceId : Nat) (list : DomainList)
    (content : Str) : Script RefreshTables Str Nat := do
  .call (fails.failure .connection (withContext "failed to get DB connection".toList))
  let newList ← .lift (parseSourceDomains content)
  let previousCount ← .query
    (fails.failure .countPrior (withContext "count prior source domains".toList))
    fun t => (t.db.ownedBy sourceId).card
  if retains previousCount newList.length then
    Script.transaction
      (fails.failure .begin (withContext "failed to begin transaction".toList))
      (fails.failure .commit (withContext "commit source refresh".toList))
      (refreshBody fails now sourceId list newList)
  else
    .lift (.error ("suspicious content: ".toList ++ decimal newList.length ++
      " usable domains would retain less than ".toList ++ decimal minSourceRetainedPercent ++
      "% of prior ".toList ++ decimal previousCount))

/-! ## What the scripts come to

A script whose writes are all within one transaction settles, and what it settles to is the
function of the earlier module.  Where it does not, as in `delete_domain_by_id`, the connection it
leaves is computed. -/

section Settling

open Script

/-- **`add_domain`** settles: its function says what it returns and writes. -/
theorem addDomainScript_settles (u : CaseTables) (fails : Plan AddDomainCall) (list : DomainList)
    (domain : Str) :
    Settles (addDomainScript u fails list domain) fun db => addDomain u fails db list domain := by
  have body := (Computes.execute (fails.failure .insertDomain DbError.sql) (fun _ => ())
      fun db : Db => db.insertDomain list (dbNormalize u domain)).bind fun _ =>
    (Computes.read fun db : Db => (fails.failure .selectId DbError.sql).elim
      (((db.domains list).idOf? (dbNormalize u domain)).elim
        (.error (.sql "Query returned no rows".toList)) .ok) .error).bind fun id =>
    (Computes.execute (fails.failure .insertManual DbError.sql) (fun _ => ())
      fun db : Db => db.insertManual list (dbNormalize u domain)).bind fun _ =>
    Computes.pure id
  unfold addDomainScript
  refine (Settles.read_bind _ fun _ => body.transaction _ _).congr fun db => ?_
  simp only [addDomain, Plan.attempt_bind, elim_error_bind, ok_bind]
  cases ((db.insertDomain list (dbNormalize u domain)).domains list).idOf?
      (dbNormalize u domain) with
  | none => rfl
  | some id =>
      simp only [Option.elim_some, ok_bind, elim_error_bind]
      rfl

/-- The error of the first statement of an import that fails, from the `n`-th
domain on. -/
def firstFailure (fails : Plan ImportStatement) : Nat → List Str → Option Str
  | _, [] => none
  | n, domain :: rest =>
      (fails (.insertDomain domain, n)).or
        ((fails (.insertManual domain, n)).or (firstFailure fails (n + 1) rest))

theorem importScript_computes (u : CaseTables) (hash : Bytes → UInt64)
    (fails : Plan ImportStatement) (list : DomainList) (n : Nat) (domains : List Str)
    (result : DomainImportResult) :
    Computes (importScript u hash fails list n domains result) fun db =>
      ((firstFailure fails n domains).map DbError.sql).elim
        (importDomains u hash .clear list domains result db) .error := by
  induction domains generalizing n result with
  | nil => exact .pure result
  | cons domain rest ih =>
      unfold importScript
      refine ((Computes.execute _ _ _).bind fun rows =>
        (Computes.execute _ _ _).bind fun _ => ih (n + 1) _).congr fun db => ?_
      simp only [elim_error_bind, ok_bind, Plan.failure, firstFailure]
      cases fails (.insertDomain domain, n) with
      | some error => rfl
      | none =>
          cases fails (.insertManual domain, n) with
          | some error => rfl
          | none => rfl

/-- The error of a whole import: of a statement before the loop, of one in it, or
of the commit. -/
def importFailure (fails : Plan ImportStatement) (domains : List Str) : Option DbError :=
  (fails.failure (.connection, 0) .pool).or <|
    (fails.failure (.begin, 0) .sql).or <|
    (fails.failure (.prepareDomain, 0) .sql).or <|
    (fails.failure (.prepareManual, 0) .sql).or <|
    ((firstFailure fails 0 domains).map .sql).or (fails.failure (.commit, 0) .sql)

/-- **`bulk_import_domains_with_entries`** settles, whichever executions fail. -/
theorem bulkImportScript_settles (u : CaseTables) (hash : Bytes → UInt64)
    (fails : Plan ImportStatement) (list : DomainList) (content : Str) :
    Settles (bulkImportScript u hash fails list content) fun db =>
      (importFailure fails (contentDomains content)).elim
        (bulkImport u hash .clear db list content) .error := by
  unfold bulkImportScript
  refine (Settles.read_bind _ fun _ => Computes.transaction ((Computes.read _).bind fun _ =>
    (Computes.read _).bind fun _ => importScript_computes ..) _ _).congr fun db => ?_
  simp only [bulkImport, Plan.attempt_clear, elim_error_bind, ok_bind, importFailure]
  obtain ⟨out, imported⟩ := importDomains_clear u hash list (contentDomains content)
    { inserted := 0, store := .default } db
  rw [imported]
  cases fails.failure (.connection, 0) DbError.pool with
  | some e => rfl
  | none =>
  cases fails.failure (.begin, 0) DbError.sql with
  | some e => rfl
  | none =>
  cases fails.failure (.prepareDomain, 0) DbError.sql with
  | some e => rfl
  | none =>
  cases fails.failure (.prepareManual, 0) DbError.sql with
  | some e => rfl
  | none =>
  cases firstFailure fails 0 (contentDomains content) with
  | some e => rfl
  | none =>
  cases fails.failure (.commit, 0) DbError.sql with
  | some e => rfl
  | none => rfl

/-- **`delete_domain_by_id`** does not settle: it leaves the database its function
says, which after a failure is neither the old one nor that of the whole deletion. -/
theorem deleteDomainScript_apply (fails : Plan DeleteDomainCall) (list : DomainList) (id : Nat)
    (db : Db) :
    deleteDomainScript fails list id ⟨db, none⟩ =
      (.ok (deleteDomainById fails db list id).2,
        ⟨(deleteDomainById fails db list id).1, none⟩) := by
  unfold deleteDomainById deleteDomainScript
  rw [← Plan.isSome_failure fails .connection DbError.pool,
    ← Plan.isSome_failure fails .select DbError.sql]
  cases fails.failure .connection DbError.pool with
  | some e => rfl
  | none =>
  cases fails.failure .select DbError.sql with
  | some e => rfl
  | none =>
  have connected : ok? (call (none : Option DbError)) ⟨db, none⟩ = (.ok (some ()), ⟨db, none⟩) :=
    rfl
  rw [bind_apply_of_ok connected]
  simp only
  cases found : (db.domains list).find? id with
  | none =>
      rw [bind_apply_of_ok (ok?_queryRow_of_none _ found)]
      rfl
  | some domain =>
      rw [bind_apply_of_ok (ok?_queryRow_of_some _ found)]
      simp only
      rw [← Plan.isSome_failure fails .delete DbError.sql,
        ← Plan.isSome_failure fails .deleteManual DbError.sql]
      cases fails.failure .delete DbError.sql with
      | some e => rfl
      | none =>
          -- The row that was found is one that the delete counts.
          have deletes : (((Connection.mk db none).current.domains list).rows.filter
              fun row => row.1 == id).length > 0 :=
            List.length_pos_of_mem
              (List.mem_filter.mpr ⟨SqlTable.find?_eq_some.mp found, beq_self_eq_true id⟩)
          rw [bind_apply_of_ok (ok?_execute_none ..)]
          simp only
          rw [if_pos deletes]
          cases fails.failure .deleteManual DbError.sql with
          | some e => rfl
          | none => rfl

theorem writeOwnedScript_computes (fails : Plan RefreshCall) (sourceId : Nat) (list : DomainList)
    (domains : List Str) :
    Computes (writeOwnedScript fails sourceId list domains) fun t =>
      writeOwned fails sourceId list domains t.db >>= fun db => .ok ((), { t with db := db }) := by
  induction domains with
  | nil => exact .pure ()
  | cons domain rest ih =>
      unfold writeOwnedScript
      refine ((Computes.execute _ _ _).bind fun _ =>
        (Computes.execute _ _ _).bind fun _ => ih).congr fun t => ?_
      simp only [writeOwned, Plan.attempt_bind, elim_error_bind, ok_bind]
      rfl

/-- **`replace_source_domains`** settles: its function says what it returns and
writes, and the temporary table keeps what the source owned before. -/
theorem replaceScript_settles (fails : Plan RefreshCall) (now : Str) (sourceId : Nat)
    (list : DomainList) (content : Str) :
    Settles (replaceScript fails now sourceId list content) fun t =>
      replaceSourceDomains fails now t.db sourceId list content >>= fun r =>
        .ok (r.1, { db := r.2, oldDomains := t.db.ownedBy sourceId }) := by
  have body (newList : List Str) := (Computes.execute
      (fails.failure .prepareTemp (withContext "prepare temp old domains".toList)) (fun _ => ())
      fun t : RefreshTables => { t with oldDomains := ∅ }).bind fun _ =>
    (Computes.execute (fails.failure .snapshotOld (withContext "snapshot old domains".toList))
      (fun _ => ()) fun t : RefreshTables =>
        { t with oldDomains := t.oldDomains ∪ t.db.ownedBy sourceId }).bind fun _ =>
    (Computes.execute (fails.failure .clearOwned (withContext "clear source_domains".toList))
      (fun _ => ()) (RefreshTables.onDb (·.disown sourceId))).bind fun _ =>
    (Computes.read fun _ => (fails.failure .prepareOwned
      (withContext "prepare source_domains insert".toList)).elim (.ok ()) .error).bind fun _ =>
    (Computes.read fun _ => (fails.failure (.prepareDomain list)
      (withContext ("prepare ".toList ++ list.type ++ " insert".toList))).elim
        (.ok ()) .error).bind fun _ =>
    (writeOwnedScript_computes fails sourceId list newList).bind fun _ =>
    (Computes.execute (fails.failure .prune (withContext "prune unreferenced domains".toList))
      (fun _ => ()) fun t => t.onDb (·.prune list t.oldDomains)).bind fun _ =>
    (Computes.execute (fails.failure .updateStatus (withContext "update source status".toList))
      (fun _ => ())
      (RefreshTables.onDb (·.updateSourceStatus now sourceId (okStatus newList.length)))).bind
        fun _ => Computes.pure newList.length
  unfold replaceScript refreshBody
  refine (Settles.read_bind _ fun _ => Settles.read_bind _ fun newList =>
    Settles.read_bind _ fun previousCount =>
      .ite _ ((body newList).transaction _ _) (.read _)).congr fun t => ?_
  unfold replaceSourceDomains
  simp only [Plan.attempt_bind, elim_error_bind, ok_bind]
  cases parseSourceDomains content with
  | error e => rfl
  | ok newList =>
  simp only [elim_error_bind, ok_bind, RefreshTables.onDb, Finset.empty_union]
  by_cases kept : retains (t.db.ownedBy sourceId).card newList.length = true
  · rw [if_pos kept, if_pos kept]
    simp only [elim_error_bind]
    cases writeOwned fails sourceId list newList (t.db.disown sourceId) with
    | error e => rfl
    | ok written =>
        simp only [ok_bind, elim_error_bind]
        rfl
  · rw [if_neg kept, if_neg kept]
    rfl

section Replacing

variable {fails : Plan RefreshCall} {now content : Str} {sourceId : Nat} {list : DomainList}
variable {t : RefreshTables} {c : Connection RefreshTables}

/-- An error of `replace_source_domains` leaves the connection as it was. -/
theorem replaceScript_error {error : Str}
    (ran : replaceScript fails now sourceId list content ⟨t, none⟩ = (.error error, c)) :
    c = ⟨t, none⟩ ∧ replaceSourceDomains fails now t.db sourceId list content = .error error := by
  rw [replaceScript_settles] at ran
  obtain ⟨outcome, rest⟩ := settle_error ran
  refine ⟨rest, ?_⟩
  simp only at outcome
  cases replaced : replaceSourceDomains fails now t.db sourceId list content with
  | error error' =>
      rw [replaced] at outcome
      cases outcome
      rfl
  | ok r =>
      rw [replaced] at outcome
      cases outcome

theorem replaceScript_ok {count : Nat}
    (ran : replaceScript fails now sourceId list content ⟨t, none⟩ = (.ok count, c)) :
    ∃ db, replaceSourceDomains fails now t.db sourceId list content = .ok (count, db) ∧
      c = ⟨{ db, oldDomains := t.db.ownedBy sourceId }, none⟩ := by
  rw [replaceScript_settles] at ran
  obtain ⟨after, outcome, rest⟩ := settle_ok ran
  simp only at outcome
  cases replaced : replaceSourceDomains fails now t.db sourceId list content with
  | error error =>
      rw [replaced] at outcome
      cases outcome
  | ok r =>
      rw [replaced] at outcome
      cases outcome
      exact ⟨r.2, rfl, rest⟩

end Replacing

end Settling

/-! ## A list row and its manual mark

An operation that settles to its whole effect or to an error keeps rows and marks together.  For
the deletion this leaves one case to look at. -/

/-- The operations on a list row and its manual mark, with the statements of theirs
that fail. -/
inductive MarkedWrite where
  | addDomain (fails : Plan AddDomainCall) (list : DomainList) (domain : Str)
  | bulkImport (fails : Plan ImportStatement) (list : DomainList) (content : Str)
  | deleteDomainById (fails : Plan DeleteDomainCall) (list : DomainList) (id : Nat)

namespace MarkedWrite

variable (u : CaseTables) (hash : Bytes → UInt64)

/-- Run the operation: whether it reports success, and the connection it leaves. -/
def run (c : Connection Db) : MarkedWrite → Bool × Connection Db
  | .addDomain fails list domain =>
      let r := addDomainScript u fails list domain c
      (r.1.toBool, r.2)
  | .bulkImport fails list content =>
      let r := bulkImportScript u hash fails list content c
      (r.1.toBool, r.2)
  | .deleteDomainById fails list id =>
      let r := deleteDomainScript fails list id c
      (r.1.toOption.join.isSome, r.2)

/-- The whole effect: each domain gets a row and a mark, or the row of the id goes
with its mark. -/
def whole (db : Db) : MarkedWrite → Db
  | .addDomain _ list domain =>
      (db.insertDomain list (normalizeDomain u domain)).insertManual list (normalizeDomain u domain)
  | .bulkImport _ list content => db.importAll list (contentDomains content)
  | .deleteDomainById _ list id =>
      match (db.domains list).find? id with
      | none => db
      | some domain =>
          { db.setDomains list ((db.domains list).deleteWhere fun row => row.1 == id) with
            manualDomains := db.manualDomains.erase (list, domain) }

/-- The list tables and the manual marks are those of `other`; the other tables may differ. -/
structure SameMarked (db other : Db) : Prop where
  domains : db.domains = other.domains
  manualDomains : db.manualDomains = other.manualDomains

/-- After a run on a connection at rest no transaction is open, the rows and the
marks reflect the whole operation or are what they were, and the operation reports
success only in the first case. -/
structure Together (db : Db) (op : MarkedWrite) : Prop where
  rest : (op.run u hash ⟨db, none⟩).2.working = none
  whole_or_none : SameMarked (op.run u hash ⟨db, none⟩).2.stored (op.whole u db) ∨
    SameMarked (op.run u hash ⟨db, none⟩).2.stored db
  reports : (op.run u hash ⟨db, none⟩).1 = true →
    SameMarked (op.run u hash ⟨db, none⟩).2.stored (op.whole u db)

/-- A deletion reaches its second delete, the domain is marked, and that delete
fails. -/
def LeavesMark (db : Db) : MarkedWrite → Prop
  | .addDomain .. => False
  | .bulkImport .. => False
  | .deleteDomainById fails list id =>
      (∀ call ∈ [DeleteDomainCall.connection, .select, .delete], fails call = none) ∧
        (fails .deleteManual).isSome = true ∧
        ∃ domain, (db.domains list).find? id = some domain ∧ (list, domain) ∈ db.manualDomains

variable {u hash}

/-- An operation that settles to its whole effect or to an error keeps rows and
marks together. -/
theorem Together.of_run {db : Db} {op : MarkedWrite}
    (outcome : op.run u hash ⟨db, none⟩ = (false, ⟨db, none⟩) ∨
      ∃ db' success, op.run u hash ⟨db, none⟩ = (success, ⟨db', none⟩) ∧
        SameMarked db' (op.whole u db)) : Together u hash db op := by
  rcases outcome with same | ⟨db', success, ran, same⟩
  · refine ⟨by rw [same], Or.inr ?_, ?_⟩
    · rw [same]
      exact ⟨rfl, rfl⟩
    · rw [same]
      intro reported
      cases reported
  · refine ⟨by rw [ran], Or.inl ?_, fun _ => ?_⟩
    · rw [ran]
      exact same
    · rw [ran]
      exact same

theorem addDomain_together (db : Db) (fails : Plan AddDomainCall) (list : DomainList)
    (domain : Str) : Together u hash db (.addDomain fails list domain) := by
  have settled := addDomainScript_settles u fails list domain db
  apply Together.of_run
  simp only [run, settled]
  cases outcome : RustBlocker.addDomain u fails db list domain with
  | error e => exact Or.inl rfl
  | ok r =>
      refine Or.inr ⟨r.2, true, rfl, ?_⟩
      rw [addDomain_eq_ok outcome]
      exact ⟨rfl, rfl⟩

theorem bulkImport_together (db : Db) (fails : Plan ImportStatement) (list : DomainList)
    (content : Str) : Together u hash db (.bulkImport fails list content) := by
  have settled := bulkImportScript_settles u hash fails list content db
  apply Together.of_run
  simp only [run, settled]
  cases importFailure fails (contentDomains content) with
  | some e => exact Or.inl rfl
  | none =>
      obtain ⟨out, imported⟩ := bulkImport_clear u hash db list content
      simp only [Option.elim_none, imported]
      refine Or.inr ⟨out.2, true, rfl, ?_⟩
      rw [(bulkImport_eq_ok imported).1]
      exact ⟨rfl, rfl⟩

/-- A deletion that answers `None` changed nothing. -/
theorem deleteDomainById_eq_none {fails : Plan DeleteDomainCall} {db : Db} {list : DomainList}
    {id : Nat} (none : (RustBlocker.deleteDomainById fails db list id).2 = Option.none) :
    RustBlocker.deleteDomainById fails db list id = (db, Option.none) := by
  revert none
  unfold RustBlocker.deleteDomainById
  split
  · exact fun _ => rfl
  split
  · exact fun _ => rfl
  split
  · exact fun _ => rfl
  simp only
  split
  · exact fun present => nomatch present
  · exact fun present => nomatch present

theorem deleteDomain_together_iff (db : Db) (fails : Plan DeleteDomainCall) (list : DomainList)
    (id : Nat) : Together u hash db (.deleteDomainById fails list id) ↔
      ¬ LeavesMark db (.deleteDomainById fails list id) := by
  have ran : (MarkedWrite.deleteDomainById fails list id).run u hash ⟨db, none⟩ =
      ((RustBlocker.deleteDomainById fails db list id).2.isSome,
        ⟨(RustBlocker.deleteDomainById fails db list id).1, none⟩) := by
    simp only [run, deleteDomainScript_apply]
    rfl
  cases answer : (RustBlocker.deleteDomainById fails db list id).2 with
  | none =>
      rw [deleteDomainById_eq_none answer] at ran
      refine ⟨fun _ => ?_, fun _ => Together.of_run (Or.inl ran)⟩
      rintro ⟨calls, -, domain, found, -⟩
      have deleted := deleteDomainById_eq_some.mpr ⟨calls, found, rfl⟩
      rw [deleted] at answer
      cases answer
  | some domain =>
      obtain ⟨db', deleted⟩ : ∃ db', RustBlocker.deleteDomainById fails db list id =
          (db', some domain) := ⟨_, Prod.ext rfl answer⟩
      rw [deleted] at ran
      obtain ⟨calls, found, rfl⟩ := deleteDomainById_eq_some.mp deleted
      have effect : MarkedWrite.whole u db (.deleteDomainById fails list id) =
          { db.setDomains list ((db.domains list).deleteWhere fun row => row.1 == id) with
            manualDomains := db.manualDomains.erase (list, domain) } := by
        simp only [whole, found]
      constructor
      · rintro ⟨-, -, reports⟩ ⟨-, fails', domain', found', marked⟩
        rw [found] at found'
        cases found'
        have same := (reports (by rw [ran]; rfl)).manualDomains
        rw [ran, effect] at same
        simp only [fails', if_true] at same
        rw [same] at marked
        exact Finset.notMem_erase _ _ marked
      · intro keeps
        refine Together.of_run (Or.inr ⟨_, _, ran, ?_⟩)
        rw [effect]
        refine ⟨rfl, ?_⟩
        show (if (fails .deleteManual).isSome then _ else _) = _
        split
        case isFalse => rfl
        case isTrue failed =>
            -- The delete that failed had nothing to delete.
            have unmarked : (list, domain) ∉ db.manualDomains := fun marked =>
              keeps ⟨calls, failed, domain, found, marked⟩
            exact (Finset.erase_eq_of_notMem unmarked).symm

/-- **A list row and its manual mark change together**, unless a deletion leaves the
mark behind: whatever the state, the argument and the statements that fail. -/
theorem together_iff (u : CaseTables) (hash : Bytes → UInt64) (db : Db) (op : MarkedWrite) :
    Together u hash db op ↔ ¬ LeavesMark db op := by
  cases op with
  | addDomain fails list domain => exact iff_of_true (addDomain_together ..) id
  | bulkImport fails list content => exact iff_of_true (bulkImport_together ..) id
  | deleteDomainById fails list id => exact deleteDomain_together_iff ..

/-- A domain an operator added to an empty blocklist. -/
def oneMarked : Db := (Db.insertDomain {} .blocklist "ads.example".toList).insertManual .blocklist
  "ads.example".toList

/-- The deletion of a manual domain whose second delete fails, as while another
connection holds the write lock: the answer is the domain, the row is gone, and the
mark stays. -/
theorem not_together_of_locked :
    ¬ Together .ascii (fun _ => 0) oneMarked
      (.deleteDomainById (fun call => if call = .deleteManual then some "locked".toList else none)
        .blocklist 1) := by
  intro together
  have marks := (together.reports (by decide)).manualDomains
  have stays : (DomainList.blocklist, "ads.example".toList) ∈
      ((MarkedWrite.deleteDomainById
        (fun call => if call = .deleteManual then some "locked".toList else none)
        .blocklist 1).run .ascii (fun _ => 0) ⟨oneMarked, none⟩).2.stored.manualDomains := by
    decide
  rw [marks] at stays
  revert stays
  decide

end MarkedWrite

end RustBlocker
