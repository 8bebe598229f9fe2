import RustBlocker.Pruning
import RustBlocker.Snapshots

/-!
# What the other list requests do to the database

One lemma for each remaining function that writes a list: its effect when it succeeds, whatever
calls the plan lets fail, and that it does succeed when none fails.  `SameOwnership` is the frame
they share: none of them touches the sources or the ownership rows.

A function of the database either commits or leaves the database as it was, and its effect does
not depend on the plan: the plan only decides which of the two happens.  The lemmas have that
form, with the result on one side and the pure effect on the other, so that what uses them never
unfolds a transaction.  `RefreshCommits` is the condition for the longest of these transactions.
-/

namespace RustBlocker

/-- The sources and what they own are the same in both, rows and all. -/
structure SameOwnership (db db' : Db) : Prop where
  sources : db'.sources = db.sources
  sourceDomains : db'.sourceDomains = db.sourceDomains

namespace SameOwnership

theorem refl (db : Db) : SameOwnership db db := ⟨rfl, rfl⟩

theorem trans {db db' db'' : Db} (first : SameOwnership db db') (second : SameOwnership db' db'') :
    SameOwnership db db'' :=
  ⟨second.sources.trans first.sources, second.sourceDomains.trans first.sourceDomains⟩

theorem setDomains (db : Db) (list : DomainList) (table : DomainTable) :
    SameOwnership db (db.setDomains list table) := ⟨rfl, rfl⟩

theorem insertDomain (db : Db) (list : DomainList) (domain : Str) :
    SameOwnership db (db.insertDomain list domain) := ⟨rfl, rfl⟩

theorem insertManual (db : Db) (list : DomainList) (domain : Str) :
    SameOwnership db (db.insertManual list domain) := ⟨rfl, rfl⟩

end SameOwnership

/-! ## `add_domain` -/

theorem addDomain_eq_ok {u : CaseTables} {fails : Plan AddDomainCall} {db db' : Db}
    {list : DomainList} {domain : Str} {id : Nat}
    (ok : addDomain u fails db list domain = .ok (id, db')) :
    db' = (db.insertDomain list (normalizeDomain u domain)).insertManual list
      (normalizeDomain u domain) := by
  rw [← dbNormalize_eq]
  iterate 4 obtain ⟨-, ok⟩ := Plan.attempt_bind_eq_ok.mp ok
  split at ok
  · cases ok
  · iterate 2 obtain ⟨-, ok⟩ := Plan.attempt_bind_eq_ok.mp ok
    cases ok
    rfl

theorem addDomain_clear (u : CaseTables) (db : Db) (list : DomainList) (domain : Str) :
    ∃ id, addDomain u .clear db list domain =
      .ok (id, (db.insertDomain list (normalizeDomain u domain)).insertManual list
        (normalizeDomain u domain)) := by
  rw [← dbNormalize_eq]
  have stored : dbNormalize u domain ∈
      ((db.insertDomain list (dbNormalize u domain)).domains list).values :=
    Db.mem_insertDomain.mpr (Or.inl ⟨rfl, rfl⟩)
  obtain ⟨id, found⟩ := Option.isSome_iff_exists.mp (SqlTable.idOf?_isSome stored rfl)
  refine ⟨id, ?_⟩
  simp only [addDomain, Plan.attempt_clear, Plan.ok_bind, found]
  rfl

/-! ## `delete_domain_by_id`

Three statements without a transaction: the select, the delete of the row and the delete of its
mark. A failure of the last one is not seen by the caller. -/

/-- Without a failing call the row of the id goes, and its manual mark. -/
theorem deleteDomainById_clear {db : Db} {list : DomainList} {id : Nat} {domain : Str}
    (found : (db.domains list).find? id = some domain) :
    deleteDomainById .clear db list id =
      ({ db.setDomains list ((db.domains list).deleteWhere fun row => row.1 == id) with
          manualDomains := db.manualDomains.erase (list, domain) }, some domain) := by
  simp [deleteDomainById, Plan.clear, found, Db.setDomains]

/-- The domain `delete_domain_by_id` deletes, and what it does then. -/
theorem deleteDomainById_eq_some {fails : Plan DeleteDomainCall} {db db' : Db} {list : DomainList}
    {id : Nat} {domain : Str} :
    deleteDomainById fails db list id = (db', some domain) ↔
      (∀ call ∈ [DeleteDomainCall.connection, .select, .delete], fails call = none) ∧
        (db.domains list).find? id = some domain ∧
        db' =
          { db.setDomains list ((db.domains list).deleteWhere fun row => row.1 == id) with
            manualDomains :=
              if (fails .deleteManual).isSome then db.manualDomains
              else db.manualDomains.erase (list, domain) } := by
  unfold deleteDomainById
  simp only [List.mem_cons, List.not_mem_nil, or_false, forall_eq_or_imp, forall_eq]
  cases connection : fails .connection with
  | some error => simp
  | none =>
    cases select : fails .select with
    | some error => simp
    | none =>
      cases found : (db.domains list).find? id with
      | none => simp
      | some here =>
        cases delete : fails .delete with
        | some error => simp
        | none =>
          cases fails .deleteManual with
          | some error =>
              simp only [Option.isSome_none, Option.isSome_some, Bool.or_self, if_true,
                if_neg Bool.false_ne_true, Prod.mk.injEq, Option.some_inj, true_and]
              exact ⟨fun both => ⟨both.2, both.1.symm⟩, fun both => ⟨both.2.symm, both.1⟩⟩
          | none =>
              simp only [Option.isSome_none, Bool.or_self, if_neg Bool.false_ne_true,
                Prod.mk.injEq, Option.some_inj, true_and]
              constructor
              · rintro ⟨rfl, rfl⟩
                exact ⟨rfl, rfl⟩
              · rintro ⟨rfl, rfl⟩
                exact ⟨rfl, rfl⟩

theorem deleteDomainById_none {fails : Plan DeleteDomainCall} {db : Db} {list : DomainList}
    {id : Nat} (absent : (db.domains list).find? id = none) :
    deleteDomainById fails db list id = (db, none) := by
  unfold deleteDomainById
  rw [absent]
  split <;> rfl

theorem deleteDomainById_sameOwnership (fails : Plan DeleteDomainCall) (db : Db)
    (list : DomainList) (id : Nat) :
    SameOwnership db (deleteDomainById fails db list id).1 := by
  unfold deleteDomainById
  split
  · exact .refl db
  split
  · exact .refl db
  split
  · exact .refl db
  simp only
  split
  · exact .setDomains ..
  · exact ⟨rfl, rfl⟩

/-- The domains of a table without the row of an id. -/
theorem mem_deleteWhere_id {t : DomainTable} {id : Nat} {domain d : Str}
    (found : t.find? id = some domain) :
    d ∈ (t.deleteWhere fun row => row.1 == id).values ↔ d ≠ domain ∧ d ∈ t.values := by
  have here := SqlTable.find?_eq_some.mp found
  rw [SqlTable.mem_values_deleteWhere, SqlTable.mem_values]
  constructor
  · rintro ⟨id', row, kept⟩
    refine ⟨?_, id', row⟩
    rintro rfl
    have same := List.inj_on_of_nodup_map t.nodup_values row here rfl
    simp [(Prod.mk.inj same).1] at kept
  · rintro ⟨differs, id', row⟩
    refine ⟨id', row, beq_eq_false_iff_ne.mpr ?_⟩
    rintro rfl
    have found' := SqlTable.find?_eq_some.mpr row
    rw [found] at found'
    exact differs (Option.some.inj found').symm

/-! ## Bulk import

A bulk import is one transaction and one store.  If it succeeds, both have the domains of the
content; if it fails, there is neither a store nor a row. -/

/-- Write and mark every domain, in order. -/
def Db.importAll (db : Db) (list : DomainList) (domains : List Str) : Db :=
  domains.foldl (fun db domain => (db.insertDomain list domain).insertManual list domain) db

theorem Db.importAll_sameOwnership (db : Db) (list : DomainList) (domains : List Str) :
    SameOwnership db (db.importAll list domains) := by
  induction domains generalizing db with
  | nil => exact .refl db
  | cons domain rest ih =>
      have here : SameOwnership db ((db.insertDomain list domain).insertManual list domain) :=
        ⟨rfl, rfl⟩
      exact here.trans (ih _)

theorem Db.mem_importAll {db : Db} {list list' : DomainList} {domains : List Str} {d : Str} :
    d ∈ ((db.importAll list domains).domains list').values ↔
      (list' = list ∧ d ∈ domains) ∨ d ∈ (db.domains list').values := by
  induction domains generalizing db with
  | nil => simp [importAll]
  | cons domain rest ih =>
      have one : d ∈ (((db.insertDomain list domain).insertManual list domain).domains
          list').values ↔ (list' = list ∧ d = domain) ∨ d ∈ (db.domains list').values :=
        mem_insertDomain
      have step : db.importAll list (domain :: rest) =
          ((db.insertDomain list domain).insertManual list domain).importAll list rest := rfl
      rw [step, ih, one, List.mem_cons]
      tauto

theorem importDomains_eq_ok {u : CaseTables} {hash : Bytes → UInt64} {fails : Plan ImportCall}
    {list : DomainList} {domains : List Str} {result result' : DomainImportResult} {db db' : Db}
    (ok : importDomains u hash fails list domains result db = .ok (result', db')) :
    db' = db.importAll list domains ∧
      result'.store =
        domains.foldl (fun store domain => (store.insert u hash domain).1) result.store := by
  induction domains generalizing db result with
  | nil =>
      cases ok
      exact ⟨rfl, rfl⟩
  | cons domain rest ih =>
      iterate 2 obtain ⟨-, ok⟩ := Plan.attempt_bind_eq_ok.mp ok
      exact ih ok

theorem importDomains_clear (u : CaseTables) (hash : Bytes → UInt64) (list : DomainList)
    (domains : List Str) (result : DomainImportResult) (db : Db) :
    ∃ out, importDomains u hash .clear list domains result db = .ok out := by
  induction domains generalizing db result with
  | nil => exact ⟨_, rfl⟩
  | cons domain rest ih => exact ih _ _

/-- **A successful import** writes the domains of the content and returns the
store of exactly these domains. -/
theorem bulkImport_eq_ok {u : CaseTables} {hash : Bytes → UInt64} {fails : Plan ImportCall}
    {db db' : Db} {list : DomainList} {content : Str} {result : DomainImportResult}
    (ok : bulkImport u hash fails db list content = .ok (result, db')) :
    db' = db.importAll list (contentDomains content) ∧
      result.store = storeOf u hash (contentDomains content) := by
  iterate 4 obtain ⟨-, ok⟩ := Plan.attempt_bind_eq_ok.mp ok
  cases imported : importDomains u hash fails list (contentDomains content)
      { inserted := 0, store := .default } db with
  | error error =>
      rw [imported] at ok
      cases ok
  | ok out =>
      rw [imported] at ok
      obtain ⟨-, ok⟩ := Plan.attempt_bind_eq_ok.mp ok
      cases ok
      exact importDomains_eq_ok imported

theorem bulkImport_clear (u : CaseTables) (hash : Bytes → UInt64) (db : Db) (list : DomainList)
    (content : Str) : ∃ out, bulkImport u hash .clear db list content = .ok out := by
  obtain ⟨out, imported⟩ := importDomains_clear u hash list (contentDomains content)
    { inserted := 0, store := .default } db
  refine ⟨out, ?_⟩
  simp only [bulkImport, Plan.attempt_clear, Plan.ok_bind, imported]
  rfl

/-! ## `delete_source_with_cleanup` -/

/-- Whatever calls fail, a deletion either changes nothing or removes the source
together with its ownership rows. -/
theorem deleteSourceWithCleanup_ownership (fails : Plan DeleteSourceCall) (leftover : Finset Str)
    (db : Db) (id : Nat) :
    (deleteSourceWithCleanup fails leftover db id).1 = db ∨
      SameOwnership ((db.disown id).deleteSource id)
        (deleteSourceWithCleanup fails leftover db id).1 := by
  rcases deleteSourceWithCleanup_cases fails leftover db id with
    nothing | ⟨source, db', -, deleted, rfl | ⟨candidates, rfl⟩⟩
  · exact Or.inl (congrArg Prod.fst nothing)
  · rw [deleted]
    exact Or.inr (.refl _)
  · rw [deleted]
    exact Or.inr (.setDomains ..)

/-! ## When a refresh commits

Which calls a refresh makes depends on its content, so the condition for its success is stated
with the list of these calls. -/

/-- The calls a refresh of the given domains makes. -/
def refreshCalls (list : DomainList) (newList : List Str) : List RefreshCall :=
  [.connection, .countPrior, .begin, .prepareTemp, .snapshotOld, .clearOwned, .prepareOwned,
    .prepareDomain list] ++
  newList.flatMap (fun domain => [.insertOwned domain, .insertDomain domain]) ++
  [.prune, .updateStatus, .commit]

/-- Whether a refresh commits: the content is accepted and no call of the transaction fails. -/
def RefreshCommits (fails : Plan RefreshCall) (db : Db) (sourceId : Nat) (list : DomainList)
    (content : Str) : Prop :=
  ∃ newList, parseSourceDomains content = .ok newList ∧
    retains (db.ownedBy sourceId).card newList.length = true ∧
    ∀ call ∈ refreshCalls list newList, fails call = none

theorem writeOwned_isOk {fails : Plan RefreshCall} {sourceId : Nat} {list : DomainList}
    {domains : List Str} {db : Db} :
    writeOwned fails sourceId list domains db = .ok (db.ownAll sourceId list domains) ↔
      ∀ domain ∈ domains, fails (.insertOwned domain) = none ∧
        fails (.insertDomain domain) = none := by
  induction domains generalizing db with
  | nil => simp [writeOwned, Db.ownAll]
  | cons domain rest ih =>
      rw [writeOwned, Plan.attempt_bind_eq_ok, Plan.attempt_bind_eq_ok, Db.ownAll_cons, ih,
        List.forall_mem_cons, and_assoc]

/-- **`replace_source_domains` succeeds exactly if the refresh commits.** -/
theorem replaceSourceDomains_isOk (fails : Plan RefreshCall) (now : Str) (db : Db)
    (sourceId : Nat) (list : DomainList) (content : Str) :
    (∃ out, replaceSourceDomains fails now db sourceId list content = .ok out) ↔
      RefreshCommits fails db sourceId list content := by
  unfold RefreshCommits
  cases parsed : parseSourceDomains content with
  | error error =>
      constructor
      · rintro ⟨⟨n, db'⟩, ok⟩
        obtain ⟨newList, same, -⟩ := replaceSourceDomains_eq_ok ok
        rw [parsed] at same
        cases same
      · rintro ⟨newList, same, -⟩
        cases same
  | ok newList =>
      simp only [replaceSourceDomains, Plan.attempt_bind_eq_ok, parsed, Plan.ok_bind]
      cases kept : retains (db.ownedBy sourceId).card newList.length with
      | false =>
          constructor
          · rintro ⟨out, -, -, refused⟩
            cases refused
          · rintro ⟨newList', same, kept', -⟩
            cases same
            rw [kept] at kept'
            cases kept'
      | true =>
          simp only [if_true, Plan.attempt_bind_eq_ok]
          constructor
          · rintro ⟨out, connection, count, begin, prepareTemp, snapshotOld, clearOwned,
              prepareOwned, prepareDomain, rest⟩
            cases wrote : writeOwned fails sourceId list newList (db.disown sourceId) with
            | error error =>
                rw [wrote] at rest
                cases rest
            | ok written =>
                rw [wrote] at rest
                simp only [Plan.ok_bind, Plan.attempt_bind_eq_ok] at rest
                obtain ⟨prune, status, commit, -⟩ := rest
                rw [writeOwned_eq_ok wrote] at wrote
                have loop := writeOwned_isOk.mp wrote
                refine ⟨newList, rfl, kept, ?_⟩
                simp only [refreshCalls, List.mem_append, List.mem_flatMap, List.mem_cons,
                  List.not_mem_nil, or_false]
                rintro call (((rfl | rfl | rfl | rfl | rfl | rfl | rfl | rfl) |
                  ⟨domain, mem, rfl | rfl⟩) | rfl | rfl | rfl)
                · exact connection
                · exact count
                · exact begin
                · exact prepareTemp
                · exact snapshotOld
                · exact clearOwned
                · exact prepareOwned
                · exact prepareDomain
                · exact (loop domain mem).1
                · exact (loop domain mem).2
                · exact prune
                · exact status
                · exact commit
          · rintro ⟨newList', same, -, calls⟩
            cases same
            have clear : ∀ call ∈ refreshCalls list newList, fails call = none := calls
            have loop : writeOwned fails sourceId list newList (db.disown sourceId) =
                .ok ((db.disown sourceId).ownAll sourceId list newList) :=
              writeOwned_isOk.mpr fun domain mem =>
                ⟨clear _ (by simp [refreshCalls, mem]), clear _ (by simp [refreshCalls, mem])⟩
            simp only [loop, Plan.ok_bind, Plan.attempt_bind_eq_ok]
            exact ⟨_, clear _ (by simp [refreshCalls]), clear _ (by simp [refreshCalls]),
              clear _ (by simp [refreshCalls]), clear _ (by simp [refreshCalls]),
              clear _ (by simp [refreshCalls]), clear _ (by simp [refreshCalls]),
              clear _ (by simp [refreshCalls]), clear _ (by simp [refreshCalls]),
              clear _ (by simp [refreshCalls]), clear _ (by simp [refreshCalls]),
              clear _ (by simp [refreshCalls]), rfl⟩

end RustBlocker
