import RustBlocker.CredentialWrites
import RustBlocker.ManualDomains
import RustBlocker.Pruning

/-!
# What a successful answer promises

A handler that changes the database answers with a status, and calls of the database may fail on
the way.  Most failures become a `500`; some are logged or dropped, and the answer is a success
all the same.

* **Stored** is what the request stands for: the rows it asks for are there, the rows it deletes
  are gone.
* **Lost** is a part of that which a successful answer leaves out: a setting of the
  synchronisation, the mark of a deleted domain, the orphans of a deleted source, the query log,
  and a rewrite of a domain that has other addresses.

`stored_iff` says that there are no others.

Both are stated for every route, between the server before the request and the server after it,
and both are stated of the request and not of the code: what an operator who reads `200` may take
for done.  A request that only reads stands for nothing, and has nothing to lose.

Which calls fail is up to the weather, route by route.  `Lost` names the calls whose failure a
route swallows, together with the state in which it matters; so the result is an equivalence, and
a handler that began to report such a failure would make it false on one side.
-/

namespace RustBlocker

/-- A status `2xx`. -/
def Response.Succeeded (response : Response) : Prop := response.status / 100 = 2

/-- The settings of `put_sync_config`. -/
def syncSettings (enabled : Bool) (masterUrl password : Str) (intervalSecs : UInt64) :
    List (Str × Str) :=
  [("sync_enabled".toList, if enabled then "true".toList else "false".toList),
    ("sync_master".toList, masterUrl),
    ("sync_interval_secs".toList, decimal intervalSecs.toNat)] ++
    if password.isEmpty then [] else [("sync_password".toList, password)]

/-- A domain of a source that no other source owns and that is not manual in the list. -/
structure Orphaned (db : Db) (id : Nat) (list : DomainList) (domain : Str) : Prop where
  owned : (id, domain) ∈ db.sourceDomains
  alone : ∀ other, other ≠ id → (other, domain) ∉ db.sourceDomains
  unmarked : (list, domain) ∉ db.manualDomains

section Promise

variable {Net : Type} (env : ApiEnv Net) (weather : ApiWeather)

/-- **What a request stands for**, between the server before it and the server after, as one who
made the request would put it. -/
def Stored (before after : WebServer Net) : ApiCall → Prop
  | .updateSetting key value => ∃ parsed, WebServer.parseSetting env key value = .ok parsed ∧
      after.db.settings.lookup key = some (parsed.persisted value)
  | .addUpstream address port =>
      after.db.upstreams.values =
        before.db.upstreams.values ++ [{ address, port := port.getD 53 }]
  | .deleteUpstream id => after.db.upstreams.find? id.toNat = none
  | .addDomain list domain =>
      let normal := normalizeDomain env.caseTables domain
      normal ∈ (after.db.domains list).values ∧ (list, normal) ∈ after.db.manualDomains
  | .deleteDomain list id =>
      ∀ domain, (before.db.domains list).find? id.toNat = some domain →
        domain ∉ (after.db.domains list).values ∧ (list, domain) ∉ after.db.manualDomains
  | .bulkImport list content url =>
      ∃ text, WebServer.resolveImportContent weather content url = .ok text ∧
        ∀ domain ∈ contentDomains text,
          domain ∈ (after.db.domains list).values ∧ (list, domain) ∈ after.db.manualDomains
  | .addRewrite domain ipv4 ipv6 =>
      { domain := normalizeDomain env.caseTables domain, ipv4, ipv6 } ∈ after.db.rewrites.values
  | .deleteRewrite id => after.db.rewrites.find? id.toNat = none
  | .deleteSource id =>
      after.db.sources.find? id.toNat = none ∧
        (∀ domain, (id.toNat, domain) ∉ after.db.sourceDomains) ∧
        ∀ source, before.db.sources.find? id.toNat = some source → ∀ domain,
          Orphaned before.db id.toNat (.ofType source.listType) domain →
            domain ∉ (after.db.domains (.ofType source.listType)).values
  | .clearStats => after.loggedQueries = []
  | .putSyncConfig enabled masterUrl password intervalSecs =>
      ∀ entry ∈ syncSettings enabled masterUrl password intervalSecs,
        after.db.settings.lookup entry.1 = some entry.2
  | .changePassword _ _ => ∃ hash, weather.credentials.hashed = .ok hash ∧
      after.db.settings.lookup passwordHashKey = some hash ∧
      after.db.settings.lookup sessionSecretKey = some (encodeSecret weather.credentials.secret)
  -- the others stand for no change, or for one that is made after the answer
  | _ => True

/-- The calls without which a source is not deleted. -/
def deleteSourceCalls : List DeleteSourceCall :=
  [.connection, .selectListType, .begin, .prepareOwned, .queryOwned, .clearOwned, .deleteSource,
    .prepareInsert, .commit]

/-- The deletion of a source leaves an orphan in the list: its prune fails, or the temporary table
that it goes by does not have the domain. -/
def LeavesOrphan (fails : Plan DeleteSourceCall) (leftover : Finset Str) (db : Db) (id : Nat) :
    Prop :=
  (∀ call ∈ deleteSourceCalls, fails call = none) ∧
    ∃ source, db.sources.find? id = some source ∧
      ∃ domain ∈ (db.domains (.ofType source.listType)).values,
        Orphaned db id (.ofType source.listType) domain ∧
          ((fails .prune).isSome ∨
            ((fails (.ownedRow domain)).isSome ∨ (fails (.insertTemp domain)).isSome) ∧
              ¬ ((fails .prepareTemp).isSome ∧ domain ∈ leftover))

/-- **What is lost** under a successful answer.  Each route has its own way to lose something, or
none. -/
def Lost (peer : Option IpAddr) (s : WebServer Net) : ApiCall → Prop
  | .deleteDomain list id =>
      s.checkAcl env peer = true ∧ weather.task = none ∧
        (∀ call ∈ [DeleteDomainCall.connection, .select, .delete], weather.delete call = none) ∧
        (weather.delete .deleteManual).isSome ∧
        ∃ domain, (s.db.domains list).find? id.toNat = some domain ∧
          (list, domain) ∈ s.db.manualDomains
  | .addRewrite domain ipv4 ipv6 =>
      s.checkAcl env peer = true ∧ weather.task = none ∧ (∀ call, weather.addRewrite call = none) ∧
        ∃ row ∈ s.db.rewrites.values, row.domain = normalizeDomain env.caseTables domain ∧
          (row.ipv4 ≠ ipv4 ∨ row.ipv6 ≠ ipv6)
  | .deleteSource id =>
      s.checkAcl env peer = true ∧ weather.task = none ∧
        LeavesOrphan weather.deleteSource weather.leftover s.db id.toNat
  | .clearStats =>
      s.checkAcl env peer = true ∧ weather.task = none ∧ weather.clears = false ∧
        s.loggedQueries ≠ []
  | .putSyncConfig enabled masterUrl password intervalSecs =>
      s.checkAcl env peer = true ∧
        ∃ entry ∈ syncSettings enabled masterUrl password intervalSecs,
          oneStatement (weather.set entry.1) ≠ .ok () ∧
            s.db.settings.lookup entry.1 ≠ some entry.2
  | _ => False

end Promise

/-! ## The handlers

For each route that loses nothing, one lemma: if its answer is a success, what it stands for is
stored.  The routes that only read, or change nothing that is stored, have nothing to show. -/

section Handlers

variable {Net : Type} {env : ApiEnv Net} {weather : ApiWeather} {peer : Option IpAddr}
  {s : WebServer Net}

/-- A failure is no success. -/
theorem failed {P : Prop} {status : Nat} {error : Str} (other : status / 100 ≠ 2)
    (ok : (failure status error).Succeeded) : P := absurd ok other

theorem ok_succeeded (body : Json) : (Response.ok body).Succeeded := by
  show 200 / 100 = 2
  decide

theorem created_succeeded (body : Json) :
    Response.Succeeded { status := 201, body := body } := by
  show 201 / 100 = 2
  decide

/-- A handler behind `check_acl` that succeeds has passed it. -/
theorem guarded_succeeded {handler : Reply Net}
    (ok : (s.guarded env peer handler).1.Succeeded) :
    s.checkAcl env peer = true ∧ s.guarded env peer handler = handler ∧ handler.1.Succeeded := by
  revert ok
  unfold WebServer.guarded
  split
  next allowed => exact fun ok => ⟨allowed, rfl, ok⟩
  next denied => exact failed (by decide)

theorem guarded_of_allowed {handler : Reply Net} (allowed : s.checkAcl env peer = true) :
    s.guarded env peer handler = handler := if_pos allowed

theorem updateSetting_stored (key value : Str)
    (ok : (s.updateSetting env weather peer key value).1.Succeeded) :
    Stored env weather s (s.updateSetting env weather peer key value).2
      (.updateSetting key value) := by
  rcases WebServer.updateSetting_cases key value with ⟨status, error, bad, answer, -⟩ |
    ⟨parsed, body, accepted, -, -, answer⟩
  · rw [answer] at ok
    have status : status / 100 = 2 := ok
    omega
  · refine ⟨parsed, accepted, ?_⟩
    rw [answer, (WebServer.takeOver_db_key _ _ _).1]
    exact AList.lookup_insert _

theorem addUpstream_stored (address : Str) (port : Option Nat)
    (ok : (s.addUpstream env weather peer address port).1.Succeeded) :
    Stored env weather s (s.addUpstream env weather peer address port).2
      (.addUpstream address port) := by
  unfold WebServer.addUpstream at ok ⊢
  obtain ⟨-, passed, ok⟩ := guarded_succeeded ok
  rw [passed]
  revert ok
  simp only
  split
  · exact failed (by decide)
  · split
    · exact failed (by decide)
    next table written =>
      intro _
      have inserted : insertUpstream s.db.upstreams { address, port := port.getD 53 } =
          some table := by
        obtain ⟨-, written⟩ := dbBlocking_eq_ok.mp written
        revert written
        rcases oneStatement weather.upstream with error | ⟨⟩
        · intro impossible
          cases impossible
        · rcases insertUpstream s.db.upstreams { address, port := port.getD 53 } with _ | row
          · intro impossible
            cases impossible
          · exact fun same => congrArg some (Except.ok.inj same)
      exact SqlTable.values_insert (Option.ite_none_right_eq_some.mp inserted).2

theorem deleteUpstream_stored (id : Int)
    (ok : (s.deleteUpstream env weather peer id).1.Succeeded) :
    Stored env weather s (s.deleteUpstream env weather peer id).2 (.deleteUpstream id) := by
  unfold WebServer.deleteUpstream at ok ⊢
  obtain ⟨-, passed, ok⟩ := guarded_succeeded ok
  rw [passed]
  revert ok
  split
  · intro _
    exact SqlTable.find?_deleteWhere_id
  · exact failed (by decide)

theorem addDomain_stored (list : DomainList) (domain : Str)
    (ok : (s.addDomain env weather peer list domain).1.Succeeded) :
    Stored env weather s (s.addDomain env weather peer list domain).2
      (.addDomain list domain) := by
  unfold WebServer.addDomain at ok ⊢
  obtain ⟨-, passed, ok⟩ := guarded_succeeded ok
  rw [passed]
  revert ok
  split
  · exact failed (by decide)
  next id db written =>
    intro _
    obtain ⟨-, written⟩ := dbBlocking_eq_ok.mp written
    obtain rfl := addDomain_eq_ok written
    refine ⟨?_, Db.mem_insertManual.mpr (Or.inl ⟨rfl, rfl⟩)⟩
    exact Db.mem_insertDomain.mpr (Or.inl ⟨rfl, rfl⟩)

theorem bulkImport_stored (list : DomainList) (content url : Option Str)
    (ok : (s.bulkImport env weather peer list content url).1.Succeeded) :
    Stored env weather s (s.bulkImport env weather peer list content url).2
      (.bulkImport list content url) := by
  unfold WebServer.bulkImport at ok ⊢
  obtain ⟨-, passed, ok⟩ := guarded_succeeded ok
  rw [passed]
  revert ok
  split
  · exact failed (by decide)
  next text resolved =>
    split
    · exact failed (by decide)
    · split
      · exact failed (by decide)
      next result db written =>
        intro _
        obtain ⟨-, written⟩ := dbBlocking_eq_ok.mp written
        obtain ⟨rfl, -⟩ := bulkImport_eq_ok written
        refine ⟨text, resolved, fun domain mem => ⟨?_, ?_⟩⟩
        · exact Db.mem_importAll.mpr (Or.inl ⟨rfl, mem⟩)
        · exact Db.mem_importAll_manualDomains.mpr (Or.inl ⟨rfl, mem⟩)

theorem deleteRewrite_stored (id : Int)
    (ok : (s.deleteRewrite env weather peer id).1.Succeeded) :
    Stored env weather s (s.deleteRewrite env weather peer id).2 (.deleteRewrite id) := by
  unfold WebServer.deleteRewrite at ok ⊢
  obtain ⟨-, passed, ok⟩ := guarded_succeeded ok
  rw [passed]
  revert ok
  split
  · exact failed (by decide)
  · exact failed (by decide)
  next db row deleted =>
    intro _
    obtain ⟨-, deleted⟩ := dbBlocking_eq_ok.mp deleted
    replace deleted := Except.ok.inj deleted
    unfold deleteRewriteById at deleted
    split at deleted
    · cases deleted
    · split at deleted
      · cases deleted
      · split at deleted
        · cases deleted
        · cases deleted
          exact SqlTable.find?_deleteWhere_id

theorem changePassword_stored (current new : Str)
    (ok : (s.changePassword env weather current new).1.Succeeded) :
    Stored env weather s (s.changePassword env weather current new).2
      (.changePassword current new) := by
  revert ok
  unfold WebServer.changePassword
  split
  · exact failed (by decide)
  split
  · exact failed (by decide)
  split
  · exact failed (by decide)
  split
  · exact failed (by decide)
  split
  · exact failed (by decide)
  next newHash hashed =>
  simp only
  split
  · exact failed (by decide)
  · exact failed (by decide)
  next db updated =>
  obtain ⟨hash, secret⟩ := Db.updateAuthCredentials_eq_ok_true updated
  split
  · exact failed (by decide)
  · exact fun _ => ⟨newHash, hashed, hash, secret⟩

/-! ## The handlers that lose something

Five routes can answer with a success and leave a part of it out.  For each of them the part and
the condition are found, as an equivalence: the failures that are swallowed, and nothing else,
make the difference. -/

/-- What is lost is what a success leaves out. -/
theorem kept_iff {ok stored lost : Prop} (exactly : ok ∧ ¬ stored ↔ lost) :
    (ok → stored) ↔ ¬ lost := by
  rw [← exactly]
  tauto

/-- **A deleted domain** keeps its mark if the delete of the mark fails. -/
theorem deleteDomain_lost_iff (list : DomainList) (id : Int) :
    ((s.deleteDomain env weather peer list id).1.Succeeded ∧
        ¬ Stored env weather s (s.deleteDomain env weather peer list id).2
          (.deleteDomain list id)) ↔
      Lost env weather peer s (.deleteDomain list id) := by
  constructor
  · rintro ⟨ok, missing⟩
    unfold WebServer.deleteDomain at ok missing
    obtain ⟨allowed, passed, ok⟩ := guarded_succeeded ok
    rw [passed] at missing
    revert missing ok
    split
    · exact fun _ => failed (by decide)
    · exact fun _ => failed (by decide)
    next db domain deleted =>
      intro missing _
      obtain ⟨calm, deleted⟩ := dbBlocking_eq_ok.mp deleted
      obtain ⟨calls, found, rfl⟩ := deleteDomainById_eq_some.mp (Except.ok.inj deleted)
      -- the row is gone, so what is not stored is the mark of the manual domain
      by_contra kept
      refine missing fun domain' found' => ?_
      obtain rfl := Option.some.inj (found.symm.trans found')
      refine ⟨fun mem => ?_, fun marked => ?_⟩
      · have table := Db.setDomains_domains_self s.db list
          ((s.db.domains list).deleteWhere fun row => row.1 == id.toNat)
        replace mem : domain ∈ ((s.db.setDomains list ((s.db.domains list).deleteWhere
            fun row => row.1 == id.toNat)).domains list).values := mem
        rw [table] at mem
        exact ((mem_deleteWhere_id found).mp mem).1 rfl
      · replace marked : (list, domain) ∈ if (weather.delete .deleteManual).isSome then
            s.db.manualDomains else s.db.manualDomains.erase (list, domain) := marked
        split at marked
        next fails => exact kept ⟨allowed, calm, calls, fails, domain, found, marked⟩
        · exact Finset.notMem_erase _ _ marked
  · rintro ⟨allowed, calm, calls, fails, domain, found, marked⟩
    have deleted := deleteDomainById_eq_some.mpr ⟨calls, found, rfl⟩
    unfold WebServer.deleteDomain
    rw [guarded_of_allowed allowed, dbBlocking_eq_ok.mpr ⟨calm, congrArg Except.ok deleted⟩]
    refine ⟨ok_succeeded _, fun stored => ?_⟩
    have gone : (list, domain) ∉ if (weather.delete .deleteManual).isSome then
        s.db.manualDomains else s.db.manualDomains.erase (list, domain) := (stored domain found).2
    rw [if_pos fails] at gone
    exact gone marked

/-- `add_rewrite` succeeds with its two calls. -/
theorem dbAddRewrite_eq_ok {u : CaseTables} {fails : Plan AddRewriteCall} {lastRowid id : Nat}
    {db db' : Db} {domain : Str} {ipv4 ipv6 : Option Str}
    (ok : dbAddRewrite u fails lastRowid db domain ipv4 ipv6 = .ok (id, db')) :
    (∀ call, fails call = none) ∧
      db' = { db with
        rewrites := db.rewrites.insertOrIgnore
          { domain := normalizeDomain u domain, ipv4, ipv6 } } := by
  rw [← dbNormalize_eq]
  obtain ⟨connection, ok⟩ := Plan.attempt_bind_eq_ok.mp ok
  obtain ⟨insert, ok⟩ := Plan.attempt_bind_eq_ok.mp ok
  cases ok
  refine ⟨fun call => ?_, rfl⟩
  cases call with
  | connection => exact connection
  | insert => exact insert

theorem dbAddRewrite_of_clear (u : CaseTables) {fails : Plan AddRewriteCall}
    (clear : ∀ call, fails call = none) (lastRowid : Nat) (db : Db) (domain : Str)
    (ipv4 ipv6 : Option Str) :
    ∃ id, dbAddRewrite u fails lastRowid db domain ipv4 ipv6 =
      .ok (id, { db with
        rewrites := db.rewrites.insertOrIgnore
          { domain := normalizeDomain u domain, ipv4, ipv6 } }) := by
  obtain rfl : fails = .clear := funext clear
  rw [← dbNormalize_eq]
  exact ⟨_, rfl⟩

/-- A rewrite goes in unless its domain has other addresses. -/
theorem mem_insertOrIgnore_rewrite {t : RewriteTable} {row : RewriteRow} :
    row ∈ (t.insertOrIgnore row).values ↔
      ¬ ∃ row' ∈ t.values, row'.domain = row.domain ∧
        (row'.ipv4 ≠ row.ipv4 ∨ row'.ipv6 ≠ row.ipv6) := by
  by_cases clash : t.clashes row = true
  · rw [SqlTable.insertOrIgnore_of_clashes clash, SqlTable.values_skipId]
    obtain ⟨here, mem, k, held, keyed⟩ := SqlTable.clashes_eq_true.mp clash
    have named : here.domain = row.domain := Option.some.inj (held.trans keyed.symm)
    constructor
    · rintro inside ⟨row', mem', same, differs⟩
      obtain rfl := SqlTable.eq_of_key mem' inside (congrArg some same) rfl
      exact differs.elim (fun other => other rfl) fun other => other rfl
    · intro missing
      have equal : here = row := by
        by_contra other
        refine missing ⟨here, mem, named, ?_⟩
        by_contra same
        rw [not_or, not_not, not_not] at same
        obtain ⟨domain, ipv4, ipv6⟩ := here
        obtain ⟨domain', ipv4', ipv6'⟩ := row
        obtain ⟨rfl, rfl⟩ := same
        exact other (congrArg (RewriteRow.mk · ipv4 ipv6) named)
      rw [← equal]
      exact mem
  · rw [SqlTable.values_insertOrIgnore_of_not_clashes (Bool.eq_false_iff.mpr clash)]
    refine ⟨fun _ => ?_, fun _ => List.mem_append_right _ List.mem_cons_self⟩
    rintro ⟨row', mem, same, -⟩
    exact clash (SqlTable.clashes_eq_true.mpr ⟨row', mem, row.domain, congrArg some same, rfl⟩)

/-- **A rewrite** of a domain that is there is answered with a success and not stored. -/
theorem addRewrite_lost_iff (domain : Str) (ipv4 ipv6 : Option Str) :
    ((s.addRewrite env weather peer domain ipv4 ipv6).1.Succeeded ∧
        ¬ Stored env weather s (s.addRewrite env weather peer domain ipv4 ipv6).2
          (.addRewrite domain ipv4 ipv6)) ↔
      Lost env weather peer s (.addRewrite domain ipv4 ipv6) := by
  constructor
  · rintro ⟨ok, missing⟩
    unfold WebServer.addRewrite at ok missing
    obtain ⟨allowed, passed, ok⟩ := guarded_succeeded ok
    rw [passed] at missing
    revert missing ok
    split
    · exact fun _ => failed (by decide)
    next id db written =>
      intro missing _
      obtain ⟨calm, written⟩ := dbBlocking_eq_ok.mp written
      obtain ⟨calls, rfl⟩ := dbAddRewrite_eq_ok written
      refine ⟨allowed, calm, calls, ?_⟩
      by_contra unlike
      exact missing (mem_insertOrIgnore_rewrite.mpr unlike)
  · rintro ⟨allowed, calm, calls, other⟩
    obtain ⟨id, written⟩ := dbAddRewrite_of_clear env.caseTables calls weather.lastRowid s.db domain
      ipv4 ipv6
    unfold WebServer.addRewrite
    rw [guarded_of_allowed allowed, dbBlocking_eq_ok.mpr ⟨calm, written⟩]
    refine ⟨created_succeeded _, fun stored => ?_⟩
    exact mem_insertOrIgnore_rewrite.mp stored other

/-- The rows of the temporary table the prune goes by. -/
def pruneCandidates (fails : Plan DeleteSourceCall) (leftover : Finset Str) (db : Db) (id : Nat) :
    Finset Str :=
  (if (fails .prepareTemp).isSome then leftover else ∅) ∪
    ((db.ownedBy id).filter fun domain => !(fails (.ownedRow domain)).isSome).filter
      fun domain => !(fails (.insertTemp domain)).isSome

/-- The database after a source was deleted. -/
def sourceDeleted (fails : Plan DeleteSourceCall) (leftover : Finset Str) (db : Db) (id : Nat)
    (list : DomainList) : Db :=
  let deleted := (db.disown id).deleteSource id
  if (fails .prune).isSome then deleted
  else deleted.prune list (pruneCandidates fails leftover db id)

/-- What `delete_source_with_cleanup` does when it deletes a source. -/
theorem deleteSourceWithCleanup_eq_some {fails : Plan DeleteSourceCall} {leftover : Finset Str}
    {db db' : Db} {id : Nat} {listType : Str} :
    deleteSourceWithCleanup fails leftover db id = (db', some listType) ↔
      (∀ call ∈ deleteSourceCalls, fails call = none) ∧
        ∃ source, db.sources.find? id = some source ∧ source.listType = listType ∧
          db' = sourceDeleted fails leftover db id (.ofType listType) := by
  unfold deleteSourceWithCleanup deleteSourceCalls
  simp only [List.mem_cons, List.not_mem_nil, or_false, forall_eq_or_imp, forall_eq]
  by_cases begun : ((fails .connection).isSome || (fails .selectListType).isSome) = true
  · rw [if_pos begun]
    constructor
    · intro impossible
      cases impossible
    · rintro ⟨⟨connection, select, -⟩, -⟩
      simp [connection, select] at begun
  rw [if_neg begun]
  simp only [Bool.or_eq_true, not_or, Option.not_isSome_iff_eq_none] at begun
  cases found : db.sources.find? id with
  | none => simp
  | some source =>
      simp only
      split
      -- a call that fails rolls the transaction back
      next stopped =>
        constructor
        · intro impossible
          cases impossible
        · rintro ⟨⟨-, -, begins, owned, query, clear, delete, insert, commit⟩, -⟩
          simp [begins, owned, query, clear, delete, insert, commit] at stopped
      next runs =>
        simp only [Bool.or_eq_true, not_or, Option.not_isSome_iff_eq_none] at runs
        obtain ⟨⟨⟨⟨⟨⟨begins, owned⟩, query⟩, clear⟩, delete⟩, insert⟩, commit⟩ := runs
        constructor
        · intro same
          obtain ⟨rfl, named⟩ := Prod.mk.inj same
          obtain rfl := Option.some.inj named
          exact ⟨⟨begun.1, begun.2, begins, owned, query, clear, delete, insert, commit⟩,
            source, rfl, rfl, rfl⟩
        · rintro ⟨-, _, same, rfl, rfl⟩
          obtain rfl := Option.some.inj same
          rfl

/-- An orphan stays in the list exactly if the prune fails or does not see it. -/
theorem orphan_mem_sourceDeleted {fails : Plan DeleteSourceCall} {leftover : Finset Str} {db : Db}
    {id : Nat} {list : DomainList} {domain : Str} (orphan : Orphaned db id list domain) :
    domain ∈ ((sourceDeleted fails leftover db id list).domains list).values ↔
      domain ∈ (db.domains list).values ∧
        ((fails .prune).isSome ∨
          ((fails (.ownedRow domain)).isSome ∨ (fails (.insertTemp domain)).isSome) ∧
            ¬ ((fails .prepareTemp).isSome ∧ domain ∈ leftover)) := by
  have candidate : domain ∈ pruneCandidates fails leftover db id ↔
      ((fails .prepareTemp).isSome ∧ domain ∈ leftover) ∨
        ¬ ((fails (.ownedRow domain)).isSome ∨ (fails (.insertTemp domain)).isSome) := by
    unfold pruneCandidates
    rw [Finset.mem_union, Finset.mem_filter, Finset.mem_filter, Db.mem_ownedBy]
    refine or_congr ?_ ?_
    · split
      next fails => exact ⟨fun mem => ⟨fails, mem⟩, fun both => both.2⟩
      next clear =>
        exact ⟨fun mem => absurd mem (Finset.notMem_empty _), fun both => absurd both.1 clear⟩
    · rw [not_or]
      simp [orphan.owned]
  -- the deleted source was the only owner, so nothing but the candidates decides
  have alone : ∀ other, (other, domain) ∉ (db.disown id).sourceDomains := by
    intro other mem
    obtain ⟨apart, here⟩ := Db.mem_disown.mp mem
    exact orphan.alone other apart here
  unfold sourceDeleted
  simp only
  split
  next fails => exact ⟨fun mem => ⟨mem, Or.inl fails⟩, fun both => both.1⟩
  next clear =>
    rw [Db.mem_prune, candidate]
    refine and_congr_right fun _ => ?_
    constructor
    · intro kept
      right
      by_contra seen
      refine kept ⟨?_, alone, orphan.unmarked⟩
      tauto
    · rintro seen ⟨pruned, -⟩
      rcases seen with fails | unseen
      · exact clear fails
      · tauto

/-- The source and what it owned are gone in any case. -/
theorem sourceDeleted_gone (fails : Plan DeleteSourceCall) (leftover : Finset Str) (db : Db)
    (id : Nat) (list : DomainList) :
    (sourceDeleted fails leftover db id list).sources.find? id = none ∧
      ∀ domain, (id, domain) ∉ (sourceDeleted fails leftover db id list).sourceDomains := by
  have gone : ((db.disown id).deleteSource id).sources.find? id = none ∧
      ∀ domain, (id, domain) ∉ ((db.disown id).deleteSource id).sourceDomains :=
    ⟨SqlTable.find?_deleteWhere_id, fun domain mem => (Db.mem_disown.mp mem).1 rfl⟩
  unfold sourceDeleted
  simp only
  split
  · exact gone
  · exact gone

/-- **A deleted source** leaves the orphans that are not pruned. -/
theorem deleteSource_lost_iff (id : Int) :
    ((s.deleteSource env weather peer id).1.Succeeded ∧
        ¬ Stored env weather s (s.deleteSource env weather peer id).2 (.deleteSource id)) ↔
      Lost env weather peer s (.deleteSource id) := by
  constructor
  · rintro ⟨ok, missing⟩
    unfold WebServer.deleteSource at ok missing
    obtain ⟨allowed, passed, ok⟩ := guarded_succeeded ok
    rw [passed] at missing
    revert missing ok
    split
    · exact fun _ => failed (by decide)
    · exact fun _ => failed (by decide)
    next db listType deleted =>
      intro missing _
      obtain ⟨calm, deleted⟩ := dbBlocking_eq_ok.mp deleted
      obtain ⟨calls, source, found, rfl, rfl⟩ :=
        deleteSourceWithCleanup_eq_some.mp (Except.ok.inj deleted)
      refine ⟨allowed, calm, calls, source, found, ?_⟩
      by_contra unused
      obtain ⟨row, owned⟩ := sourceDeleted_gone weather.deleteSource weather.leftover s.db id.toNat
        (.ofType source.listType)
      refine missing ⟨row, owned, fun source' found' domain orphan mem => unused ?_⟩
      obtain rfl := Option.some.inj (found.symm.trans found')
      obtain ⟨listed, unseen⟩ := (orphan_mem_sourceDeleted orphan).mp mem
      exact ⟨domain, listed, orphan, unseen⟩
  · rintro ⟨allowed, calm, calls, source, found, domain, listed, orphan, unseen⟩
    have deleted := deleteSourceWithCleanup_eq_some.mpr
      ⟨calls, source, found, rfl, (rfl : _ = sourceDeleted weather.deleteSource weather.leftover
        s.db id.toNat (.ofType source.listType))⟩
    unfold WebServer.deleteSource
    rw [guarded_of_allowed allowed, dbBlocking_eq_ok.mpr ⟨calm, congrArg Except.ok deleted⟩]
    refine ⟨ok_succeeded _, fun stored => ?_⟩
    exact stored.2.2 source found domain orphan
      ((orphan_mem_sourceDeleted orphan).mpr ⟨listed, unseen⟩)

/-- **The query log** stays if its delete fails. -/
theorem clearStats_lost_iff :
    ((s.clearStats env weather peer).1.Succeeded ∧
        ¬ Stored env weather s (s.clearStats env weather peer).2 .clearStats) ↔
      Lost env weather peer s .clearStats := by
  constructor
  · rintro ⟨ok, missing⟩
    unfold WebServer.clearStats at ok missing
    obtain ⟨allowed, passed, ok⟩ := guarded_succeeded ok
    rw [passed] at missing
    revert missing ok
    split
    · exact fun _ => failed (by decide)
    next answered =>
      intro missing _
      obtain ⟨calm, -⟩ := dbBlocking_eq_ok.mp answered
      by_cases clears : weather.clears = true
      · rw [if_pos clears] at missing
        exact absurd rfl missing
      · rw [if_neg clears] at missing
        exact ⟨allowed, calm, Bool.eq_false_iff.mpr clears, missing⟩
  · rintro ⟨allowed, calm, keeps, filled⟩
    have answered : s.clearStats env weather peer =
        (.ok (.object [("status".toList, .string "cleared".toList)]), s) := by
      unfold WebServer.clearStats
      rw [guarded_of_allowed allowed, dbBlocking_eq_ok.mpr ⟨calm, rfl⟩]
      simp only [keeps, if_neg Bool.false_ne_true]
    rw [answered]
    exact ⟨ok_succeeded _, filled⟩

/-- The writes of `put_sync_config`, one after the other. -/
def storeEach (weather : ApiWeather) (entries : List (Str × Str)) (s : WebServer Net) :
    WebServer Net :=
  entries.foldl (fun s entry => s.storeSetting weather entry.1 entry.2) s

theorem putSyncConfig_of_allowed {enabled : Bool} {masterUrl password : Str}
    {intervalSecs : UInt64} (allowed : s.checkAcl env peer = true) :
    s.putSyncConfig env weather peer enabled masterUrl password intervalSecs =
      (.ok (.object [("ok".toList, .bool true), ("restart_required".toList, .bool true)]),
        storeEach weather (syncSettings enabled masterUrl password intervalSecs) s) := by
  unfold WebServer.putSyncConfig
  rw [guarded_of_allowed allowed]
  unfold storeEach syncSettings
  by_cases empty : password.isEmpty = true
  · simp only [if_pos empty]
    rfl
  · simp only [if_neg empty]
    rfl

theorem syncSettings_nodup (enabled : Bool) (masterUrl password : Str) (intervalSecs : UInt64) :
    ((syncSettings enabled masterUrl password intervalSecs).map Prod.fst).Nodup := by
  unfold syncSettings
  rw [List.map_append]
  by_cases empty : password.isEmpty = true
  · rw [if_pos empty]
    show ["sync_enabled".toList, "sync_master".toList, "sync_interval_secs".toList].Nodup
    decide
  · rw [if_neg empty]
    show ["sync_enabled".toList, "sync_master".toList, "sync_interval_secs".toList,
      "sync_password".toList].Nodup
    decide

theorem lookup_storeSetting (key value other : Str) :
    (s.storeSetting weather key value).db.settings.lookup other =
      if other = key ∧ oneStatement (weather.set key) = .ok () then some value
      else s.db.settings.lookup other := by
  unfold WebServer.storeSetting
  rcases oneStatement (weather.set key) with error | ⟨⟩
  · rw [if_neg (fun both => by cases both.2)]
  · by_cases same : other = key
    · rw [if_pos ⟨same, rfl⟩, same]
      exact AList.lookup_insert _
    · rw [if_neg fun both => same both.1]
      exact AList.lookup_insert_ne same

/-- Settings with different keys are stored one by one: each is there if its write succeeded
or if it was there before. -/
theorem lookup_storeEach {entries : List (Str × Str)} (apart : (entries.map Prod.fst).Nodup)
    (s : WebServer Net) : ∀ entry ∈ entries,
      (storeEach weather entries s).db.settings.lookup entry.1 = some entry.2 ↔
        oneStatement (weather.set entry.1) = .ok () ∨
          s.db.settings.lookup entry.1 = some entry.2 := by
  have others : ∀ (entries : List (Str × Str)) (s : WebServer Net) (key : Str),
      key ∉ entries.map Prod.fst →
        (storeEach weather entries s).db.settings.lookup key = s.db.settings.lookup key := by
    intro entries
    induction entries with
    | nil => exact fun _ _ _ => rfl
    | cons entry later ih =>
        intro s key absent
        rw [List.map_cons, List.mem_cons, not_or] at absent
        refine (ih (s.storeSetting weather entry.1 entry.2) key absent.2).trans ?_
        rw [lookup_storeSetting, if_neg fun both => absent.1 both.1]
  induction entries generalizing s with
  | nil => exact fun _ mem => absurd mem List.not_mem_nil
  | cons first later ih =>
      rw [List.map_cons, List.nodup_cons] at apart
      intro entry mem
      rcases List.mem_cons.mp mem with rfl | mem
      · have last := others later (s.storeSetting weather entry.1 entry.2) entry.1 apart.1
        rw [lookup_storeSetting] at last
        show (storeEach weather later _).db.settings.lookup entry.1 = _ ↔ _
        rw [last]
        split
        next both => exact ⟨fun _ => Or.inl both.2, fun _ => rfl⟩
        next fails =>
          refine ⟨Or.inr, fun either => either.resolve_left fun ok => fails ⟨rfl, ok⟩⟩
      · have differs : entry.1 ≠ first.1 := by
          intro same
          exact apart.1 (same ▸ List.mem_map_of_mem mem)
        refine (ih apart.2 (s.storeSetting weather first.1 first.2) entry mem).trans ?_
        rw [lookup_storeSetting, if_neg fun both => differs both.1]

/-- **The settings of the synchronisation** are answered whether they were stored or not. -/
theorem putSyncConfig_lost_iff (enabled : Bool) (masterUrl password : Str)
    (intervalSecs : UInt64) :
    ((s.putSyncConfig env weather peer enabled masterUrl password intervalSecs).1.Succeeded ∧
        ¬ Stored env weather s
          (s.putSyncConfig env weather peer enabled masterUrl password intervalSecs).2
          (.putSyncConfig enabled masterUrl password intervalSecs)) ↔
      Lost env weather peer s (.putSyncConfig enabled masterUrl password intervalSecs) := by
  have stores : _ := @lookup_storeEach _ weather _
    (syncSettings_nodup enabled masterUrl password intervalSecs) s
  constructor
  · rintro ⟨ok, missing⟩
    unfold WebServer.putSyncConfig at ok
    obtain ⟨allowed, -, -⟩ := guarded_succeeded ok
    rw [putSyncConfig_of_allowed allowed] at missing
    refine ⟨allowed, ?_⟩
    by_contra kept
    refine missing fun entry mem => (stores entry mem).mpr ?_
    by_contra both
    rw [not_or] at both
    exact kept ⟨entry, mem, both.1, both.2⟩
  · rintro ⟨allowed, entry, mem, fails, other⟩
    rw [putSyncConfig_of_allowed allowed]
    refine ⟨ok_succeeded _, fun stored => ?_⟩
    rcases (stores entry mem).mp (stored entry mem) with ok | before
    · exact fails ok
    · exact other before

end Handlers

/-! ## Every request -/

/-- **A success promises what the request stands for, unless that is lost**: whatever calls
of the database fail, a handler that answers `2xx` has stored all of it exactly if it is not
one of the losses. -/
theorem stored_iff {Net : Type} (env : ApiEnv Net) (weather : ApiWeather) (s : WebServer Net)
    (request : ApiRequest) :
    ((s.handle env weather request).1.Succeeded →
        Stored env weather s (s.handle env weather request).2 request.call) ↔
      ¬ Lost env weather request.peer s request.call := by
  obtain ⟨peer, cookie, call⟩ := request
  cases call with
  | updateSetting key value => exact ⟨fun _ lost => lost, fun _ => updateSetting_stored key value⟩
  | addUpstream address port =>
      exact ⟨fun _ lost => lost, fun _ => addUpstream_stored address port⟩
  | deleteUpstream id => exact ⟨fun _ lost => lost, fun _ => deleteUpstream_stored id⟩
  | addDomain list domain => exact ⟨fun _ lost => lost, fun _ => addDomain_stored list domain⟩
  | bulkImport list content url =>
      exact ⟨fun _ lost => lost, fun _ => bulkImport_stored list content url⟩
  | deleteRewrite id => exact ⟨fun _ lost => lost, fun _ => deleteRewrite_stored id⟩
  | changePassword current new =>
      exact ⟨fun _ lost => lost, fun _ => changePassword_stored current new⟩
  | deleteDomain list id => exact kept_iff (deleteDomain_lost_iff list id)
  | addRewrite domain ipv4 ipv6 => exact kept_iff (addRewrite_lost_iff domain ipv4 ipv6)
  | deleteSource id => exact kept_iff (deleteSource_lost_iff id)
  | clearStats => exact kept_iff clearStats_lost_iff
  | putSyncConfig enabled masterUrl password intervalSecs =>
      exact kept_iff (putSyncConfig_lost_iff enabled masterUrl password intervalSecs)
  | _ => exact ⟨fun _ lost => lost, fun _ _ => trivial⟩

/-- **A synchronisation is configured, and nothing of it is stored**: the disk is full, and
the answer is `200`. -/
theorem not_stored_putSyncConfig :
    let weather : ApiWeather := { set := fun _ _ => some "disk full".toList }
    let request : ApiRequest :=
      { peer := none, call := .putSyncConfig true "https://master".toList [] 30 }
    let server : WebServer IpAddr := { key := [] }
    let answered := server.handle plainEnv weather request
    answered.1.status = 200 ∧ answered.2.db.settings.lookup "sync_enabled".toList = none ∧
      ¬ Stored plainEnv weather server answered.2 request.call := by
  intro weather request server answered
  have unset : answered.2.db.settings.lookup "sync_enabled".toList = none := by decide +kernel
  refine ⟨rfl, unset, fun stored => ?_⟩
  have here := stored ("sync_enabled".toList, "true".toList) List.mem_cons_self
  rw [unset] at here
  cases here

end RustBlocker
