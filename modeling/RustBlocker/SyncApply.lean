import RustBlocker.Library.Json
import RustBlocker.Snapshots
import RustBlocker.SourceRefresh

/-!
# Applying a snapshot

`apply_snapshot_blocking` of a replica: the payload of a category is deserialized, and the table
of the category is replaced in one transaction.  The settings have no transaction of their own:
each is written by a `set_setting`, and a setting that fails is skipped with a warning.

* **What can go wrong.**  An `ApplyWeather` says which calls of the blocking task fail, and at
  which it panics.  Every function here returns no error: whatever happens is logged and the task
  is over.
* **What is observed.**  `committed` says whether the snapshot has been written: its transaction
  committed, or every setting of it was stored.  The code does not return it.

`applySnapshot_committed_iff` follows every failure to that flag, and `applySnapshot_stored` says
what is in the database when it is set.  The reload of the forwarder and of the rewrite map after
the commit change no table and are left out.

The flag is a ghost: no function reads it.  It is what a caller would need to know and is not
told, and for that reason it is computed beside the outcome and then tied to the tables by a
theorem, so that it cannot be wrong.

The six categories are six uses of one function, `applyRows`, but for the settings.  A payload is
any JSON value; a row that lacks a member takes the default that the type gives it, or the payload
is refused as a whole.
-/

namespace RustBlocker

/-- The categories of a snapshot. -/
inductive SyncCategory where
  | settings
  | upstreams
  | rewrites
  | sources
  | domains (list : DomainList)
deriving DecidableEq, Repr

/-- The category of a name. -/
def SyncCategory.ofName? (name : Str) : Option SyncCategory :=
  if name = "settings".toList then some .settings
  else if name = "upstreams".toList then some .upstreams
  else if name = "rewrites".toList then some .rewrites
  else if name = "sources".toList then some .sources
  else if name = "blocklist".toList then some (.domains .blocklist)
  else if name = "allowlist".toList then some (.domains .allowlist)
  else none

/-! ## Payloads -/

/-- `Vec<UpstreamItem>` -/
def parseUpstreams : Json → Option (List UpstreamRow) :=
  Json.elements fun value => do
    let item ← value.record ["address".toList, "port".toList]
    let address ← Json.required "address".toList Json.asString item
    let port ← Json.required "port".toList (Json.unsigned 16) item
    return { address := address, port := port }

/-- `Vec<RewriteItem>` -/
def parseRewrites : Json → Option (List RewriteRow) :=
  Json.elements fun value => do
    let item ← value.record ["domain".toList, "ipv4".toList, "ipv6".toList]
    let domain ← Json.required "domain".toList Json.asString item
    let ipv4 ← Json.optional "ipv4".toList Json.asString item
    let ipv6 ← Json.optional "ipv6".toList Json.asString item
    return { domain := domain, ipv4 := ipv4, ipv6 := ipv6 }

/-- `Vec<SourceItem>` -/
def parseSources : Json → Option (List SourceItem) :=
  Json.elements fun value => do
    let item ← value.record
      ["url".toList, "list_type".toList, "update_interval_hours".toList]
    let url ← Json.required "url".toList Json.asString item
    let listType ← Json.required "list_type".toList Json.asString item
    let hours ← Json.required "update_interval_hours".toList (Json.signed 63) item
    return { url := url, listType := listType, updateIntervalHours := hours }

/-- `Vec<String>` -/
def parseDomains : Json → Option (List Str) := Json.elements Json.asString

/-! ## Failures -/

/-- The calls of the blocking task. -/
inductive ApplyCall where
  | connection
  | begin
  | delete
  | prepare
  | insert (index : Nat)
  | commit
  | setSetting (key : Str)
  /-- What follows the commit; it can only panic. -/
  | install
deriving DecidableEq

/-- What an apply meets: at each call of the task nothing, an error, or a panic. -/
structure ApplyWeather where
  fails : Plan ApplyCall := .clear
  panics : ApplyCall → Bool := fun _ => false

/-- The calls that do not return normally. -/
def ApplyWeather.plan (weather : ApplyWeather) : Plan ApplyCall := fun call =>
  if weather.panics call then some "panicked".toList else weather.fails call

/-- What an apply leaves behind, and whether the snapshot was written, which the code tells
nobody. -/
structure ApplyOutcome where
  site : Site
  committed : Bool

/-! ## The transactions

One loop for all tables: delete, insert row by row, commit.  An error rolls back, and so does a
panic. -/

/-- The loop of inserts; a row that breaks a constraint fails. -/
def insertEach {τ ν : Type} (plan : Plan ApplyCall) (insert : τ → ν → Option τ) :
    Nat → List ν → τ → Except Str τ
  | _, [], table => .ok table
  | i, row :: later, table => do
      plan.attempt (.insert i) id
      match insert table row with
      | none => .error "constraint failed".toList
      | some table' => insertEach plan insert (i + 1) later table'

/-- The transaction that replaces the rows of a table. -/
def replaceRows {τ ν : Type} (plan : Plan ApplyCall) (insert : τ → ν → Option τ)
    (rows : List ν) (emptied : τ) : Except Str τ := do
  plan.attempt .connection id
  plan.attempt .begin id
  plan.attempt .delete id
  plan.attempt .prepare id
  let written ← insertEach plan insert 0 rows emptied
  plan.attempt .commit id
  return written

/-- A category that is one table: parse, replace, and store the new table. -/
def applyRows {τ ν : Type} (weather : ApplyWeather) (items : Option (List ν))
    (insert : τ → ν → Option τ) (emptied : τ) (store : τ → Db) (site : Site) : ApplyOutcome :=
  match items with
  | none => { site := site, committed := false }
  | some items =>
      match replaceRows weather.plan insert items emptied with
      | .error _ => { site := site, committed := false }
      | .ok table => { site := { site with db := store table }, committed := true }

/-- `apply_upstreams`. -/
def applyUpstreams (weather : ApplyWeather) (data : Json) (site : Site) : ApplyOutcome :=
  let items := (parseUpstreams data).filter fun items => !items.any fun item => item.port == 0
  applyRows weather items insertUpstream site.db.upstreams.deleteAll
    (fun table => { site.db with upstreams := table }) site

/-- `apply_rewrites`. -/
def applyRewrites (weather : ApplyWeather) (data : Json) (site : Site) : ApplyOutcome :=
  applyRows weather (parseRewrites data) SqlTable.insert site.db.rewrites.deleteAll
    (fun table => { site.db with rewrites := table }) site

/-- `apply_sources`. -/
def applySources (weather : ApplyWeather) (data : Json) (site : Site) : ApplyOutcome :=
  applyRows weather (parseSources data) (fun table item => table.insert item.row)
    site.db.sources.deleteAll (fun table => { site.db with sources := table }) site

/-- `apply_domains_inner`: the store is built afresh after the commit. -/
def applyDomains (u : CaseTables) (hash : Bytes → UInt64) (weather : ApplyWeather)
    (list : DomainList) (data : Json) (site : Site) : ApplyOutcome :=
  let out := applyRows weather (parseDomains data)
    (fun table domain => some (table.insertOrIgnore domain)) (site.db.domains list).deleteAll
    (site.db.setDomains list) site
  if out.committed && (weather.plan .install).isNone then
    let fresh := storeOf u hash ((parseDomains data).getD [])
    { out with
      site :=
        { out.site with
          runtime := Function.update out.site.runtime list
            ((out.site.runtime list).replaceWith fresh) } }
  else out

/-! ## The settings

The settings are written one by one, without a transaction.  One that fails is skipped, and a
panic leaves those that were written before. -/

/-- `SKIP`: the settings that belong to a node. -/
def skippedSettings : List Str :=
  ["listen_address", "listen_port", "allowed_networks", "admin_password_hash",
    "session_secret", "domain", "acme_email", "acme_error", "acme_directory_url",
    "cloudflare_api_token", "wildcard_cert", "sync_password", "sync_master", "sync_enabled",
    "sync_interval_secs"].map String.toList

instance (key : Str) : Decidable (key ∈ skippedSettings) :=
  inferInstanceAs (Decidable (key ∈ _))

/-- `set_setting`. -/
def Db.setSetting (db : Db) (key value : Str) : Db :=
  { db with settings := db.settings.insert key value }

/-- The loop of `apply_settings`: the new database, and whether every setting that
is not skipped was stored. -/
def storeSettings (weather : ApplyWeather) : List (Str × Json) → Db → Db × Bool
  | [], db => (db, true)
  | (key, value) :: later, db =>
      if key ∈ skippedSettings then storeSettings weather later db
      else
        match value.asString with
        | none => ((storeSettings weather later db).1, false)
        | some v =>
            if weather.panics (.setSetting key) then (db, false)
            else if (weather.fails (.setSetting key)).isSome then
              ((storeSettings weather later db).1, false)
            else storeSettings weather later (db.setSetting key v)

/-- `apply_settings`. -/
def applySettings (weather : ApplyWeather) (data : Json) (site : Site) : ApplyOutcome :=
  match data.asObject with
  | none => { site := site, committed := false }
  | some members =>
      let (db, stored) := storeSettings weather members site.db
      { site := { site with db := db }, committed := stored }

/-- `apply_snapshot_blocking`: an unknown category is logged and nothing else. -/
def applySnapshotBlocking (u : CaseTables) (hash : Bytes → UInt64) (weather : ApplyWeather)
    (category : Str) (data : Json) (site : Site) : ApplyOutcome :=
  match SyncCategory.ofName? category with
  | some .settings => applySettings weather data site
  | some .upstreams => applyUpstreams weather data site
  | some .rewrites => applyRewrites weather data site
  | some .sources => applySources weather data site
  | some (.domains list) => applyDomains u hash weather list data site
  | none => { site := site, committed := false }

/-! ## When a snapshot is written

For each category the flag is traced back to the payload and to the calls that fail.  The
constraints of a table are part of it: rows that clash with each other fail the transaction. -/

section Commit

/-- No call of a transaction of that many rows fails or panics. -/
def TransactionClear (plan : Plan ApplyCall) (rows : Nat) : Prop :=
  plan .connection = none ∧ plan .begin = none ∧ plan .delete = none ∧ plan .prepare = none ∧
    (∀ i < rows, plan (.insert i) = none) ∧ plan .commit = none

/-- **When an apply writes its snapshot**: the category is known, the payload is
one the category can store, and no call fails. -/
def ApplyCommits (weather : ApplyWeather) (category : Str) (data : Json) : Prop :=
  match SyncCategory.ofName? category with
  | some .settings => ∃ members, data.asObject = some members ∧
      ∀ entry ∈ members, entry.1 ∉ skippedSettings →
        entry.2.asString.isSome ∧ weather.plan (.setSetting entry.1) = none
  | some .upstreams => ∃ items, parseUpstreams data = some items ∧
      (∀ item ∈ items, item.port ≠ 0) ∧ TransactionClear weather.plan items.length
  | some .rewrites => ∃ items, parseRewrites data = some items ∧
      (items.map RewriteRow.domain).Nodup ∧ TransactionClear weather.plan items.length
  | some .sources => ∃ items, parseSources data = some items ∧
      (items.map SourceItem.url).Nodup ∧ TransactionClear weather.plan items.length
  | some (.domains _) => ∃ domains, parseDomains data = some domains ∧
      TransactionClear weather.plan domains.length
  | none => False

variable {τ ν : Type} {plan : Plan ApplyCall} {insert : τ → ν → Option τ}

theorem insertEach_eq_ok {rows : List ν} {i : Nat} {table table' : τ} :
    insertEach plan insert i rows table = .ok table' ↔
      (∀ j < rows.length, plan (.insert (i + j)) = none) ∧
        rows.foldlM insert table = some table' := by
  induction rows generalizing i table with
  | nil =>
      simp only [insertEach, List.length_nil, Nat.not_lt_zero, false_imp_iff, implies_true,
        true_and, List.foldlM_nil]
      exact ⟨fun same => congrArg some (Except.ok.inj same),
        fun same => congrArg Except.ok (Option.some.inj same)⟩
  | cons row later ih =>
      have calls : (∀ j < (row :: later).length, plan (.insert (i + j)) = none) ↔
          plan (.insert i) = none ∧ ∀ j < later.length, plan (.insert (i + 1 + j)) = none := by
        constructor
        · intro all
          refine ⟨all 0 (Nat.succ_pos _), fun j inside => ?_⟩
          have one := all (j + 1) (Nat.succ_lt_succ inside)
          rwa [show i + (j + 1) = i + 1 + j by omega] at one
        · rintro ⟨first, rest⟩ j inside
          cases j with
          | zero => exact first
          | succ j =>
              have one := rest j (Nat.lt_of_succ_lt_succ inside)
              rwa [show i + 1 + j = i + (j + 1) by omega] at one
      rw [insertEach, Plan.attempt_bind_eq_ok, calls, List.foldlM_cons, and_assoc]
      refine and_congr_right fun _ => ?_
      cases inserted : insert table row with
      | none =>
          constructor
          · intro impossible
            cases impossible
          · rintro ⟨-, impossible⟩
            cases impossible
      | some next => exact ih

/-- **A transaction commits exactly if no call fails and every row goes in.** -/
theorem replaceRows_eq_ok {rows : List ν} {emptied table : τ} :
    replaceRows plan insert rows emptied = .ok table ↔
      TransactionClear plan rows.length ∧ rows.foldlM insert emptied = some table := by
  simp only [replaceRows, Plan.attempt_bind_eq_ok, TransactionClear]
  cases inserted : insertEach plan insert 0 rows emptied with
  | error error =>
      constructor
      · rintro ⟨-, -, -, -, impossible⟩
        cases impossible
      · rintro ⟨⟨-, -, -, -, calls, -⟩, rows⟩
        have loop := (insertEach_eq_ok (i := 0)).mpr ⟨by simpa using calls, rows⟩
        rw [inserted] at loop
        cases loop
  | ok written =>
      obtain ⟨calls, folded⟩ := insertEach_eq_ok.mp inserted
      simp only [Nat.zero_add] at calls
      rw [Plan.ok_bind, Plan.attempt_bind_eq_ok, folded]
      constructor
      · rintro ⟨connection, begin, delete, prepare, commit, same⟩
        exact ⟨⟨connection, begin, delete, prepare, calls, commit⟩,
          congrArg some (Except.ok.inj same)⟩
      · rintro ⟨⟨connection, begin, delete, prepare, -, commit⟩, same⟩
        exact ⟨connection, begin, delete, prepare, commit,
          congrArg Except.ok (Option.some.inj same)⟩

/-- **A category that is one table** is replaced as a whole, or nothing happens. -/
theorem applyRows_cases (weather : ApplyWeather) (items : Option (List ν))
    (insert : τ → ν → Option τ) (emptied : τ) (store : τ → Db) (site : Site) :
    let out := applyRows weather items insert emptied store site
    (∃ rows table, items = some rows ∧ TransactionClear weather.plan rows.length ∧
        rows.foldlM insert emptied = some table ∧
        out = { site := { site with db := store table }, committed := true }) ∨
      (¬ ∃ rows, items = some rows ∧ TransactionClear weather.plan rows.length ∧
        (rows.foldlM insert emptied).isSome) ∧ out = { site := site, committed := false } := by
  intro out
  cases items with
  | none =>
      refine Or.inr ⟨?_, rfl⟩
      rintro ⟨rows, impossible, -⟩
      cases impossible
  | some rows =>
      cases replaced : replaceRows weather.plan insert rows emptied with
      | ok table =>
          obtain ⟨clear, folded⟩ := replaceRows_eq_ok.mp replaced
          refine Or.inl ⟨rows, table, rfl, clear, folded, ?_⟩
          simp only [out, applyRows, replaced]
      | error error =>
          refine Or.inr ⟨?_, by simp only [out, applyRows, replaced]⟩
          rintro ⟨_, same, clear, isSome⟩
          obtain rfl := Option.some.inj same
          obtain ⟨table, folded⟩ := Option.isSome_iff_exists.mp isSome
          rw [replaceRows_eq_ok.mpr ⟨clear, folded⟩] at replaced
          cases replaced

theorem applyRows_committed {weather : ApplyWeather} {items : Option (List ν)} {emptied : τ}
    {store : τ → Db} {site : Site} :
    (applyRows weather items insert emptied store site).committed = true ↔
      ∃ rows, items = some rows ∧ TransactionClear weather.plan rows.length ∧
        (rows.foldlM insert emptied).isSome := by
  rcases applyRows_cases weather items insert emptied store site with
    ⟨rows, table, read, clear, folded, out⟩ | ⟨refused, out⟩
  · rw [out]
    exact ⟨fun _ => ⟨rows, read, clear, by rw [folded]; rfl⟩, fun _ => rfl⟩
  · rw [out]
    exact ⟨fun impossible => absurd impossible Bool.false_ne_true,
      fun written => absurd written refused⟩

theorem storeSettings_snd {weather : ApplyWeather} {members : List (Str × Json)} {db : Db} :
    (storeSettings weather members db).2 = true ↔
      ∀ entry ∈ members, entry.1 ∉ skippedSettings →
        entry.2.asString.isSome ∧ weather.plan (.setSetting entry.1) = none := by
  induction members generalizing db with
  | nil => simp [storeSettings]
  | cons entry later ih =>
      obtain ⟨key, value⟩ := entry
      rw [storeSettings, List.forall_mem_cons]
      by_cases skipped : key ∈ skippedSettings
      · rw [if_pos skipped, ih]
        exact ⟨fun rest => ⟨fun kept => absurd skipped kept, rest⟩, fun both => both.2⟩
      rw [if_neg skipped]
      have refused : ∀ {p q r : Prop}, ¬ p → (false = true ↔ (key ∉ skippedSettings → p ∧ q) ∧ r) :=
        fun unmet => ⟨fun impossible => absurd impossible Bool.false_ne_true,
          fun both => absurd (both.1 skipped).1 unmet⟩
      have failed : ∀ {p q r : Prop}, ¬ q → (false = true ↔ (key ∉ skippedSettings → p ∧ q) ∧ r) :=
        fun unmet => ⟨fun impossible => absurd impossible Bool.false_ne_true,
          fun both => absurd (both.1 skipped).2 unmet⟩
      cases value.asString with
      | none => exact refused Bool.false_ne_true
      | some v =>
          unfold ApplyWeather.plan
          cases weather.panics (.setSetting key) with
          | true => exact failed (Option.some_ne_none _)
          | false =>
              cases fails : weather.fails (.setSetting key) with
              | some error => exact failed (Option.some_ne_none _)
              | none =>
                  refine ih.trans ⟨fun rest => ⟨fun _ => ⟨rfl, rfl⟩, rest⟩, fun both => both.2⟩

end Commit

/-- Rewrites go in if no two are for one domain. -/
theorem insertRows_rewrites_isSome {table : RewriteTable} {items : List RewriteRow} :
    (insertRows table.deleteAll items).isSome ↔ (items.map RewriteRow.domain).Nodup := by
  rw [insertRows_deleteAll_isSome, List.Nodup, List.pairwise_map]
  simp [eq_comm]

/-- Sources go in if no two have one url. -/
theorem insertRows_sources_isSome {table : SourceTable} {items : List SourceItem} :
    (insertRows table.deleteAll (items.map SourceItem.row)).isSome ↔
      (items.map SourceItem.url).Nodup := by
  rw [insertRows_deleteAll_isSome, List.Nodup, List.pairwise_map, List.pairwise_map]
  simp [SourceItem.row, eq_comm]

/-- Upstreams go in: no two clash. -/
theorem insertRows_upstreams_isSome {table : UpstreamTable} {items : List UpstreamRow} :
    (insertRows table.deleteAll items).isSome := by
  rw [insertRows_deleteAll_isSome]
  exact List.pairwise_of_forall fun v v' k held => nomatch held

theorem foldlM_insertOrIgnore (domains : List Str) (table : DomainTable) :
    domains.foldlM (fun table domain => some (table.insertOrIgnore domain)) table =
      some (domains.foldl SqlTable.insertOrIgnore table) :=
  List.foldlM_pure

/-- The port of an upstream that was read is a `u16`. -/
theorem port_of_parseUpstreams {data : Json} {items : List UpstreamRow}
    (parsed : parseUpstreams data = some items) : ∀ item ∈ items, item.port ≤ 65535 := by
  intro item mem
  obtain ⟨value, read⟩ := Json.exists_of_mem_elements parsed mem
  obtain ⟨members, -, read⟩ := Option.bind_eq_some_iff.mp read
  obtain ⟨address, -, read⟩ := Option.bind_eq_some_iff.mp read
  obtain ⟨port, required, read⟩ := Option.bind_eq_some_iff.mp read
  obtain rfl := Option.some.inj read
  obtain ⟨number, -, small⟩ := Option.bind_eq_some_iff.mp required
  exact Nat.le_of_lt_succ (Json.lt_of_unsigned small)

/-- The database part of `apply_domains_inner`. -/
theorem applyDomains_outcome {u : CaseTables} {hash : Bytes → UInt64} {weather : ApplyWeather}
    {list : DomainList} {data : Json} {site : Site} :
    let rows := applyRows weather (parseDomains data)
      (fun table domain => some (table.insertOrIgnore domain))
      (site.db.domains list).deleteAll (site.db.setDomains list) site
    (applyDomains u hash weather list data site).committed = rows.committed ∧
      (applyDomains u hash weather list data site).site.db = rows.site.db := by
  intro rows
  rw [applyDomains]
  split <;> exact ⟨rfl, rfl⟩

/-- **Every failure is followed to the flag**: an apply writes its snapshot exactly
under `ApplyCommits`. -/
theorem applySnapshot_committed_iff (u : CaseTables) (hash : Bytes → UInt64)
    (weather : ApplyWeather) (category : Str) (data : Json) (site : Site) :
    (applySnapshotBlocking u hash weather category data site).committed = true ↔
      ApplyCommits weather category data := by
  unfold applySnapshotBlocking ApplyCommits
  cases SyncCategory.ofName? category with
  | none => exact ⟨fun impossible => absurd impossible Bool.false_ne_true, False.elim⟩
  | some known =>
    cases known with
    | settings =>
        simp only [applySettings]
        cases data.asObject with
        | none =>
            refine ⟨fun impossible => absurd impossible Bool.false_ne_true, ?_⟩
            rintro ⟨members, impossible, -⟩
            cases impossible
        | some members =>
            refine storeSettings_snd.trans ⟨fun all => ⟨members, rfl, all⟩, ?_⟩
            rintro ⟨_, same, all⟩
            obtain rfl := Option.some.inj same
            exact all
    | upstreams =>
        refine applyRows_committed.trans (exists_congr fun items => ?_)
        rw [Option.filter_eq_some_iff]
        constructor
        · rintro ⟨⟨parsed, ports⟩, clear, -⟩
          exact ⟨parsed, by simpa using ports, clear⟩
        · rintro ⟨parsed, ports, clear⟩
          refine ⟨⟨parsed, by simpa using ports⟩, clear, ?_⟩
          rw [foldlM_insertUpstream fun item mem =>
            ⟨ports item mem, port_of_parseUpstreams parsed item mem⟩]
          exact insertRows_upstreams_isSome
    | rewrites =>
        refine applyRows_committed.trans (exists_congr fun items => ?_)
        rw [← @insertRows_rewrites_isSome site.db.rewrites items]
        constructor
        · rintro ⟨parsed, clear, apart⟩
          exact ⟨parsed, apart, clear⟩
        · rintro ⟨parsed, apart, clear⟩
          exact ⟨parsed, clear, apart⟩
    | sources =>
        refine applyRows_committed.trans (exists_congr fun items => ?_)
        rw [← @insertRows_sources_isSome site.db.sources items, insertRows, List.foldlM_map]
        constructor
        · rintro ⟨parsed, clear, apart⟩
          exact ⟨parsed, apart, clear⟩
        · rintro ⟨parsed, apart, clear⟩
          exact ⟨parsed, clear, apart⟩
    | domains list =>
        show (applyDomains u hash weather list data site).committed = true ↔ _
        rw [applyDomains_outcome.1, applyRows_committed]
        simp only [foldlM_insertOrIgnore, Option.isSome_some, and_true]

/-! ## What a written snapshot leaves

If the flag is set, the rows of the payload are in the table, and for the settings every value
that is not skipped. -/

/-- The rows of a snapshot stand in the database; for the settings, the values of
the keys that are not skipped. -/
def SnapshotStored (category : Str) (data : Json) (db : Db) : Prop :=
  match SyncCategory.ofName? category with
  | some .settings => ∃ members, data.asObject = some members ∧
      ((members.map Prod.fst).Nodup → ∀ entry ∈ members, entry.1 ∉ skippedSettings →
        ∃ v, entry.2.asString = some v ∧ db.settings.lookup entry.1 = some v)
  | some .upstreams => ∃ items, parseUpstreams data = some items ∧ db.upstreams.values = items
  | some .rewrites => ∃ items, parseRewrites data = some items ∧ db.rewrites.values = items
  | some .sources => ∃ items, parseSources data = some items ∧
      db.sources.values = items.map SourceItem.row
  | some (.domains list) => ∃ domains, parseDomains data = some domains ∧
      ∀ d, d ∈ (db.domains list).values ↔ d ∈ domains
  | none => False

/-- A setting that no member names keeps its value. -/
theorem lookup_storeSettings_of_notMem {weather : ApplyWeather} {members : List (Str × Json)}
    {db : Db} {key : Str} (absent : key ∉ members.map Prod.fst) :
    (storeSettings weather members db).1.settings.lookup key = db.settings.lookup key := by
  induction members generalizing db with
  | nil => rfl
  | cons entry later ih =>
      obtain ⟨name, value⟩ := entry
      rw [List.map_cons, List.mem_cons, not_or] at absent
      obtain ⟨ne, rest⟩ := absent
      rw [storeSettings]
      split
      · exact ih rest
      split
      · exact ih rest
      split
      · rfl
      split
      · exact ih rest
      · rw [ih rest]
        exact AList.lookup_insert_ne ne

/-- **A setting that belongs to the node keeps its value.** -/
theorem lookup_storeSettings_of_skipped {weather : ApplyWeather} {members : List (Str × Json)}
    {db : Db} {key : Str} (skipped : key ∈ skippedSettings) :
    (storeSettings weather members db).1.settings.lookup key = db.settings.lookup key := by
  induction members generalizing db with
  | nil => rfl
  | cons entry later ih =>
      obtain ⟨name, value⟩ := entry
      rw [storeSettings]
      split
      · exact ih
      next kept =>
      -- a name that is not skipped is another one
      have ne : key ≠ name := fun same => kept (same ▸ skipped)
      split
      · exact ih
      split
      · rfl
      split
      · exact ih
      · rw [ih]
        exact AList.lookup_insert_ne ne

/-- Settings that are all stored have their values. -/
theorem lookup_storeSettings {weather : ApplyWeather} {members : List (Str × Json)} {db : Db}
    (distinct : (members.map Prod.fst).Nodup)
    (stored : (storeSettings weather members db).2 = true) :
    ∀ entry ∈ members, entry.1 ∉ skippedSettings →
      ∃ v, entry.2.asString = some v ∧
        (storeSettings weather members db).1.settings.lookup entry.1 = some v := by
  induction members generalizing db with
  | nil => simp
  | cons entry later ih =>
      obtain ⟨name, value⟩ := entry
      obtain ⟨fresh, distinct⟩ := List.nodup_cons.mp distinct
      have all := List.forall_mem_cons.mp (storeSettings_snd.mp stored)
      rw [storeSettings] at stored ⊢
      by_cases skipped : name ∈ skippedSettings
      · rw [if_pos skipped] at stored ⊢
        exact List.forall_mem_cons.mpr ⟨fun kept => absurd skipped kept, ih distinct stored⟩
      rw [if_neg skipped] at stored ⊢
      obtain ⟨isString, clear⟩ := all.1 skipped
      obtain ⟨v, string⟩ := Option.isSome_iff_exists.mp isString
      simp only [string] at stored ⊢
      have alive : weather.panics (.setSetting name) = false := by
        by_contra dies
        rw [Bool.not_eq_false] at dies
        rw [ApplyWeather.plan, if_pos dies] at clear
        cases clear
      have works : weather.fails (.setSetting name) = none := by
        rwa [ApplyWeather.plan, alive, if_neg Bool.false_ne_true] at clear
      simp only [alive, works, Option.isSome_none, Bool.false_eq_true, if_false] at stored ⊢
      refine List.forall_mem_cons.mpr ⟨fun _ => ⟨v, string, ?_⟩, ih distinct stored⟩
      rw [lookup_storeSettings_of_notMem fresh]
      exact AList.lookup_insert _

section Stored

variable {weather : ApplyWeather} {data : Json} {site : Site}

theorem applySettings_stored (written : (applySettings weather data site).committed = true) :
    ∃ members, data.asObject = some members ∧
      ((members.map Prod.fst).Nodup → ∀ entry ∈ members, entry.1 ∉ skippedSettings →
        ∃ v, entry.2.asString = some v ∧
          (applySettings weather data site).site.db.settings.lookup entry.1 = some v) := by
  unfold applySettings at written ⊢
  cases parsed : data.asObject with
  | none =>
      rw [parsed] at written
      cases written
  | some members =>
      rw [parsed] at written
      exact ⟨members, rfl, fun distinct => lookup_storeSettings distinct written⟩

theorem applyRows_stored {τ ν : Type} {insert : τ → ν → Option τ} {items : Option (List ν)}
    {emptied : τ} {store : τ → Db}
    (written : (applyRows weather items insert emptied store site).committed = true) :
    ∃ rows table, items = some rows ∧ rows.foldlM insert emptied = some table ∧
      (applyRows weather items insert emptied store site).site.db = store table := by
  rcases applyRows_cases weather items insert emptied store site with
    ⟨rows, table, read, -, folded, out⟩ | ⟨-, out⟩
  · exact ⟨rows, table, read, folded, by rw [out]⟩
  · rw [out] at written
    cases written

theorem applyUpstreams_stored (written : (applyUpstreams weather data site).committed = true) :
    ∃ items, parseUpstreams data = some items ∧
      (applyUpstreams weather data site).site.db.upstreams.values = items := by
  obtain ⟨items, table, accepted, folded, db⟩ := applyRows_stored written
  obtain ⟨parsed, ports⟩ := Option.filter_eq_some_iff.mp accepted
  have valid : ∀ item ∈ items, item.port ≠ 0 ∧ item.port ≤ 65535 := fun item mem =>
    ⟨(by simpa using ports : ∀ item ∈ items, item.port ≠ 0) item mem,
      port_of_parseUpstreams parsed item mem⟩
  rw [foldlM_insertUpstream valid] at folded
  refine ⟨items, parsed, ?_⟩
  rw [applyUpstreams, db]
  exact (insertRows_eq_some folded).1

theorem applyRewrites_stored (written : (applyRewrites weather data site).committed = true) :
    ∃ items, parseRewrites data = some items ∧
      (applyRewrites weather data site).site.db.rewrites.values = items := by
  obtain ⟨items, table, parsed, folded, db⟩ := applyRows_stored written
  refine ⟨items, parsed, ?_⟩
  rw [applyRewrites, db]
  exact (insertRows_eq_some folded).1

theorem applySources_stored (written : (applySources weather data site).committed = true) :
    ∃ items, parseSources data = some items ∧
      (applySources weather data site).site.db.sources.values = items.map SourceItem.row := by
  obtain ⟨items, table, parsed, folded, db⟩ := applyRows_stored written
  have inserted : insertRows site.db.sources.deleteAll (items.map SourceItem.row) =
      some table := by
    rw [insertRows, List.foldlM_map]
    exact folded
  refine ⟨items, parsed, ?_⟩
  rw [applySources, db]
  exact (insertRows_eq_some inserted).1

variable {u : CaseTables} {hash : Bytes → UInt64} {list : DomainList}

theorem applyDomains_stored
    (written : (applyDomains u hash weather list data site).committed = true) :
    ∃ domains, parseDomains data = some domains ∧
      (applyDomains u hash weather list data site).site.db = site.db.applyDomains list domains := by
  obtain ⟨flag, same⟩ := @applyDomains_outcome u hash weather list data site
  rw [flag] at written
  obtain ⟨domains, table, parsed, folded, db⟩ := applyRows_stored written
  rw [foldlM_insertOrIgnore] at folded
  obtain rfl := Option.some.inj folded
  exact ⟨domains, parsed, same.trans db⟩

/-- **A snapshot that was written is in the database.** -/
theorem applySnapshot_stored {category : Str}
    (written : (applySnapshotBlocking u hash weather category data site).committed = true) :
    SnapshotStored category data
      (applySnapshotBlocking u hash weather category data site).site.db := by
  revert written
  unfold applySnapshotBlocking SnapshotStored
  cases SyncCategory.ofName? category with
  | none => exact fun impossible => absurd impossible Bool.false_ne_true
  | some known =>
    cases known with
    | settings => exact applySettings_stored
    | upstreams => exact applyUpstreams_stored
    | rewrites => exact applyRewrites_stored
    | sources => exact applySources_stored
    | domains list =>
        intro written
        obtain ⟨domains, parsed, db⟩ := applyDomains_stored written
        refine ⟨domains, parsed, fun d => ?_⟩
        show d ∈ ((applyDomains u hash weather list data site).site.db.domains list).values ↔ _
        rw [db, Db.mem_applyDomains]

end Stored

end RustBlocker
