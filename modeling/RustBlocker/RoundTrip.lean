import RustBlocker.ManifestChanges

/-!
# Applying the snapshot of a master

A replica that applies the snapshot of a category has the master's columns of that category, as
far as its importer reads them.  Whether it then has the master's digest depends on the columns
that are hashed:

* **The columns that are imported** are those that are hashed, for the upstreams, the rewrites and
  the lists.
* **The column `enabled` of a source** is exported and hashed, and the importer does not read it:
  the source is stored with the default of the column, which is one.

`roundTrips_iff` says that this is the only difference: a category makes the round trip exactly if
it is not the sources, or every source of the master is enabled by a one.

The master is any database within its schema (`Db.InSchema`), and the replica any site, with rows
of its own that the snapshot replaces.  The settings are left out; their importer skips keys on
purpose, and what it keeps is another module.

To apply a snapshot twice is to delete the rows and insert them once more, so the ids go on from
where they were.  Idempotence is therefore up to ids, `SameButIds`, and no reader of a snapshot or
of a manifest sees an id.
-/

namespace RustBlocker

/-! ## Snapshots read back

The payload that a master writes is read by a replica: every member is there, has its type, and is
in the range of the column. -/

/-- What the schema and the column types promise of a database.  The importer reads numbers back
through these types. -/
structure Db.InSchema (db : Db) : Prop where
  /-- `CHECK (port BETWEEN 1 AND 65535)` -/
  ports : ∀ row ∈ db.upstreams.values, 1 ≤ row.port ∧ row.port ≤ 65535
  /-- An `INTEGER` column has 64 bits. -/
  intervals : ∀ row ∈ db.sources.values,
    -2 ^ 63 ≤ row.updateIntervalHours ∧ row.updateIntervalHours < 2 ^ 63

section ReadBack

variable {db : Db}

theorem parseUpstreams_syncSnapshot (schema : db.InSchema) :
    parseUpstreams (syncSnapshot db .upstreams) = some db.upstreams.values := by
  refine Json.elements_array_map_of_mem fun row mem => ?_
  have small : row.2.port < 2 ^ 16 := by
    have range := schema.ports row.2 (SqlTable.mem_values.mpr ⟨row.1, mem⟩)
    omega
  obtain ⟨members, json, address, port⟩ : ∃ members, UpstreamRow.json row = .object members ∧
      members.lookup "address".toList = some (.string row.2.address) ∧
      members.lookup "port".toList = some (.int row.2.port) := ⟨_, rfl, rfl, rfl⟩
  rw [json, show Json.record _ (.object members) = some members from rfl, Option.bind_eq_bind,
    Option.bind_some, Json.required_bind address (Json.asString_string _),
    Json.required_bind port (Json.unsigned_int small)]
  rfl

theorem parseSources_syncSnapshot (schema : db.InSchema) :
    parseSources (syncSnapshot db .sources) = some (db.sources.values.map SourceRow.item) := by
  show parseSources (.array ((db.sources.rows.map fun row => row.2.source row.1).map
    DbSource.json)) = some ((db.sources.rows.map Prod.snd).map SourceRow.item)
  rw [List.map_map, List.map_map]
  refine Json.elements_array_map_of_mem fun row mem => ?_
  have bounds := schema.intervals row.2 (SqlTable.mem_values.mpr ⟨row.1, mem⟩)
  obtain ⟨members, json, url, listType, hours⟩ :
      ∃ members, DbSource.json (row.2.source row.1) = .object members ∧
        members.lookup "url".toList = some (.string row.2.url) ∧
        members.lookup "list_type".toList = some (.string row.2.listType) ∧
        members.lookup "update_interval_hours".toList = some (.int row.2.updateIntervalHours) :=
    ⟨_, rfl, rfl, rfl, rfl⟩
  rw [Function.comp_apply, json, show Json.record _ (.object members) = some members from rfl,
    Option.bind_eq_bind, Option.bind_some, Json.required_bind url (Json.asString_string _),
    Json.required_bind listType (Json.asString_string _),
    Json.required_bind hours (Json.signed_int bounds)]
  rfl

/-- The urls of the sources are distinct. -/
theorem nodup_sources (table : SourceTable) : (table.values.map SourceRow.url).Nodup := by
  rw [List.Nodup, List.pairwise_map, SqlTable.values, List.pairwise_map]
  refine table.unique.imp ?_
  intro row row' apart same
  exact apart row.2.url rfl (congrArg some same.symm)

/-- The snapshot of a master is one a replica can store. -/
theorem applyCommits_syncSnapshot (schema : db.InSchema) {c : SyncCategory}
    (kept : c ≠ .settings) : ApplyCommits {} c.name (syncSnapshot db c) := by
  simp only [ApplyCommits, SyncCategory.ofName?_name]
  cases c with
  | settings => exact absurd rfl kept
  | upstreams =>
      refine ⟨_, parseUpstreams_syncSnapshot schema, fun item mem => ?_, transactionClear_clear _⟩
      exact Nat.pos_iff_ne_zero.mp (schema.ports item mem).1
  | rewrites =>
      refine ⟨_, parseRewrites_syncSnapshot db, ?_, transactionClear_clear _⟩
      exact ((Str.sortBy_perm _ _).map _).nodup_iff.mpr (nodup_rewrites db.rewrites)
  | sources =>
      refine ⟨_, parseSources_syncSnapshot schema, ?_, transactionClear_clear _⟩
      rw [List.map_map]
      exact nodup_sources db.sources
  | domains list => exact ⟨_, parseDomains_syncSnapshot db list, transactionClear_clear _⟩

end ReadBack

/-! ## Applying twice

Each importer deletes and inserts, so the second time it inserts what it has just deleted.  The
rows come back in the same order, under new ids. -/

/-- Two sites that differ in row ids only. -/
structure SameButIds (site site' : Site) : Prop where
  settings : site'.db.settings = site.db.settings
  upstreams : site'.db.upstreams.values = site.db.upstreams.values
  domains : ∀ list, (site'.db.domains list).values = (site.db.domains list).values
  rewrites : site'.db.rewrites.values = site.db.rewrites.values
  sources : site'.db.sources.values = site.db.sources.values
  sourceDomains : site'.db.sourceDomains = site.db.sourceDomains
  manualDomains : site'.db.manualDomains = site.db.manualDomains
  runtime : site'.runtime = site.runtime

/-- A category that is one table, written with the rows the table held: if nothing but
the table is stored, nothing but the ids differs. -/
theorem applyRows_same {α τ ν : Type} {weather : ApplyWeather} {items : Option (List ν)}
    {insert : τ → ν → Option τ} {emptied : τ} {store : τ → Db} {site : Site}
    (rows : Db → List α)
    (only : ∀ table, rows (store table) = rows site.db →
      SameButIds site { site with db := store table })
    (written : (applyRows weather items insert emptied store site).committed = true)
    (same : rows (applyRows weather items insert emptied store site).site.db = rows site.db) :
    SameButIds site (applyRows weather items insert emptied store site).site := by
  rcases applyRows_cases weather items insert emptied store site with
    ⟨_, table, -, -, -, out⟩ | ⟨-, out⟩
  · rw [out] at same ⊢
    exact only table same
  · rw [out] at written
    cases written

/-- What `INSERT OR IGNORE` leaves depends on the rows that were there, not on their ids. -/
theorem values_foldl_insertOrIgnore (domains : List Str) {table table' : DomainTable}
    (same : table.values = table'.values) :
    (domains.foldl SqlTable.insertOrIgnore table).values =
      (domains.foldl SqlTable.insertOrIgnore table').values := by
  induction domains generalizing table table' with
  | nil => exact same
  | cons domain later ih =>
      refine ih ?_
      have clash : table.clashes domain = table'.clashes domain := by
        rw [Bool.eq_iff_iff, SqlTable.clashes_eq_true, SqlTable.clashes_eq_true, same]
      cases present : table.clashes domain with
      | true =>
          rw [SqlTable.insertOrIgnore_of_clashes present,
            SqlTable.insertOrIgnore_of_clashes (clash.symm.trans present), SqlTable.values_skipId,
            SqlTable.values_skipId, same]
      | false =>
          rw [SqlTable.values_insertOrIgnore_of_not_clashes present,
            SqlTable.values_insertOrIgnore_of_not_clashes (clash.symm.trans present), same]

section Again

variable {u : CaseTables} {hash : Bytes → UInt64} {data : Json} {site : Site} {list : DomainList}

/-- Applying the rows that stand in the table changes their ids. -/
theorem applyUpstreams_same (parsed : parseUpstreams data = some site.db.upstreams.values)
    (written : (applyUpstreams {} data site).committed = true) :
    SameButIds site (applyUpstreams {} data site).site := by
  obtain ⟨items, read, values⟩ := applyUpstreams_stored written
  refine applyRows_same (fun db => db.upstreams.values) (fun table same => ?_) written
    (values.trans (Option.some.inj (read.symm.trans parsed)))
  exact ⟨rfl, same, fun _ => rfl, rfl, rfl, rfl, rfl, rfl⟩

theorem applyRewrites_same (parsed : parseRewrites data = some site.db.rewrites.values)
    (written : (applyRewrites {} data site).committed = true) :
    SameButIds site (applyRewrites {} data site).site := by
  obtain ⟨items, read, values⟩ := applyRewrites_stored written
  refine applyRows_same (fun db => db.rewrites.values) (fun table same => ?_) written
    (values.trans (Option.some.inj (read.symm.trans parsed)))
  exact ⟨rfl, rfl, fun _ => rfl, same, rfl, rfl, rfl, rfl⟩

theorem applySources_same {items : List SourceItem} (parsed : parseSources data = some items)
    (here : site.db.sources.values = items.map SourceItem.row)
    (written : (applySources {} data site).committed = true) :
    SameButIds site (applySources {} data site).site := by
  obtain ⟨items', read, values⟩ := applySources_stored written
  obtain rfl := Option.some.inj (parsed.symm.trans read)
  refine applyRows_same (fun db => db.sources.values) (fun table same => ?_) written
    (values.trans here.symm)
  exact ⟨rfl, rfl, fun _ => rfl, rfl, same, rfl, rfl, rfl⟩

/-- What `apply_domains_inner` leaves when nothing fails. -/
theorem applyDomains_site {domains : List Str} (parsed : parseDomains data = some domains) :
    (applyDomains u hash {} list data site).site =
      { db := site.db.applyDomains list domains
        runtime := Function.update site.runtime list (storeOf u hash domains) } := by
  have folds : domains.foldlM (fun table domain => some (SqlTable.insertOrIgnore table domain))
      (site.db.domains list).deleteAll = some _ := foldlM_insertOrIgnore _ _
  rcases applyRows_cases {} (parseDomains data)
      (fun table domain => some (SqlTable.insertOrIgnore table domain))
      (site.db.domains list).deleteAll (site.db.setDomains list) site with
    ⟨rows, table, read, -, folded, out⟩ | ⟨refused, -⟩
  · obtain rfl := Option.some.inj (parsed.symm.trans read)
    obtain rfl := Option.some.inj (folds.symm.trans folded)
    rw [applyDomains, out, parsed]
    rfl
  · refine absurd ⟨domains, parsed, transactionClear_clear _, ?_⟩ refused
    rw [folds]
    rfl

theorem applyDomains_same {domains : List Str} (parsed : parseDomains data = some domains)
    (here : (site.db.domains list).values =
      (domains.foldl SqlTable.insertOrIgnore (.empty : DomainTable)).values)
    (runtime : site.runtime list = storeOf u hash domains) :
    SameButIds site (applyDomains u hash {} list data site).site := by
  rw [applyDomains_site parsed]
  have rows : (domains.foldl SqlTable.insertOrIgnore (site.db.domains list).deleteAll).values =
      (site.db.domains list).values := by
    have emptied : (site.db.domains list).deleteAll.values =
        (SqlTable.empty : DomainTable).values := rfl
    exact (values_foldl_insertOrIgnore domains emptied).trans here.symm
  refine ⟨rfl, rfl, fun list' => ?_, rfl, rfl, rfl, rfl, ?_⟩
  · show ((site.db.applyDomains list domains).domains list').values = _
    rw [Db.applyDomains]
    by_cases same : list' = list
    · rw [same, Db.setDomains_domains_self, rows]
    · rw [Db.setDomains_domains_of_ne same]
  · show Function.update site.runtime list (storeOf u hash domains) = site.runtime
    rw [← runtime, Function.update_eq_self]

end Again

/-! ## The round trip

A replica after one snapshot, table by table, and after the same snapshot once more. -/

section RoundTrip

variable (u : CaseTables) (hash : Bytes → UInt64) (sha : Bytes → Str)

/-- A replica after it has applied the snapshot of a category, no call failing. -/
def afterSnapshot (master : Db) (c : SyncCategory) (site : Site) : Site :=
  (applySnapshotBlocking u hash {} c.name (syncSnapshot master c) site).site

/-- **The round trip of a category**: the replica has the master's digest, and applying the
snapshot once more changes nothing but ids.  The first is what keeps the next poll from fetching
it again. -/
structure RoundTrips (master : Db) (c : SyncCategory) (site : Site) : Prop where
  digest : syncManifest sha (afterSnapshot u hash master c site).db c = syncManifest sha master c
  again : SameButIds (afterSnapshot u hash master c site)
    (afterSnapshot u hash master c (afterSnapshot u hash master c site))

variable {master : Db} (site : Site)

theorem afterSnapshot_eq (c : SyncCategory) : afterSnapshot u hash master c site =
    match c with
    | .settings => (applySettings {} (syncSnapshot master .settings) site).site
    | .upstreams => (applyUpstreams {} (syncSnapshot master .upstreams) site).site
    | .rewrites => (applyRewrites {} (syncSnapshot master .rewrites) site).site
    | .sources => (applySources {} (syncSnapshot master .sources) site).site
    | .domains list =>
        (applyDomains u hash {} list (syncSnapshot master (.domains list)) site).site := by
  rw [afterSnapshot, applySnapshotBlocking, SyncCategory.ofName?_name]
  cases c <;> rfl

/-- The snapshot of a master goes into every replica. -/
theorem committed_syncSnapshot (schema : master.InSchema) {c : SyncCategory}
    (kept : c ≠ .settings) :
    (applySnapshotBlocking u hash {} c.name (syncSnapshot master c) site).committed = true :=
  (applySnapshot_committed_iff u hash {} c.name _ site).mpr
    (applyCommits_syncSnapshot schema kept)

theorem upstreams_afterSnapshot (schema : master.InSchema) :
    (afterSnapshot u hash master .upstreams site).db.upstreams.values =
      master.upstreams.values := by
  have written := committed_syncSnapshot u hash site schema (c := .upstreams) (by decide)
  have stored := applySnapshot_stored written
  simp only [SnapshotStored, SyncCategory.ofName?_name, parseUpstreams_syncSnapshot schema]
    at stored
  obtain ⟨items, parsed, rows⟩ := stored
  exact rows.trans (Option.some.inj parsed).symm

theorem sources_afterSnapshot (schema : master.InSchema) :
    (afterSnapshot u hash master .sources site).db.sources.values =
      (master.sources.values.map SourceRow.item).map SourceItem.row := by
  have written := committed_syncSnapshot u hash site schema (c := .sources) (by decide)
  have stored := applySnapshot_stored written
  simp only [SnapshotStored, SyncCategory.ofName?_name, parseSources_syncSnapshot schema]
    at stored
  obtain ⟨items, parsed, rows⟩ := stored
  obtain rfl := Option.some.inj parsed
  exact rows

/-- **Applying a snapshot again** changes nothing but ids, whatever the category. -/
theorem afterSnapshot_again (schema : master.InSchema) {c : SyncCategory}
    (kept : c ≠ .settings) :
    SameButIds (afterSnapshot u hash master c site)
      (afterSnapshot u hash master c (afterSnapshot u hash master c site)) := by
  have written := committed_syncSnapshot u hash (afterSnapshot u hash master c site) schema kept
  rw [applySnapshotBlocking, SyncCategory.ofName?_name] at written
  rw [afterSnapshot_eq u hash (afterSnapshot u hash master c site)]
  cases c with
  | settings => exact absurd rfl kept
  | upstreams =>
      refine applyUpstreams_same ?_ written
      rw [upstreams_afterSnapshot u hash site schema]
      exact parseUpstreams_syncSnapshot schema
  | rewrites =>
      refine applyRewrites_same ?_ written
      refine (parseRewrites_syncSnapshot master).trans (congrArg some ?_)
      exact (mirrored_rewrites u hash master site).symm
  | sources =>
      exact applySources_same (parseSources_syncSnapshot schema)
        (sources_afterSnapshot u hash site schema) written
  | domains list =>
      have parsed := parseDomains_syncSnapshot master list
      have first : afterSnapshot u hash master (.domains list) site = _ :=
        (afterSnapshot_eq u hash site (.domains list)).trans (applyDomains_site parsed)
      refine applyDomains_same parsed ?_ ?_
      · rw [first]
        show ((site.db.applyDomains list _).domains list).values = _
        rw [Db.applyDomains, Db.setDomains_domains_self]
        exact values_foldl_insertOrIgnore _ rfl
      · rw [first]
        exact Function.update_self ..

/-! ## The sources

The line of a source ends in its flag.  If it was stored with the default, the digest is the one
of the master only if the master had the default too; that a longer number could make up for a
shorter one is ruled out by the lengths. -/

/-- The importer gives a source the default of its column `enabled`. -/
theorem line_row_item (row : SourceRow) :
    row.item.row.line = { row with enabled := 1 }.line := rfl

theorem line_item_eq_iff {row : SourceRow} : row.item.row.line = row.line ↔ row.enabled = 1 := by
  rw [line_row_item]
  constructor
  · intro same
    have flags := List.append_cancel_left same
    have flags := List.append_cancel_left (List.tail_eq_of_cons_eq flags)
    have flags := List.tail_eq_of_cons_eq flags
    exact (signedDecimal_injective (List.append_cancel_right flags)).symm
  · intro one
    rw [← one]

/-- No flag is written shorter than the default. -/
theorem length_line_item_le (row : SourceRow) : row.item.row.line.length ≤ row.line.length := by
  have written : 0 < (signedDecimal row.enabled).length := by
    show 0 < (Int.repr row.enabled).toList.length
    rw [Int.repr_eq_if]
    split
    · rw [Nat.toList_repr]
      exact Nat.length_toDigits_pos
    · simp
  have default : (signedDecimal 1).length = 1 := by decide
  rw [line_row_item]
  simp only [SourceRow.line, List.length_append, List.length_cons, default]
  omega

/-- Texts put together from parts of which none is longer than its counterpart are equal
only if the parts are. -/
theorem flatMap_eq_of_length_le {α χ : Type} {f g : α → List χ} {rows : List α}
    (shorter : ∀ row, (f row).length ≤ (g row).length) (same : rows.flatMap f = rows.flatMap g) :
    ∀ row ∈ rows, f row = g row := by
  induction rows with
  | nil => simp
  | cons row rest ih =>
      have later : (rest.flatMap f).length ≤ (rest.flatMap g).length := by
        rw [List.length_flatMap, List.length_flatMap]
        exact List.sum_le_sum fun row _ => shorter row
      rw [List.flatMap_cons, List.flatMap_cons] at same
      have lengths := congrArg List.length same
      rw [List.length_append, List.length_append] at lengths
      have here := shorter row
      obtain ⟨first, rest⟩ := List.append_inj same (by omega)
      exact List.forall_mem_cons.mpr ⟨first, ih rest⟩

variable {sha}

/-- **The digest of the sources is carried over** exactly if all are enabled by a one. -/
theorem digest_sources_iff (injective : Function.Injective sha) (schema : master.InSchema) :
    syncManifest sha (afterSnapshot u hash master .sources site).db .sources =
        syncManifest sha master .sources ↔
      ∀ row ∈ master.sources.values, row.enabled = 1 := by
  have restored : (afterSnapshot u hash master .sources site).db.hashedLines .sources =
      (Str.sortBy SourceRow.url master.sources.values).map fun row => row.item.row.line := by
    show (Str.sortBy SourceRow.url _).map SourceRow.line = _
    rw [sources_afterSnapshot u hash site schema, List.map_map]
    have sorted : Str.sortBy SourceRow.url
        (master.sources.values.map (SourceItem.row ∘ SourceRow.item)) =
          (Str.sortBy SourceRow.url master.sources.values).map
            (SourceItem.row ∘ SourceRow.item) :=
      (List.map_insertionSort _ _ (SourceItem.row ∘ SourceRow.item) master.sources.values
        fun _ _ _ _ => Iff.rfl).symm
    rw [sorted, List.map_map]
    rfl
  have mem : ∀ row, row ∈ Str.sortBy SourceRow.url master.sources.values ↔
      row ∈ master.sources.values := fun row => (Str.sortBy_perm _ _).mem_iff
  rw [syncManifest, syncManifest, injective.eq_iff, restored]
  constructor
  · intro same row inside
    have texts := (hashedText_eq_utf8 _ _).symm.trans (same.trans (hashedText_eq_utf8 _ _))
    have lines := flatMap_eq_of_length_le (fun row => ?_) (Str.utf8_inj.mp texts) row
      ((mem row).mpr inside)
    · exact line_item_eq_iff.mp (List.append_cancel_right lines)
    · simpa using length_line_item_le row
  · intro enabled
    refine congrArg hashedText (List.map_congr_left fun row inside => ?_)
    exact line_item_eq_iff.mpr (enabled row ((mem row).mp inside))

/-! ## When a category makes the round trip

The categories one by one, and the two examples about the sources. -/

/-- **A category makes the round trip** exactly if it is not the sources, or every source
of the master is enabled by a one. -/
theorem roundTrips_iff (injective : Function.Injective sha) (schema : master.InSchema)
    {c : SyncCategory} (kept : c ≠ .settings) :
    RoundTrips u hash sha master c site ↔
      (c = .sources → ∀ row ∈ master.sources.values, row.enabled = 1) := by
  have digest : syncManifest sha (afterSnapshot u hash master c site).db c =
      syncManifest sha master c ↔
        (c = .sources → ∀ row ∈ master.sources.values, row.enabled = 1) := by
    cases c with
    | settings => exact absurd rfl kept
    | upstreams =>
        refine ⟨fun _ other => absurd other (by decide), fun _ => ?_⟩
        show sha (hashedText ((List.insertionSort _ _).map _)) = _
        rw [upstreams_afterSnapshot u hash site schema]
        rfl
    | rewrites =>
        exact ⟨fun _ other => absurd other (by decide),
          fun _ => syncManifest_mirrored u hash master site sha .rewrites⟩
    | sources =>
        rw [digest_sources_iff u hash site injective schema]
        exact ⟨fun all _ => all, fun all => all rfl⟩
    | domains list =>
        exact ⟨fun _ other => absurd other (by simp),
          fun _ => syncManifest_mirrored u hash master site sha (.domains list)⟩
  rw [← digest]
  exact ⟨RoundTrips.digest, fun same => ⟨same, afterSnapshot_again u hash site schema kept⟩⟩

/-- A master with one enabled source, and a replica with another. -/
theorem roundTrips_iff_sources :
    RoundTrips .ascii (fun _ => 0) byteText
      (.ofSources [{ url := "a".toList, listType := "blocklist".toList }]) .sources
      { db := .ofSources [{ url := "b".toList, listType := "blocklist".toList }] } := by
  refine (roundTrips_iff .ascii (fun _ => 0) _ byteText_injective ⟨?_, ?_⟩ (c := .sources)
    (by decide)).mpr fun _ => ?_
  · show ∀ row ∈ SqlTable.values _, _
    decide
  · show ∀ row ∈ SqlTable.values _, _
    decide +kernel
  · show ∀ row ∈ SqlTable.values _, _
    decide +kernel

/-- A master whose only source is disabled: the replica that has applied the snapshot has
another digest. -/
theorem not_roundTrips_disabled :
    ¬ RoundTrips .ascii (fun _ => 0) byteText
      (.ofSources [{ url := "a".toList, listType := "blocklist".toList, enabled := 0 }])
      .sources {} := by
  intro trip
  have text := byteText_injective trip.digest
  revert text
  decide +kernel

end RoundTrip

end RustBlocker
