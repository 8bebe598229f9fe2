import RustBlocker.Library.SelfDelimiting
import RustBlocker.SyncManifest

/-!
# Rows, digests and snapshots

The three categories of which a replica is to hold every row as its master does: the two lists and
the rewrites.  For these the module relates the rows of a table, their digest in the manifest, and
the snapshot:

* `sameRows_of_syncManifest_eq` — equal digests mean equal rows, where the rows are plain: no
  column holds a separator, and no address is the empty text, which the digest does not tell from
  a missing one;
* `syncManifest_mirrored` — a replica that has applied a snapshot, with no call failing, has the
  digest of the database the snapshot was read from;
* `applySnapshot_frame` — applying a snapshot leaves the rows of the other categories alone.

Rows are compared without their ids and without their order, since a snapshot brings neither.  The
table of a replica numbers its own rows.

The hash is a parameter, of which the first result needs that it is injective; the examples use a
digest that gives its input back.
-/

namespace RustBlocker

/-- A category that is mirrored row by row. -/
inductive Mirrored where
  | rewrites
  | domains (list : DomainList)
deriving DecidableEq, Repr

/-- The category of the manifest. -/
def Mirrored.category : Mirrored → SyncCategory
  | rewrites => .rewrites
  | domains list => .domains list

/-- The rows of a category are the same, but for their ids and their order. -/
def SameRows (db db' : Db) : Mirrored → Prop
  | .rewrites => db.rewrites.values.Perm db'.rewrites.values
  | .domains list => (db.domains list).values.Perm (db'.domains list).values

/-- Columns that hold no separator, and no empty address, so that the line of the row gives the
columns back. -/
structure RewriteRow.Plain (row : RewriteRow) : Prop where
  domain : '|' ∉ row.domain ∧ '\n' ∉ row.domain
  ipv4 : ∀ address, row.ipv4 = some address → '|' ∉ address ∧ '\n' ∉ address ∧ address ≠ []
  ipv6 : ∀ address, row.ipv6 = some address → '|' ∉ address ∧ '\n' ∉ address ∧ address ≠ []

/-- The rows of a category hold nothing that its lines confuse. -/
def Db.Plain (db : Db) : Mirrored → Prop
  | .rewrites => ∀ row ∈ db.rewrites.values, row.Plain
  | .domains list => ∀ domain ∈ (db.domains list).values, '\n' ∉ domain

/-! ## Digests

From a digest back to the rows.  The hash gives back the text, a text of self-delimiting lines
gives back the lines, and the line of a plain row gives back the row. -/

/-- The hashed bytes are the bytes of one text. -/
theorem hashedText_eq_utf8 {ρ : Type} (line : ρ → Str) (rows : List ρ) :
    hashedText (rows.map line) = Str.utf8 (rows.flatMap fun row => line row ++ ['\n']) := by
  induction rows with
  | nil => rfl
  | cons row rest ih =>
      have feed : Str.utf8 ['\n'] = [10] := by decide
      rw [List.flatMap_cons, Str.utf8_append, ← ih, Str.utf8_append, feed]
      rfl

/-- **Rows whose lines are self-delimiting are determined by what is hashed.** -/
theorem hashedText_inj {ρ : Type} {line : ρ → Str} {p : ρ → Prop} {rows rows' : List ρ}
    (delimited : SelfDelimiting (fun row => line row ++ ['\n']) p) (all : ∀ row ∈ rows, p row)
    (all' : ∀ row ∈ rows', p row)
    (same : hashedText (rows.map line) = hashedText (rows'.map line)) :
    rows = rows' := by
  rw [hashedText_eq_utf8, hashedText_eq_utf8, Str.utf8_inj] at same
  exact delimited.flatMap_inj all all' same

/-- A digest that gives the bytes back, each as a character. -/
def byteText (bytes : Bytes) : Str := bytes.map fun b => Char.ofNat b.toNat

theorem byteText_injective : Function.Injective byteText :=
  List.map_injective_iff.mpr Str.charOfByte_injective

/-- A domain without a line feed ends where its line ends. -/
theorem selfDelimiting_domain :
    SelfDelimiting (fun domain : Str => domain ++ ['\n']) fun domain => '\n' ∉ domain where
  ne_nil domain := by simp
  first := by
    intro domain domain' free free' s t same
    rw [List.append_assoc, List.append_assoc] at same
    exact append_sep_inj free free' same

/-- A column of an address, empty where it is missing, gives the address back. -/
theorem getD_nil_inj {a b : Option Str} (here : ∀ address, a = some address → address ≠ [])
    (there : ∀ address, b = some address → address ≠ []) (same : a.getD [] = b.getD []) :
    a = b := by
  rcases a with _ | x <;> rcases b with _ | y
  · rfl
  · exact absurd same.symm (there y rfl)
  · exact absurd same (here x rfl)
  · exact congrArg some same

namespace RewriteRow

variable {row row' : RewriteRow}

theorem Plain.notMem_getD (plain : row.Plain) :
    '|' ∉ row.ipv4.getD [] ∧ '\n' ∉ row.ipv4.getD [] ∧ '\n' ∉ row.ipv6.getD [] := by
  have empty : ∀ c : Char, c ∉ ([] : Str) := fun c => List.not_mem_nil
  rcases row with ⟨domain, _ | v4, _ | v6⟩
  · exact ⟨empty _, empty _, empty _⟩
  · exact ⟨empty _, empty _, (plain.ipv6 v6 rfl).2.1⟩
  · exact ⟨(plain.ipv4 v4 rfl).1, (plain.ipv4 v4 rfl).2.1, empty _⟩
  · exact ⟨(plain.ipv4 v4 rfl).1, (plain.ipv4 v4 rfl).2.1, (plain.ipv6 v6 rfl).2.1⟩

/-- The line of a plain row is one line. -/
theorem Plain.line (plain : row.Plain) : '\n' ∉ row.line := by
  obtain ⟨-, v4, v6⟩ := plain.notMem_getD
  simp only [RewriteRow.line, List.mem_append, List.mem_cons, not_or]
  exact ⟨plain.domain.2, by decide, v4, by decide, v6⟩

/-- **The line of a plain row determines the row.** -/
theorem line_inj (plain : row.Plain) (plain' : row'.Plain) (same : row.line = row'.line) :
    row = row' := by
  obtain ⟨domain, rest⟩ := append_sep_inj plain.domain.1 plain'.domain.1 same
  obtain ⟨v4, v6⟩ := append_sep_inj plain.notMem_getD.1 plain'.notMem_getD.1 rest
  have ipv4 := getD_nil_inj (fun a held => (plain.ipv4 a held).2.2)
    (fun a held => (plain'.ipv4 a held).2.2) v4
  have ipv6 := getD_nil_inj (fun a held => (plain.ipv6 a held).2.2)
    (fun a held => (plain'.ipv6 a held).2.2) v6
  rcases row with ⟨d, a, b⟩
  rcases row' with ⟨d', a', b'⟩
  simp only at domain ipv4 ipv6
  rw [domain, ipv4, ipv6]

/-- A plain row ends where its line ends. -/
theorem selfDelimiting_plain :
    SelfDelimiting (fun row : RewriteRow => row.line ++ ['\n']) RewriteRow.Plain where
  ne_nil row := by simp
  first := by
    intro row row' plain plain' s t same
    rw [List.append_assoc, List.append_assoc] at same
    obtain ⟨line, rest⟩ := append_sep_inj plain.line plain'.line same
    exact ⟨line_inj plain plain' line, rest⟩

end RewriteRow

/-- **Equal digests mean equal rows**, where the rows are plain. -/
theorem sameRows_of_syncManifest_eq {sha : Bytes → Str} (injective : Function.Injective sha)
    {db db' : Db} {c : Mirrored} (plain : db.Plain c) (plain' : db'.Plain c)
    (same : syncManifest sha db c.category = syncManifest sha db' c.category) :
    SameRows db db' c := by
  have text := injective same
  cases c with
  | rewrites =>
      have perm := fun db : Db => Str.sortBy_perm RewriteRow.domain db.rewrites.values
      have sorted : ∀ {db : Db}, db.Plain .rewrites →
          ∀ row ∈ Str.sortBy RewriteRow.domain db.rewrites.values, row.Plain :=
        fun plain row mem => plain row ((perm _).mem_iff.mp mem)
      have rows :=
        hashedText_inj RewriteRow.selfDelimiting_plain (sorted plain) (sorted plain') text
      exact (perm db).symm.trans (rows ▸ perm db')
  | domains list =>
      have perm : ∀ db : Db, (Str.sort (db.domains list).values).Perm (db.domains list).values :=
        fun db => List.perm_insertionSort Str.Before _
      have sorted : ∀ {db : Db}, db.Plain (.domains list) →
          ∀ domain ∈ Str.sort (db.domains list).values, '\n' ∉ domain :=
        fun plain domain mem => plain domain (Str.mem_sort.mp mem)
      have text : hashedText ((Str.sort (db.domains list).values).map id) =
          hashedText ((Str.sort (db'.domains list).values).map id) := by
        rw [List.map_id, List.map_id]
        exact text
      have rows := hashedText_inj selfDelimiting_domain (sorted plain) (sorted plain') text
      exact (perm db).symm.trans (rows ▸ perm db')

/-! ## Snapshots

From the rows of the master over a payload to the rows of the replica, for each of the three
categories.  The order changes and the ids do, the rows do not. -/

theorem parseDomains_syncSnapshot (db : Db) (list : DomainList) :
    parseDomains (syncSnapshot db (.domains list)) = some (Str.sort (db.domains list).values) := by
  have read : ∀ domain, Json.asString (.string domain) = some (id domain) := fun _ => rfl
  have back := Json.elements_array_map read (Str.sort (db.domains list).values)
  rwa [List.map_id] at back

/-- The rewrites of a snapshot are those of the table, sorted. -/
theorem parseRewrites_syncSnapshot (db : Db) :
    parseRewrites (syncSnapshot db .rewrites) =
      some (Str.sortBy RewriteRow.domain db.rewrites.values) := by
  have sorted : (Str.sortBy (fun row => row.2.domain) db.rewrites.rows).map Prod.snd =
      Str.sortBy RewriteRow.domain db.rewrites.values :=
    List.map_insertionSort _ _ Prod.snd db.rewrites.rows fun _ _ _ _ => Iff.rfl
  rw [← sorted]
  refine Json.elements_array_map (fun row => ?_) _
  obtain ⟨id, domain, ipv4, ipv6⟩ := row
  rcases ipv4 with _ | v4 <;> rcases ipv6 with _ | v6 <;> rfl

/-- No call fails. -/
theorem transactionClear_clear (rows : Nat) :
    TransactionClear ({} : ApplyWeather).plan rows :=
  ⟨rfl, rfl, rfl, rfl, fun _ _ => rfl, rfl⟩

section Snapshot

variable (u : CaseTables) (hash : Bytes → UInt64) (master : Db) (site : Site)

/-- The replica after it has applied a snapshot of the master, no call failing. -/
def mirrored (c : Mirrored) : Db :=
  (applySnapshotBlocking u hash {} c.category.name (syncSnapshot master c.category) site).site.db

theorem mirrored_domains (list : DomainList) :
    ((mirrored u hash master site (.domains list)).domains list).values.Perm
      (master.domains list).values := by
  have committed := (applySnapshot_committed_iff u hash {} (SyncCategory.domains list).name
    (syncSnapshot master (.domains list)) site).mpr (by
      simp only [ApplyCommits, SyncCategory.ofName?_name]
      exact ⟨_, parseDomains_syncSnapshot master list, transactionClear_clear _⟩)
  have stored := applySnapshot_stored committed
  simp only [SnapshotStored, SyncCategory.ofName?_name, parseDomains_syncSnapshot] at stored
  obtain ⟨domains, parsed, rows⟩ := stored
  obtain rfl := Option.some.inj parsed
  refine (List.perm_ext_iff_of_nodup (SqlTable.nodup_values _) (SqlTable.nodup_values _)).mpr ?_
  intro d
  rw [← @Str.mem_sort d (master.domains list).values]
  exact rows d

/-- The domains of the rewrites are distinct. -/
theorem nodup_rewrites (table : RewriteTable) : (table.values.map RewriteRow.domain).Nodup := by
  rw [List.Nodup, List.pairwise_map, SqlTable.values, List.pairwise_map]
  refine table.unique.imp ?_
  intro row row' apart same
  exact apart row.2.domain rfl (congrArg some same.symm)

theorem mirrored_rewrites :
    (mirrored u hash master site .rewrites).rewrites.values =
      Str.sortBy RewriteRow.domain master.rewrites.values := by
  have distinct : ((Str.sortBy RewriteRow.domain master.rewrites.values).map
      RewriteRow.domain).Nodup :=
    ((Str.sortBy_perm _ _).map _).nodup_iff.mpr (nodup_rewrites master.rewrites)
  have committed := (applySnapshot_committed_iff u hash {} SyncCategory.rewrites.name
    (syncSnapshot master .rewrites) site).mpr (by
      simp only [ApplyCommits, SyncCategory.ofName?_name]
      exact ⟨_, parseRewrites_syncSnapshot master, distinct, transactionClear_clear _⟩)
  have stored := applySnapshot_stored committed
  simp only [SnapshotStored, SyncCategory.ofName?_name, parseRewrites_syncSnapshot] at stored
  obtain ⟨items, parsed, rows⟩ := stored
  obtain rfl := Option.some.inj parsed
  exact rows

/-- **A snapshot carries the digest over**: the replica that has applied it hashes the
category as the master did. -/
theorem syncManifest_mirrored (sha : Bytes → Str) (c : Mirrored) :
    syncManifest sha (mirrored u hash master site c) c.category =
      syncManifest sha master c.category := by
  cases c with
  | rewrites =>
      show sha (hashedText ((Str.sortBy _ _).map _)) = sha (hashedText ((Str.sortBy _ _).map _))
      rw [mirrored_rewrites, Str.sortBy_sortBy]
  | domains list =>
      show sha (hashedText (Str.sort _)) = sha (hashedText (Str.sort _))
      rw [Str.sort_congr (mirrored_domains u hash master site list)]

/-- So does it carry over that the rows are plain. -/
theorem plain_mirrored {c : Mirrored} (plain : master.Plain c) :
    (mirrored u hash master site c).Plain c := by
  cases c with
  | rewrites =>
      intro row mem
      rw [mirrored_rewrites] at mem
      exact plain row ((Str.sortBy_perm _ _).mem_iff.mp mem)
  | domains list =>
      intro domain mem
      exact plain domain ((mirrored_domains u hash master site list).mem_iff.mp mem)

end Snapshot

/-! ## The other categories

Applying a snapshot goes through one function for each category, and none of them touches another
table.  The frame is stated once, with the category as a parameter. -/

/-- The table of a category is the same. -/
def SameTable (db db' : Db) : Mirrored → Prop
  | .rewrites => db.rewrites = db'.rewrites
  | .domains list => db.domains list = db'.domains list

theorem SameTable.syncManifest {db db' : Db} {c : Mirrored} (same : SameTable db db' c)
    (sha : Bytes → Str) :
    syncManifest sha db c.category = syncManifest sha db' c.category := by
  cases c with
  | rewrites => exact congrArg (fun table : RewriteTable =>
      sha (hashedText ((Str.sortBy RewriteRow.domain table.values).map RewriteRow.line))) same
  | domains list => exact congrArg (fun table : DomainTable =>
      sha (hashedText (Str.sort table.values))) same

theorem SameTable.plain {db db' : Db} {c : Mirrored} (same : SameTable db db' c) :
    db.Plain c ↔ db'.Plain c := by
  cases c with
  | rewrites => exact iff_of_eq (congrArg (fun table : RewriteTable =>
      ∀ row ∈ table.values, row.Plain) same)
  | domains list => exact iff_of_eq (congrArg (fun table : DomainTable =>
      ∀ domain ∈ table.values, '\n' ∉ domain) same)

/-- The settings of a snapshot go into the settings. -/
theorem storeSettings_tables (weather : ApplyWeather) (members : List (Str × Json)) (db : Db) :
    ∃ settings, (storeSettings weather members db).1 = { db with settings := settings } := by
  induction members generalizing db with
  | nil => exact ⟨db.settings, rfl⟩
  | cons entry later ih =>
      obtain ⟨key, value⟩ := entry
      rw [storeSettings]
      split
      · exact ih db
      split
      · exact ih db
      split
      · exact ⟨db.settings, rfl⟩
      split
      · exact ih db
      · obtain ⟨settings, later⟩ := ih (db.setSetting key _)
        exact ⟨settings, later⟩

/-- What an apply leaves alone of the tables and the stores, for the category it is about, or for
none. -/
structure SiteFrame (category : Option SyncCategory) (before after : Site) : Prop where
  node : ∀ key ∈ skippedSettings,
    after.db.settings.lookup key = before.db.settings.lookup key
  settings : category ≠ some .settings → after.db.settings = before.db.settings
  upstreams : category ≠ some .upstreams → after.db.upstreams = before.db.upstreams
  rewrites : category ≠ some .rewrites → after.db.rewrites = before.db.rewrites
  sources : category ≠ some .sources → after.db.sources = before.db.sources
  lists : ∀ list, category ≠ some (.domains list) →
    after.db.domains list = before.db.domains list ∧ after.runtime list = before.runtime list
  provenance : after.db.sourceDomains = before.db.sourceDomains ∧
    after.db.manualDomains = before.db.manualDomains

theorem SiteFrame.refl (category : Option SyncCategory) (site : Site) :
    SiteFrame category site site :=
  ⟨fun _ _ => rfl, fun _ => rfl, fun _ => rfl, fun _ => rfl, fun _ => rfl, fun _ _ => ⟨rfl, rfl⟩,
    rfl, rfl⟩

section Apply

variable (u : CaseTables) (hash : Bytes → UInt64)

/-- A category that is one table leaves all alone, or has the table replaced. -/
theorem siteFrame_applyRows {τ ν : Type} (weather : ApplyWeather) {items : Option (List ν)}
    {insert : τ → ν → Option τ} {emptied : τ} {store : τ → Db} {site : Site}
    {category : Option SyncCategory}
    (replaced : ∀ table, SiteFrame category site { site with db := store table }) :
    SiteFrame category site (applyRows weather items insert emptied store site).site := by
  rcases applyRows_cases weather items insert emptied store site with
    ⟨rows, table, -, -, -, out⟩ | ⟨-, out⟩
  · rw [out]
    exact replaced table
  · rw [out]
    exact .refl category site

/-- **The tables and stores of the other categories stay.** -/
theorem siteFrame_applySnapshotBlocking (weather : ApplyWeather) (category : Str) (data : Json)
    (site : Site) :
    SiteFrame (SyncCategory.ofName? category) site
      (applySnapshotBlocking u hash weather category data site).site := by
  unfold applySnapshotBlocking
  cases SyncCategory.ofName? category with
  | none => exact .refl _ _
  | some known =>
    cases known with
    | settings =>
        show SiteFrame _ site (applySettings weather data site).site
        unfold applySettings
        split
        · exact .refl _ _
        next members _ =>
          obtain ⟨settings, only⟩ := storeSettings_tables weather members site.db
          have table : SiteFrame (some .settings) site
              { site with db := { site.db with settings } } :=
            { SiteFrame.refl (some SyncCategory.settings) site with
              node := fun key skipped => by
                rw [← only]
                exact lookup_storeSettings_of_skipped skipped
              settings := fun other => absurd rfl other }
          rw [← only] at table
          exact table
    | upstreams =>
        refine siteFrame_applyRows weather fun table => ?_
        exact { SiteFrame.refl (some SyncCategory.upstreams) site with
          upstreams := fun other => absurd rfl other }
    | rewrites =>
        refine siteFrame_applyRows weather fun table => ?_
        exact { SiteFrame.refl (some SyncCategory.rewrites) site with
          rewrites := fun other => absurd rfl other }
    | sources =>
        refine siteFrame_applyRows weather fun table => ?_
        exact { SiteFrame.refl (some SyncCategory.sources) site with
          sources := fun other => absurd rfl other }
    | domains list =>
        have table : SiteFrame (some (.domains list)) site
            (applyRows weather (parseDomains data)
              (fun table domain => some (table.insertOrIgnore domain))
              (site.db.domains list).deleteAll (site.db.setDomains list) site).site := by
          refine siteFrame_applyRows weather fun table => ?_
          refine { SiteFrame.refl (some (SyncCategory.domains list)) site with
            lists := fun other apart => ⟨?_, rfl⟩ }
          refine Db.setDomains_domains_of_ne (fun same => apart ?_) table
          rw [same]
        show SiteFrame _ site (applyDomains u hash weather list data site).site
        unfold applyDomains
        simp only
        -- a commit installs the store of the list too
        split
        · refine { table with lists := fun other apart => ⟨(table.lists other apart).1, ?_⟩ }
          rw [← (table.lists other apart).2]
          refine Function.update_of_ne (fun same => apart ?_) _ _
          rw [same]
        · exact table

/-- **Applying a snapshot leaves the tables of the other categories alone**, whatever
the payload and whatever fails. -/
theorem applySnapshot_frame (weather : ApplyWeather) {category : Str} (data : Json)
    (site : Site) {c : Mirrored} (other : category ≠ c.category.name) :
    SameTable (applySnapshotBlocking u hash weather category data site).site.db site.db c := by
  have frame := siteFrame_applySnapshotBlocking u hash weather category data site
  have apart : SyncCategory.ofName? category ≠ some c.category :=
    fun known => other (SyncCategory.name_of_ofName? known)
  cases c with
  | rewrites => exact frame.rewrites apart
  | domains list => exact (frame.lists list apart).1

end Apply

end RustBlocker
