import RustBlocker.Credentials
import RustBlocker.Forwarder
import RustBlocker.Mirroring
import RustBlocker.Rewrites

/-!
# What a snapshot may touch

`applySnapshot` is `apply_snapshot_blocking` with everything it is given: the database, the two
stores, the rewrite map and the forwarder, and the reloads that follow a commit.

* **A category** is a table and what runs from it.  A snapshot touches those of its category only,
  and the settings it stores are never those of the node.
* **A payload** that is not of the category's type changes nothing, nor does a category that is
  not known.
* **The forwarder** runs from two categories: its addresses are the upstreams, and its timeout,
  strategy and hedge delay are settings.  A snapshot of the settings builds it anew from both
  tables.

`applySnapshot_snapshotFrame` is the frame as a whole.

A frame is a list of what stays, and the fields of `SnapshotFrame` are such a list: for every
table, store and running part, the categories whose snapshot may change it.  It is proved for any
payload and any failures, also for those in the middle of a snapshot of settings, of which some
are then stored and some are not.

The forwarder is the one place where the frame is wider than the tables suggest, and the field
`reloaded` says how much wider: what a snapshot of the settings makes of it is what a reload from
the database would.
-/

namespace RustBlocker

/-- What a snapshot is applied to: the database and everything that runs from it. -/
structure SyncedNode where
  db : Db := {}
  lists : DomainList → DomainStore := fun _ => .default
  rewrites : RewriteMap := {}
  forwarder : ParallelForwarder := {}

/-- What an apply meets, and what its reads afterwards meet. -/
structure NodeWeather extends ApplyWeather where
  /-- Which settings can be read. -/
  reads : Str → Bool := fun _ => true
  upstreamsRead : Bool := true

/-- A row as the forwarder is given it. -/
def UpstreamRow.config (row : UpstreamRow) : UpstreamConfig where
  address := row.address
  port := some row.port

/-- A forwarder reloaded with upstreams and with the settings of the database. -/
def reloadWith (weather : NodeWeather) (db : Db) (upstreams : List UpstreamRow)
    (forwarder : ParallelForwarder) : ParallelForwarder :=
  let setting (key : Str) : Option Str := db.getSetting (weather.reads key) key
  let number (key : Str) (otherwise : Nat) : Nat :=
    (((setting key).bind Str.parseU64).map UInt64.toNat).getD otherwise
  let strategy := ((setting "forward_strategy".toList).bind ForwardStrategy.parse).getD .adaptive
  forwarder.reload (upstreams.map UpstreamRow.config) (number "upstream_timeout_secs".toList 5)
    strategy (number "adaptive_hedge_delay_ms".toList defaultHedgeDelayMs)

/-- `reload_forwarder_from_db` -/
def reloadForwarderFromDb (weather : NodeWeather) (db : Db) (forwarder : ParallelForwarder) :
    ParallelForwarder :=
  reloadWith weather db (if weather.upstreamsRead then db.upstreams.values else []) forwarder

/-- A `set_setting` of the loop panics. -/
def settingsPanic (weather : NodeWeather) (members : List (Str × Json)) : Bool :=
  members.any fun entry =>
    entry.1 ∉ skippedSettings && entry.2.asString.isSome && weather.panics (.setSetting entry.1)

section Apply

variable (u : CaseTables) (hash : Bytes → UInt64)

/-- `apply_snapshot_blocking` -/
def applySnapshot (weather : NodeWeather) (category : Str) (data : Json) (node : SyncedNode) :
    SyncedNode :=
  let out := applySnapshotBlocking u hash weather.toApplyWeather category data
    { db := node.db, runtime := node.lists }
  let written := { node with db := out.site.db, lists := out.site.runtime }
  -- what follows the commit
  let reloads := out.committed && !weather.panics .install
  match SyncCategory.ofName? category with
  | some .settings =>
      match data.asObject with
      | some members =>
          if settingsPanic weather members then written
          else
            { written with
              forwarder := reloadForwarderFromDb weather written.db node.forwarder }
      | none => written
  | some .upstreams =>
      if reloads then
        { written with
          forwarder :=
            reloadWith weather written.db ((parseUpstreams data).getD []) node.forwarder }
      else written
  | some .rewrites =>
      if reloads then
        { written with rewrites := RewriteMap.load u ((parseRewrites data).getD []) }
      else written
  | _ => written

end Apply

/-- The payload is of the category's type. -/
def Deserializes (category : SyncCategory) (data : Json) : Prop :=
  match category with
  | .settings => data.asObject.isSome
  | .upstreams => (parseUpstreams data).isSome
  | .rewrites => (parseRewrites data).isSome
  | .sources => (parseSources data).isSome
  | .domains _ => (parseDomains data).isSome

/-! ## The frame

The importers first, each with its own table, then what is rebuilt after the commit.  The two
together are the frame. -/

section Frame

variable (u : CaseTables) (hash : Bytes → UInt64)

/-- A payload that is not of the type of the table leaves all alone. -/
theorem applyRows_none {τ ν : Type} (weather : ApplyWeather) {items : Option (List ν)}
    (insert : τ → ν → Option τ) (emptied : τ) (store : τ → Db) (site : Site)
    (refused : items = none) :
    applyRows weather items insert emptied store site = { site, committed := false } := by
  rw [refused]
  rfl

/-- **A payload of another type changes neither tables nor stores.** -/
theorem applySnapshotBlocking_refused (weather : ApplyWeather) (category : Str) (data : Json)
    (site : Site)
    (refused : ∀ known, SyncCategory.ofName? category = some known → ¬ Deserializes known data) :
    applySnapshotBlocking u hash weather category data site = { site, committed := false } := by
  unfold applySnapshotBlocking
  cases known : SyncCategory.ofName? category with
  | none => rfl
  | some known' =>
    have other := refused known' known
    cases known' with
    | settings =>
        have refuses : data.asObject = none := by simpa [Deserializes] using other
        show applySettings weather data site = _
        rw [applySettings, refuses]
    | upstreams =>
        have refuses : parseUpstreams data = none := by simpa [Deserializes] using other
        exact applyRows_none weather _ _ _ site (by rw [refuses]; rfl)
    | rewrites =>
        have refuses : parseRewrites data = none := by simpa [Deserializes] using other
        exact applyRows_none weather _ _ _ site refuses
    | sources =>
        have refuses : parseSources data = none := by simpa [Deserializes] using other
        exact applyRows_none weather _ _ _ site refuses
    | domains list =>
        have refuses : parseDomains data = none := by simpa [Deserializes] using other
        show applyDomains u hash weather list data site = _
        unfold applyDomains
        rw [applyRows_none weather _ _ _ site refuses]
        rfl

end Frame

/-- What applying a snapshot of a category leaves alone, and what it may do to the
forwarder. -/
structure SnapshotFrame (weather : NodeWeather) (category : Str) (data : Json)
    (before after : SyncedNode) : Prop where
  /-- The settings of the node. -/
  node : ∀ key ∈ skippedSettings,
    after.db.settings.lookup key = before.db.settings.lookup key
  settings : category ≠ SyncCategory.settings.name → after.db.settings = before.db.settings
  upstreams : category ≠ SyncCategory.upstreams.name → after.db.upstreams = before.db.upstreams
  rewrites : category ≠ SyncCategory.rewrites.name →
    after.db.rewrites = before.db.rewrites ∧ after.rewrites = before.rewrites
  sources : category ≠ SyncCategory.sources.name → after.db.sources = before.db.sources
  lists : ∀ list, category ≠ (SyncCategory.domains list).name →
    after.db.domains list = before.db.domains list ∧ after.lists list = before.lists list
  /-- The tables that belong to no category. -/
  provenance : after.db.sourceDomains = before.db.sourceDomains ∧
    after.db.manualDomains = before.db.manualDomains
  forwarder : category ≠ SyncCategory.upstreams.name → category ≠ SyncCategory.settings.name →
    after.forwarder = before.forwarder
  /-- With the settings the forwarder is built from the tables. -/
  reloaded : category = SyncCategory.settings.name →
    after.forwarder = before.forwarder ∨
      after.forwarder = reloadForwarderFromDb weather after.db before.forwarder
  /-- A payload of another type changes nothing, nor does a category that is not known. -/
  refused : (∀ known, SyncCategory.ofName? category = some known → ¬ Deserializes known data) →
    after = before

section Snapshot

variable (u : CaseTables) (hash : Bytes → UInt64) (weather : NodeWeather) (category : Str)
  (data : Json) (node : SyncedNode)

/-- What an apply does to the tables and the stores is what the blocking task did. -/
theorem applySnapshot_site :
    (applySnapshot u hash weather category data node).db =
        (applySnapshotBlocking u hash weather.toApplyWeather category data
          { db := node.db, runtime := node.lists }).site.db ∧
      (applySnapshot u hash weather category data node).lists =
        (applySnapshotBlocking u hash weather.toApplyWeather category data
          { db := node.db, runtime := node.lists }).site.runtime := by
  unfold applySnapshot
  simp only
  split
  · split
    · split <;> exact ⟨rfl, rfl⟩
    · exact ⟨rfl, rfl⟩
  · split <;> exact ⟨rfl, rfl⟩
  · split <;> exact ⟨rfl, rfl⟩
  · exact ⟨rfl, rfl⟩

/-- The rewrite map changes with the rewrites only. -/
theorem applySnapshot_rewrites (other : SyncCategory.ofName? category ≠ some .rewrites) :
    (applySnapshot u hash weather category data node).rewrites = node.rewrites := by
  unfold applySnapshot
  simp only
  split
  · split
    · split <;> rfl
    · rfl
  · split <;> rfl
  next known => exact absurd known other
  · rfl

/-- The forwarder changes with the upstreams and the settings only. -/
theorem applySnapshot_forwarder (upstreams : SyncCategory.ofName? category ≠ some .upstreams) :
    (applySnapshot u hash weather category data node).forwarder = node.forwarder ∨
      SyncCategory.ofName? category = some .settings ∧
        (applySnapshot u hash weather category data node).forwarder =
          reloadForwarderFromDb weather (applySnapshot u hash weather category data node).db
            node.forwarder := by
  unfold applySnapshot
  simp only
  split
  next known =>
    split
    · split
      · exact Or.inl rfl
      · exact Or.inr ⟨known, rfl⟩
    · exact Or.inl rfl
  next known => exact absurd known upstreams
  · split <;> exact Or.inl rfl
  · exact Or.inl rfl

/-- **A snapshot touches its category only**, whatever the category, the payload and the
failures, but for the forwarder, which runs from the settings too. -/
theorem applySnapshot_snapshotFrame :
    SnapshotFrame weather category data node
      (applySnapshot u hash weather category data node) := by
  have site := siteFrame_applySnapshotBlocking u hash weather.toApplyWeather
    category data { db := node.db, runtime := node.lists }
  obtain ⟨db, lists⟩ := applySnapshot_site u hash weather category data node
  have apart : ∀ known : SyncCategory, category ≠ known.name →
      SyncCategory.ofName? category ≠ some known :=
    fun known other same => other (SyncCategory.name_of_ofName? same)
  refine
    { node := ?_
      settings := fun other => ?_
      upstreams := fun other => ?_
      rewrites := fun other => ⟨?_, applySnapshot_rewrites _ _ _ _ _ _ (apart _ other)⟩
      sources := fun other => ?_
      lists := fun list other => ?_
      provenance := ?_
      forwarder := fun upstreams settings => ?_
      reloaded := fun named => ?_
      refused := fun refused => ?_ }
  · rw [db]
    exact site.node
  · rw [db]
    exact site.settings (apart _ other)
  · rw [db]
    exact site.upstreams (apart _ other)
  · rw [db]
    exact site.rewrites (apart _ other)
  · rw [db]
    exact site.sources (apart _ other)
  · rw [db, lists]
    exact site.lists list (apart _ other)
  · rw [db]
    exact site.provenance
  · rcases applySnapshot_forwarder u hash weather category data node (apart _ upstreams) with
      same | ⟨known, -⟩
    · exact same
    · exact absurd known (apart _ settings)
  · have known : SyncCategory.ofName? category ≠ some .upstreams := by
      rw [named]
      decide
    rcases applySnapshot_forwarder u hash weather category data node known with same | ⟨-, reloaded⟩
    · exact Or.inl same
    · exact Or.inr reloaded
  · have blocking := applySnapshotBlocking_refused u hash weather.toApplyWeather
      category data { db := node.db, runtime := node.lists } refused
    have nothing : { node with db := node.db, lists := node.lists } = node := rfl
    unfold applySnapshot
    simp only [blocking]
    split
    next known =>
      have refuses : data.asObject = none := by simpa [Deserializes] using refused _ known
      rw [refuses]
    · rfl
    · rfl
    · rfl

end Snapshot

/-! ## A snapshot of no setting -/

/-- A node that runs the upstream of its table, which has failed. -/
def failingNode : SyncedNode where
  db :=
    { upstreams := (SqlTable.empty.insertOrIgnore { address := "192.0.2.1".toList, port := 53 }) }
  forwarder := { clients := [(.v4 0xC0000201#32, 53)], health := [{ failures := 3 }] }

/-- **A snapshot of the settings reaches what runs from the upstreams**: it stores nothing
here, but the forwarder is built anew and has forgotten the failures of its upstream. -/
theorem not_untouched_settings :
    let after := applySnapshot .ascii (fun _ => 0) {} SyncCategory.settings.name (.object [])
      failingNode
    after.db = failingNode.db ∧
      failingNode.forwarder.health = [{ failures := 3 }] ∧
      after.forwarder.health = [{ failures := 0 }] := by
  refine ⟨rfl, rfl, ?_⟩
  decide +kernel

end RustBlocker
