import RustBlocker.SyncApply

/-!
# The manifest and the snapshots of a master

`sync_manifest` gives each category a digest of its rows, written out as lines and sorted;
`sync_snapshot` gives the rows as JSON.  A replica compares digests and fetches the snapshots of
the categories that differ.

* **The digest** is a parameter, from bytes to hexadecimal text.
* **The lines** of a list are its domains.  The line of a rewrite joins its columns by `|`,
  without escaping, and writes a missing address as the empty text.
* **The columns of a snapshot** are those of the table, the id included; a replica reads the ones
  it stores.

The rows are sorted before they are hashed, by their texts or by some of their columns, so that a
digest does not depend on the order in which the engine returns them.

What is hashed and what is exported are two lists of columns for each category, and they need not
be the same.  The modules on top of this one ask, each for its own purpose, what follows from a
column that is in one and not in the other.
-/

namespace RustBlocker

namespace SyncCategory

/-- The name of a category. -/
def name : SyncCategory → Str
  | settings => "settings".toList
  | upstreams => "upstreams".toList
  | rewrites => "rewrites".toList
  | sources => "sources".toList
  | domains .blocklist => "blocklist".toList
  | domains .allowlist => "allowlist".toList

/-- The categories in the order in which `sync_manifest` reads them. -/
def all : List SyncCategory :=
  [settings, upstreams, rewrites, sources, domains .blocklist, domains .allowlist]

@[simp] theorem ofName?_name (c : SyncCategory) : ofName? c.name = some c := by
  rcases c with _ | _ | _ | _ | _ | _ <;> decide

/-- A known name is the name of one category. -/
theorem name_of_ofName? {name : Str} {c : SyncCategory} (known : ofName? name = some c) :
    name = c.name := by
  unfold ofName? at known
  repeat' split at known
  all_goals first
    | cases known
      assumption
    | cases known

end SyncCategory

/-! ## The manifest -/

/-- The settings that are not in the manifest. -/
def unhashedSettings : List Str := ["admin_password_hash".toList, "session_secret".toList]

/-- `ORDER BY address, port` -/
def UpstreamRow.Before (a b : UpstreamRow) : Prop :=
  if a.address = b.address then a.port ≤ b.port else Str.Before a.address b.address

instance : DecidableRel UpstreamRow.Before := fun a b => by
  unfold UpstreamRow.Before
  infer_instance

/-- `{}` of an `i64`. -/
def signedDecimal (n : Int) : Str := (toString n).toList

/-- `{domain}|{ipv4}|{ipv6}`; a missing address is the empty text. -/
def RewriteRow.line (row : RewriteRow) : Str :=
  row.domain ++ '|' :: (row.ipv4.getD [] ++ '|' :: row.ipv6.getD [])

/-- `{url}|{list_type}|{enabled}|{update_interval_hours}` -/
def SourceRow.line (row : SourceRow) : Str :=
  row.url ++ '|' :: (row.listType ++ '|' ::
    (signedDecimal row.enabled ++ '|' :: signedDecimal row.updateIntervalHours))

/-- The lines `sync_manifest` hashes for a category. -/
def Db.hashedLines (db : Db) : SyncCategory → List Str
  | .settings =>
      (Str.sortBy Sigma.fst
        (db.settings.entries.filter fun entry => !unhashedSettings.contains entry.1)).map
        fun entry => entry.1 ++ '=' :: entry.2
  | .upstreams =>
      (db.upstreams.values.insertionSort UpstreamRow.Before).map
        fun row => row.address ++ ':' :: decimal row.port
  | .rewrites => (Str.sortBy RewriteRow.domain db.rewrites.values).map RewriteRow.line
  | .sources => (Str.sortBy SourceRow.url db.sources.values).map SourceRow.line
  | .domains list => Str.sort (db.domains list).values

/-- The bytes that are hashed: each line with its line feed. -/
def hashedText (lines : List Str) : Bytes := lines.flatMap fun line => line.utf8 ++ [10]

/-- The entry of a category in `sync_manifest`. -/
def syncManifest (sha : Bytes → Str) (db : Db) (c : SyncCategory) : Str :=
  sha (hashedText (db.hashedLines c))

/-! ## The snapshots -/

/-- The object of a `DbUpstream`. -/
def UpstreamRow.json (row : Nat × UpstreamRow) : Json :=
  .object [("id".toList, .int row.1), ("address".toList, .string row.2.address),
    ("port".toList, .int row.2.port)]

/-- The object of a `DbRewrite`. -/
def RewriteRow.json (row : Nat × RewriteRow) : Json :=
  .object [("id".toList, .int row.1), ("domain".toList, .string row.2.domain),
    ("ipv4".toList, Json.ofText? row.2.ipv4), ("ipv6".toList, Json.ofText? row.2.ipv6)]

/-- The object of a `DbSource`. -/
def DbSource.json (source : DbSource) : Json :=
  .object [("id".toList, .int source.id), ("url".toList, .string source.url),
    ("list_type".toList, .string source.listType), ("enabled".toList, .bool source.enabled),
    ("update_interval_hours".toList, .int source.updateIntervalHours),
    ("last_updated".toList, Json.ofText? source.lastUpdated),
    ("last_status".toList, Json.ofText? source.lastStatus)]

/-- The settings `get_settings` leaves out. -/
def hiddenSettings : List Str :=
  ["admin_password_hash".toList, "session_secret".toList, "sync_password".toList]

/-- `get_settings`. -/
def Db.getSettings (db : Db) : Json :=
  .object ((db.settings.entries.filter fun entry =>
      !hiddenSettings.contains entry.1).map fun entry =>
    (entry.1, .string
      (if entry.1 = "cloudflare_api_token".toList then "***masked***".toList else entry.2)))

/-- `sync_snapshot` of a known category. -/
def syncSnapshot (db : Db) : SyncCategory → Json
  | .settings => db.getSettings
  | .upstreams => .array (db.upstreams.rows.map UpstreamRow.json)
  | .rewrites =>
      .array ((Str.sortBy (fun row => row.2.domain) db.rewrites.rows).map RewriteRow.json)
  | .sources => .array (db.getSources.map DbSource.json)
  | .domains list => .array ((Str.sort (db.domains list).values).map Json.string)

end RustBlocker
