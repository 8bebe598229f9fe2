import RustBlocker.Api
import RustBlocker.SocketAddr
import RustBlocker.SyncFrame

/-!
# The start of the server

`run_server` up to the sockets: it seeds the defaults, reads the settings, and makes of them what
the server runs from.

* **Seeding** writes a default where there is no value, one statement after the other.
* **A setting** that is missing reads as the empty text.  Most settings have a value for a text
  that does not parse; an address, the networks and an upstream that do not parse end the start.
* **The lists and the rewrites**, which are loaded in between, are those of the modules on
  loading.

`getSettingString_eq` says what a setting reads as.

The flags of the command line come before the settings, and each of them overrides one.  The
result is a value, `ServerConfig`, or the error with which the process ends; what is bound to the
sockets later is taken from there.

Each field of the configuration is a function of the settings with a name of its own.  The modules
that compare a running server with the next start use these functions, one by one, and so need not
know in which order the start reads.
-/

namespace RustBlocker

/-! ## Seeding

Defaults are written where there is no value, and an upstream where there is none. -/

/-- The settings of `seed_defaults`. -/
def defaultSettings : List (Str × Str) :=
  [("listen_address".toList, "0.0.0.0".toList),
    ("listen_port".toList, "53".toList),
    ("sinkhole_ipv4".toList, "0.0.0.0".toList),
    ("sinkhole_ipv6".toList, "::".toList),
    ("block_response_mode".toList, "nxdomain".toList),
    ("log_level".toList, "info".toList),
    ("upstream_timeout_secs".toList, "5".toList),
    ("forward_strategy".toList, "adaptive".toList),
    ("adaptive_hedge_delay_ms".toList, "75".toList),
    ("allowed_networks".toList, []),
    ("stats_retention_days".toList, "30".toList)]

/-- The calls of `seed_defaults`. -/
inductive SeedCall where
  | connection
  | setting (key : Str)
  | count
  | upstream
deriving DecidableEq

namespace Db

/-- `INSERT OR IGNORE INTO settings` -/
def seedSetting (db : Db) (key value : Str) : Db :=
  if (db.settings.lookup key).isSome then db else db.setSetting key value

/-- The loop of `seed_defaults`. -/
def seedSettings (fails : Plan SeedCall) : List (Str × Str) → Db → Except DbError Unit × Db
  | [], db => (.ok (), db)
  | (key, value) :: later, db =>
      match fails.attempt (.setting key) DbError.sql with
      | .error error => (.error error, db)
      | .ok () => seedSettings fails later (db.seedSetting key value)

/-- The upstream of `seed_defaults`, where there is none or where they cannot be counted. -/
def seedUpstream (fails : Plan SeedCall) (db : Db) : Except DbError Unit × Db :=
  let upstreamCount := if (fails .count).isSome then 0 else db.upstreams.values.length
  if upstreamCount = 0 then
    match fails.attempt .upstream DbError.sql,
        insertUpstream db.upstreams { address := "8.8.8.8".toList, port := 53 } with
    | .error error, _ => (.error error, db)
    | .ok (), some upstreams => (.ok (), { db with upstreams })
    | .ok (), none => (.error (.sql "CHECK constraint failed".toList), db)
  else (.ok (), db)

/-- `seed_defaults`: its statements are committed one by one. -/
def seedDefaults (fails : Plan SeedCall) (db : Db) : Except DbError Unit × Db :=
  match fails.attempt .connection DbError.pool with
  | .error error => (.error error, db)
  | .ok () =>
      match seedSettings fails defaultSettings db with
      | (.error error, db) => (.error error, db)
      | (.ok (), db) => seedUpstream fails db

end Db

/-! ## What the server runs from

One function for each field of the configuration, and the start, which ends with the first of them
that fails. -/

/-- `get_setting_string` -/
def getSettingString (settings : Json) (key : Str) : Str :=
  (((settings.asObject.getD []).lookup key).bind Json.asString).getD []

/-- `str::parse::<u16>` -/
def Str.parseU16 (s : Str) : Option Nat :=
  ((parseU64 s).filter fun n => n < 65536).map UInt64.toNat

/-- The flags that override settings. -/
structure Cli where
  dnsPort : Option Nat := none
  webPort : Option Nat := none

/-- What the server runs from.  Most of it can be changed while the server runs. -/
structure ServerConfig (Net : Type) where
  listenAddr : SocketAddr
  webAddr : SocketAddr
  acl : Acl Net
  forwarder : ParallelForwarder
  retentionDays : UInt64
  sinkholeIpv4 : Ipv4Addr
  sinkholeIpv6 : Ipv6Addr
  blockResponseMode : BlockResponseMode

/-- What a start meets. -/
structure StartWeather where
  seed : Plan SeedCall := .clear
  settings : Plan StatementCall := .clear
  upstreams : Plan StatementCall := .clear

/-- An error under the text of its context. -/
def context {ε α : Type} (text : Str) : Except ε α → Except Str α
  | .ok a => .ok a
  | .error _ => .error text

theorem context_bind_eq_ok {ε α β : Type} {text : Str} {result : Except ε α}
    {f : α → Except Str β} {b : β} :
    (context text result >>= f) = .ok b ↔ ∃ a, result = .ok a ∧ f a = .ok b := by
  rcases result with error | a
  · refine ⟨fun impossible => (by cases impossible), ?_⟩
    rintro ⟨a, impossible, -⟩
    cases impossible
  · refine ⟨fun same => ⟨a, rfl, same⟩, ?_⟩
    rintro ⟨a', here, same⟩
    rw [← Except.ok.inj here] at same
    exact same

/-- A parse, as a result under a context. -/
theorem elim_eq_ok {α : Type} {parsed : Option α} {a : α} :
    parsed.elim (.error ()) .ok = (.ok a : Except Unit α) ↔ parsed = some a := by
  rcases parsed with _ | a'
  · exact ⟨fun impossible => (by cases impossible), fun impossible => (by cases impossible)⟩
  · exact ⟨fun same => congrArg some (Except.ok.inj same),
      fun same => congrArg Except.ok (Option.some.inj same)⟩

section Values

variable {Net : Type} (nets : IpNets Net) (cli : Cli) (settings : Json)

def startDnsPort : Nat :=
  cli.dnsPort.getD ((Str.parseU16 (getSettingString settings "listen_port".toList)).getD 53)

/-- The port after the one of the DNS server, as far as there is one. -/
def startWebPort : Nat := cli.webPort.getD (min (startDnsPort cli settings + 1) 65535)

/-- `format!("{}:{}")`, read as a socket address. -/
def startSocketAddr (port : Nat) : Option SocketAddr :=
  SocketAddr.parse (getSettingString settings "listen_address".toList ++ ':' :: decimal port)

def startAcl : Except Str (Acl Net) :=
  Acl.parse nets (getSettingString settings "allowed_networks".toList)

def startNumber (key : Str) (otherwise : UInt64) : UInt64 :=
  (Str.parseU64 (getSettingString settings key)).getD otherwise

def startStrategy : ForwardStrategy :=
  (ForwardStrategy.parse (getSettingString settings "forward_strategy".toList)).getD .adaptive

def startRetentionDays : UInt64 := startNumber settings "stats_retention_days".toList 30

def startSinkholeIpv4 : Ipv4Addr :=
  (IpAddr.parseIpv4 (getSettingString settings "sinkhole_ipv4".toList)).getD 0

def startSinkholeIpv6 : Ipv6Addr :=
  (IpAddr.parseIpv6 (getSettingString settings "sinkhole_ipv6".toList)).getD 0

def startBlockResponseMode : BlockResponseMode :=
  (BlockResponseMode.parse (getSettingString settings "block_response_mode".toList)).getD .nxDomain

end Values

/-- What `run_server` makes of the settings and the upstreams it has read. -/
def startConfig {Net : Type} (nets : IpNets Net) (cli : Cli) (settings : Json)
    (upstreams : Except DbError (List UpstreamRow)) : Except Str (ServerConfig Net) := do
  let listenAddr ← context "Invalid listen address".toList
    ((startSocketAddr settings (startDnsPort cli settings)).elim (.error ()) .ok)
  let acl ← context "Invalid allowed_networks setting".toList (startAcl nets settings)
  let upstreams ← context "Failed to load upstreams".toList upstreams
  let forwarder ← context "Failed to create upstream forwarder".toList
    (ParallelForwarder.newWithOptions (upstreams.map UpstreamRow.config)
      (startNumber settings "upstream_timeout_secs".toList 5).toNat (startStrategy settings)
      (startNumber settings "adaptive_hedge_delay_ms".toList
        (UInt64.ofNat defaultHedgeDelayMs)).toNat)
  let webAddr ← context "invalid socket address syntax".toList
    ((startSocketAddr settings (startWebPort cli settings)).elim (.error ()) .ok)
  return { listenAddr, webAddr, acl, forwarder
           retentionDays := startRetentionDays settings
           sinkholeIpv4 := startSinkholeIpv4 settings
           sinkholeIpv6 := startSinkholeIpv6 settings
           blockResponseMode := startBlockResponseMode settings }

/-- `run_server` as far as its configuration, with the database it has seeded.  An error is
fatal. -/
def runServer {Net : Type} (nets : IpNets Net) (weather : StartWeather) (cli : Cli) (db : Db) :
    Except Str (ServerConfig Net) × Db :=
  match db.seedDefaults weather.seed with
  | (.error _, db) => (.error "Failed to seed defaults".toList, db)
  | (.ok (), db) =>
      match oneStatement weather.settings with
      | .error _ => (.error "Failed to load settings".toList, db)
      | .ok () =>
          (startConfig nets cli db.getSettings
            ((oneStatement weather.upstreams).map fun _ => db.upstreams.values), db)

/-- A start that has seeded the defaults and read the settings. -/
theorem runServer_of_seeded {Net : Type} (nets : IpNets Net) (weather : StartWeather) (cli : Cli)
    {db seeded : Db} (seeds : db.seedDefaults weather.seed = (.ok (), seeded))
    (reads : oneStatement weather.settings = .ok ()) :
    runServer nets weather cli db =
      (startConfig nets cli seeded.getSettings
        ((oneStatement weather.upstreams).map fun _ => seeded.upstreams.values), seeded) := by
  unfold runServer
  simp only [seeds, reads]

/-! ## Settings as they read -/

/-- A setting that is shown reads as it is stored, and one that is missing as nothing. -/
theorem getSettingString_eq (db : Db) {key : Str} (shown : key ∉ hiddenSettings)
    (plain : key ≠ "cloudflare_api_token".toList) :
    getSettingString db.getSettings key = (db.settings.lookup key).getD [] := by
  have entries : ∀ rows : List (Sigma fun _ : Str => Str),
      ((rows.filter fun entry => !hiddenSettings.contains entry.1).map fun entry =>
        (entry.1, Json.string (if entry.1 = "cloudflare_api_token".toList then
          "***masked***".toList else entry.2))).lookup key =
        (rows.dlookup key).map Json.string := by
    intro rows
    induction rows with
    | nil => rfl
    | cons entry rest ih =>
        obtain ⟨key', value⟩ := entry
        by_cases same : key' = key
        · subst same
          have kept : (!hiddenSettings.contains key') = true := by simpa using shown
          rw [List.filter_cons, if_pos kept, List.map_cons, List.lookup_cons_self,
            List.dlookup_cons_eq, if_neg plain]
          rfl
        · rw [List.dlookup_cons_ne _ _ (fun here => same here.symm), ← ih, List.filter_cons]
          split
          · rw [List.map_cons, List.lookup_cons]
            have other : (key == key') = false := by simpa using fun here => same here.symm
            simp only [other]
          · rfl
  unfold getSettingString
  have members : db.getSettings.asObject.getD [] =
      (db.settings.entries.filter fun entry => !hiddenSettings.contains entry.1).map fun entry =>
        (entry.1, Json.string (if entry.1 = "cloudflare_api_token".toList then
          "***masked***".toList else entry.2)) := rfl
  rw [members, entries]
  show ((Option.map Json.string (db.settings.lookup key)).bind Json.asString).getD [] = _
  rcases db.settings.lookup key with _ | value <;> rfl

/-! ## Settings that are seeded

Seeding overwrites nothing and writes nothing but the defaults.  What was accepted by a request is
therefore what the next start reads. -/

namespace Db

/-- A setting that has a value keeps it. -/
theorem lookup_seedSettings_of_isSome {fails : Plan SeedCall} {defaults : List (Str × Str)}
    {db : Db} {key value : Str} (stored : db.settings.lookup key = some value) :
    (seedSettings fails defaults db).2.settings.lookup key = some value := by
  induction defaults generalizing db with
  | nil => exact stored
  | cons entry later ih =>
      obtain ⟨key', value'⟩ := entry
      unfold seedSettings
      split
      · exact stored
      · refine ih ?_
        unfold seedSetting
        split
        · exact stored
        next missing =>
          have other : key ≠ key' := by
            rintro rfl
            exact missing (by rw [stored]; rfl)
          show (db.settings.insert key' value').lookup key = _
          rw [AList.lookup_insert_ne other]
          exact stored

/-- A setting without a default is left alone. -/
theorem lookup_seedSettings_of_not_mem {fails : Plan SeedCall} {defaults : List (Str × Str)}
    {key : Str} (absent : key ∉ defaults.map Prod.fst) (db : Db) :
    (seedSettings fails defaults db).2.settings.lookup key = db.settings.lookup key := by
  induction defaults generalizing db with
  | nil => rfl
  | cons entry later ih =>
      obtain ⟨key', value'⟩ := entry
      rw [List.map_cons, List.mem_cons, not_or] at absent
      unfold seedSettings
      split
      · rfl
      · rw [ih absent.2]
        unfold seedSetting
        split
        · rfl
        · exact AList.lookup_insert_ne absent.1

theorem settings_seedUpstream (fails : Plan SeedCall) (db : Db) :
    (db.seedUpstream fails).2.settings = db.settings := by
  unfold seedUpstream
  extract_lets upstreamCount
  by_cases zero : upstreamCount = 0
  · rw [if_pos zero]
    split <;> rfl
  · rw [if_neg zero]

theorem settings_seedDefaults (fails : Plan SeedCall) (db : Db) :
    (db.seedDefaults fails).2.settings = db.settings ∨
      (db.seedDefaults fails).2.settings = (seedSettings fails defaultSettings db).2.settings := by
  unfold seedDefaults
  split
  · exact Or.inl rfl
  · right
    split
    next seeded => rw [seeded]
    next seeded => rw [seeded, settings_seedUpstream]

/-- **Seeding overwrites nothing.** -/
theorem lookup_seedDefaults_of_isSome {fails : Plan SeedCall} {db : Db} {key value : Str}
    (stored : db.settings.lookup key = some value) :
    (db.seedDefaults fails).2.settings.lookup key = some value := by
  rcases settings_seedDefaults fails db with same | same
  · rw [same]
    exact stored
  · rw [same]
    exact lookup_seedSettings_of_isSome stored

/-- Seeding writes nothing but the defaults. -/
theorem lookup_seedDefaults_of_not_mem {fails : Plan SeedCall} {key : Str}
    (absent : key ∉ defaultSettings.map Prod.fst) (db : Db) :
    (db.seedDefaults fails).2.settings.lookup key = db.settings.lookup key := by
  rcases settings_seedDefaults fails db with same | same
  · rw [same]
  · rw [same]
    exact lookup_seedSettings_of_not_mem absent db

end Db

end RustBlocker
