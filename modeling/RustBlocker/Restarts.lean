import RustBlocker.CredentialWrites
import RustBlocker.Startup
import RustBlocker.Upstreams

/-!
# Accepted settings and the next start

`update_setting` reads an address, a port and the networks as single values, and restarts the
process after the first two.  The start reads the address with the port behind it, and takes the
port after the given one for the web server.

* **An IPv6 address** is accepted, but with a port behind it and without brackets it is no socket
  address.
* **The last port** has none after it; the sum saturates, and both servers ask for it.
* **The networks** are read by the same parser on both sides.

`boots_iff` says which values of the settings let the server start.

A run begins with a database that was seeded and goes through requests that are answered `200`, in
any number and for any keys; what is stored at the end is, for each key, the value of the last
such request or the default.  No request of the run reaches the flags of the command line, and the
start is one without flags.

Whether the sockets can be bound is up to the host.  A server boots, here, if its configuration
can be made and its two servers have a port each; a port that is taken by another program is no
matter of the settings.
-/

namespace RustBlocker

/-! ## What a start needs

A start is reduced to four texts of the database, the address, the port, the networks and the
upstreams, and then to what the parsers make of them. -/

section Start

variable {Net : Type} (nets : IpNets Net)

/-- The server starts from the database, and its two servers have a port each.  That no other
program has these ports is not part of it. -/
def Boots (db : Db) : Prop :=
  ∃ config, (runServer nets {} {} db).1 = .ok config ∧
    config.listenAddr.port ≠ config.webAddr.port

theorem seedSettings_clear (defaults : List (Str × Str)) (db : Db) :
    (Db.seedSettings .clear defaults db).1 = .ok () ∧
      (Db.seedSettings .clear defaults db).2.upstreams = db.upstreams := by
  induction defaults generalizing db with
  | nil => exact ⟨rfl, rfl⟩
  | cons entry later ih =>
      obtain ⟨key, value⟩ := entry
      have same : (db.seedSetting key value).upstreams = db.upstreams := by
        unfold Db.seedSetting
        split <;> rfl
      rw [← same]
      exact ih _

/-- What the seeded settings are: the ones that were there, and the defaults of the others. -/
theorem lookup_seedSettings_clear (defaults : List (Str × Str)) (db : Db) (key : Str) :
    (Db.seedSettings .clear defaults db).2.settings.lookup key =
      (db.settings.lookup key).or (defaults.lookup key) := by
  induction defaults generalizing db with
  | nil => exact Option.or_none.symm
  | cons entry later ih =>
      obtain ⟨key', value⟩ := entry
      refine (ih (db.seedSetting key' value)).trans ?_
      unfold Db.seedSetting
      rw [List.lookup_cons]
      by_cases same : key = key'
      · subst same
        rw [beq_self_eq_true]
        split
        next isSome =>
          obtain ⟨stored, here⟩ := Option.isSome_iff_exists.mp isSome
          rw [here]
          rfl
        next missing =>
          rw [Option.not_isSome_iff_eq_none.mp missing]
          show ((db.settings.insert key value).lookup key).or _ = _
          rw [AList.lookup_insert]
          rfl
      · have other : (key == key') = false := beq_false_of_ne same
        rw [other]
        split
        · rfl
        · show ((db.settings.insert key' value).lookup key).or _ = _
          rw [AList.lookup_insert_ne same]

/-- **A new database**, seeded: the settings are the defaults, and there is one upstream. -/
theorem seedDefaults_new {db : Db} (unset : db.settings = ∅) (empty : db.upstreams.values = []) :
    (∀ key, (db.seedDefaults .clear).2.settings.lookup key = defaultSettings.lookup key) ∧
      (db.seedDefaults .clear).2.upstreams.values =
        [{ address := "8.8.8.8".toList, port := 53 }] := by
  obtain ⟨ok, same⟩ := seedSettings_clear defaultSettings db
  have lookups := lookup_seedSettings_clear defaultSettings db
  unfold Db.seedDefaults
  generalize Db.seedSettings .clear defaultSettings db = seeded at ok same lookups
  obtain ⟨result, after⟩ := seeded
  simp only at ok same lookups
  subst ok
  show (∀ key, (Db.seedUpstream .clear after).2.settings.lookup key = _) ∧
    (Db.seedUpstream .clear after).2.upstreams.values = _
  constructor
  · intro key
    rw [Db.settings_seedUpstream, lookups, unset]
    rfl
  · obtain ⟨table, inserted⟩ : ∃ table, after.upstreams.insert
        { address := "8.8.8.8".toList, port := 53 } = some table := by
      refine Option.ne_none_iff_exists'.mp fun clash => ?_
      obtain ⟨row, mem, -⟩ := SqlTable.clashes_eq_true.mp (SqlTable.insert_eq_none.mp clash)
      rw [same, empty] at mem
      cases mem
    have checked : insertUpstream after.upstreams { address := "8.8.8.8".toList, port := 53 } =
        some table := inserted
    have counted : after.upstreams.values.length = 0 := by
      rw [same, empty]
      rfl
    unfold Db.seedUpstream
    extract_lets upstreamCount
    have zero : upstreamCount = 0 := counted
    rw [if_pos zero, checked]
    show table.values = _
    rw [SqlTable.values_insert inserted, same, empty]
    rfl

/-- Seeding without a failure leaves upstreams that are there alone. -/
theorem seedDefaults_clear {db : Db} (filled : db.upstreams.values ≠ []) :
    (db.seedDefaults .clear).1 = .ok () ∧
      (db.seedDefaults .clear).2.upstreams = db.upstreams := by
  unfold Db.seedDefaults
  obtain ⟨ok, same⟩ := seedSettings_clear defaultSettings db
  generalize Db.seedSettings .clear defaultSettings db = seeded at ok same
  obtain ⟨result, after⟩ := seeded
  simp only at ok same
  subst ok
  show (Db.seedUpstream .clear after).1 = _ ∧ (Db.seedUpstream .clear after).2.upstreams = _
  have counted : after.upstreams.values.length ≠ 0 := by
    rw [same]
    exact fun zero => filled (List.length_eq_zero_iff.mp zero)
  unfold Db.seedUpstream
  extract_lets upstreamCount
  have positive : upstreamCount ≠ 0 := counted
  rw [if_neg positive]
  exact ⟨rfl, same⟩

/-- A configuration needs two socket addresses, the networks and a forwarder. -/
theorem startConfig_eq_ok {settings : Json} {upstreams : List UpstreamRow}
    (clients : (storedClients upstreams).isSome) :
    (∃ config, startConfig nets {} settings (.ok upstreams) = .ok config ∧
        config.listenAddr.port ≠ config.webAddr.port) ↔
      ∃ dns web acl,
        startSocketAddr settings (startDnsPort {} settings) = some dns ∧
          startSocketAddr settings (startWebPort {} settings) = some web ∧
          startAcl nets settings = .ok acl ∧ dns.port ≠ web.port := by
  unfold startConfig
  constructor
  · rintro ⟨config, made, apart⟩
    obtain ⟨dns, listens, made⟩ := context_bind_eq_ok.mp made
    obtain ⟨acl, networks, made⟩ := context_bind_eq_ok.mp made
    obtain ⟨rows, -, made⟩ := context_bind_eq_ok.mp made
    obtain ⟨forwarder, -, made⟩ := context_bind_eq_ok.mp made
    obtain ⟨web, serves, made⟩ := context_bind_eq_ok.mp made
    obtain rfl := Except.ok.inj made
    exact ⟨dns, web, acl, elim_eq_ok.mp listens, elim_eq_ok.mp serves, networks, apart⟩
  · rintro ⟨dns, web, acl, listens, serves, networks, apart⟩
    obtain ⟨forwarder, built⟩ : ∃ forwarder, ParallelForwarder.newWithOptions
        (upstreams.map UpstreamRow.config)
        (startNumber settings "upstream_timeout_secs".toList 5).toNat (startStrategy settings)
        (startNumber settings "adaptive_hedge_delay_ms".toList
          (UInt64.ofNat defaultHedgeDelayMs)).toNat = .ok forwarder := by
      have isSome := ParallelForwarder.newWithOptions_isOk upstreams
        (startNumber settings "upstream_timeout_secs".toList 5).toNat (startStrategy settings)
        (startNumber settings "adaptive_hedge_delay_ms".toList
          (UInt64.ofNat defaultHedgeDelayMs)).toNat
      rw [clients] at isSome
      revert isSome
      generalize ParallelForwarder.newWithOptions _ _ _ _ = result
      rcases result with error | forwarder
      · intro impossible
        cases impossible
      · exact fun _ => ⟨forwarder, rfl⟩
    let config : ServerConfig Net :=
      { listenAddr := dns, webAddr := web, acl, forwarder
        retentionDays := startRetentionDays settings
        sinkholeIpv4 := startSinkholeIpv4 settings
        sinkholeIpv6 := startSinkholeIpv6 settings
        blockResponseMode := startBlockResponseMode settings }
    refine ⟨config, ?_, apart⟩
    refine context_bind_eq_ok.mpr ⟨dns, elim_eq_ok.mpr listens, ?_⟩
    refine context_bind_eq_ok.mpr ⟨acl, networks, ?_⟩
    refine context_bind_eq_ok.mpr ⟨upstreams, rfl, ?_⟩
    refine context_bind_eq_ok.mpr ⟨forwarder, built, ?_⟩
    exact context_bind_eq_ok.mpr ⟨web, elim_eq_ok.mpr serves, rfl⟩

/-- **The start**: with upstreams that make a forwarder it needs two socket addresses and the
networks. -/
theorem boots_iff_parse {db : Db} (filled : db.upstreams.values ≠ [])
    (clients : (storedClients db.upstreams.values).isSome) :
    let settings := (db.seedDefaults .clear).2.getSettings
    Boots nets db ↔ ∃ dns web acl,
      startSocketAddr settings (startDnsPort {} settings) = some dns ∧
        startSocketAddr settings (startWebPort {} settings) = some web ∧
        startAcl nets settings = .ok acl ∧ dns.port ≠ web.port := by
  intro settings
  obtain ⟨ok, same⟩ := seedDefaults_clear filled
  rw [← same] at clients
  have seeds : db.seedDefaults .clear = (.ok (), (db.seedDefaults .clear).2) := by
    generalize db.seedDefaults .clear = seeded at ok
    rw [← ok]
  have starts := runServer_of_seeded nets {} {} seeds rfl
  unfold Boots
  rw [starts]
  exact startConfig_eq_ok nets clients

/-- A stored setting as the start reads it. -/
theorem getSettingString_seeded {db : Db} {key value : Str} (shown : key ∉ hiddenSettings)
    (plain : key ≠ "cloudflare_api_token".toList)
    (stored : db.settings.lookup key = some value) :
    getSettingString (db.seedDefaults .clear).2.getSettings key = value := by
  rw [getSettingString_eq _ shown plain, Db.lookup_seedDefaults_of_isSome stored]
  rfl

/-- **The start from settings that were accepted** needs an IPv4 address, and a port that is
not the last one. -/
theorem boots_iff_of_stored {db : Db} (filled : db.upstreams.values ≠ [])
    (clients : (storedClients db.upstreams.values).isSome)
    {address port networks : Str} {ip : IpAddr} {number : Nat} {acl : Acl Net}
    (addressStored : db.settings.lookup "listen_address".toList = some address)
    (portStored : db.settings.lookup "listen_port".toList = some port)
    (networksStored : db.settings.lookup "allowed_networks".toList = some networks)
    (addressParsed : IpAddr.parse address = some ip)
    (portParsed : Str.parseU16 port = some number)
    (networksParsed : Acl.parse nets networks = .ok acl) :
    Boots nets db ↔ (∃ addr, ip = .v4 addr) ∧ number ≠ 65535 := by
  refine (boots_iff_parse nets filled clients).trans ?_
  have dnsPort : startDnsPort {} (db.seedDefaults .clear).2.getSettings = number := by
    unfold startDnsPort
    rw [getSettingString_seeded (by decide) (by decide) portStored, portParsed]
    rfl
  have webPort : startWebPort {} (db.seedDefaults .clear).2.getSettings =
      min (number + 1) 65535 := by
    unfold startWebPort
    rw [dnsPort]
    rfl
  have small : number < 65536 := by
    obtain ⟨n, read, rfl⟩ := Option.map_eq_some_iff.mp portParsed
    have below := (Option.filter_eq_some_iff.mp read).2
    simp only [decide_eq_true_eq] at below
    exact UInt64.lt_iff_toNat_lt.mp below
  have acls : startAcl nets (db.seedDefaults .clear).2.getSettings = .ok acl := by
    unfold startAcl
    rw [getSettingString_seeded (by decide) (by decide) networksStored, networksParsed]
  have socket : ∀ n < 65536, startSocketAddr (db.seedDefaults .clear).2.getSettings n =
      SocketAddr.ofParts n ip := by
    intro n below
    unfold startSocketAddr
    rw [getSettingString_seeded (by decide) (by decide) addressStored]
    exact SocketAddr.parse_append_port addressParsed below
  rw [dnsPort, webPort, acls, socket number small, socket _ (by omega)]
  rcases ip with addr | addr
  -- an IPv4 address: the two ports must differ, and they meet at the last one
  · constructor
    · rintro ⟨dns, web, _, listens, serves, -, apart⟩
      obtain rfl := Option.some.inj listens
      obtain rfl := Option.some.inj serves
      refine ⟨⟨addr, rfl⟩, fun last => apart ?_⟩
      show number = min (number + 1) 65535
      omega
    · rintro ⟨-, before⟩
      refine ⟨_, _, acl, rfl, rfl, rfl, ?_⟩
      show number ≠ min (number + 1) 65535
      omega
  -- an IPv6 address is joined to the port without brackets
  · constructor
    · rintro ⟨dns, web, _, listens, -⟩
      cases listens
    · rintro ⟨⟨_, impossible⟩, -⟩
      cases impossible

end Start

/-! ## Runs of accepted settings

A setting that was accepted has passed its parser, and stays until the next one with its key.  So
at the end of a run each key has an accepted value or its default. -/

/-- `PUT /api/settings` -/
structure SettingRequest where
  weather : ApiWeather := {}
  peer : Option IpAddr := none
  key : Str
  value : Str

/-- The value a run of requests leaves a setting with. -/
def lastValue (key otherwise : Str) (requests : List SettingRequest) : Str :=
  requests.foldl (fun last request => if request.key = key then request.value else last) otherwise

section Runs

variable {Net : Type} (env : ApiEnv Net)

/-- The requests that are answered `200`, from the seeded defaults on.  A request that is refused
stores nothing, and is no step. -/
def settingRequests : StateMachine (WebServer Net) SettingRequest where
  init s := ∃ db : Db, db.settings = ∅ ∧ db.upstreams.values = [] ∧
    s.db = (db.seedDefaults .clear).2
  step s request :=
    WebServer.onStatus 200
      (s.updateSetting env request.weather request.peer request.key request.value)

variable {env} {s t : WebServer Net}

/-- What a request that is answered `200` has stored. -/
theorem updateSetting_ok {weather : ApiWeather} {peer : Option IpAddr} {key value : Str}
    (answered : (s.updateSetting env weather peer key value).1.status = 200) :
    ∃ parsed, WebServer.parseSetting env key value = .ok parsed ∧
      (s.updateSetting env weather peer key value).2 =
        WebServer.takeOver { s with db := s.db.setSetting key (parsed.persisted value) }
          key value parsed := by
  rcases WebServer.updateSetting_cases key value with ⟨status, error, bad, answer, -⟩ |
    ⟨parsed, body, accepted, -, -, answer⟩
  · rw [answer] at answered
    have status : status = 200 := answered
    omega
  · exact ⟨parsed, accepted, by rw [answer]⟩

/-- The settings a start is fatal on. -/
def bootKeys : List Str :=
  ["listen_address".toList, "listen_port".toList, "allowed_networks".toList]

/-- `update_setting` accepts the value. -/
def Accepted (env : ApiEnv Net) (key value : Str) : Prop :=
  ∃ parsed, WebServer.parseSetting env key value = .ok parsed

theorem parseSetting_listenAddress (env : ApiEnv Net) (value : Str) :
    WebServer.parseSetting env "listen_address".toList value =
      if (IpAddr.parse value).isSome then .ok .restart
      else .error ("invalid listen_address: ".toList ++ value) := by
  rcases parsed : IpAddr.parse value with _ | ip
  all_goals
    simp only [WebServer.parseSetting, parsed]
    rfl

theorem parseSetting_listenPort (env : ApiEnv Net) (value : Str) :
    WebServer.parseSetting env "listen_port".toList value =
      if (Str.parseU16 value).isSome then .ok .restart
      else .error ("invalid listen_port: ".toList ++ value) := by
  unfold Str.parseU16
  rcases parsed : (Str.parseU64 value).filter (fun port => port < 65536) with _ | port
  all_goals
    simp only [WebServer.parseSetting, parsed]
    rfl

theorem parseSetting_allowedNetworks (env : ApiEnv Net) (value : Str) :
    WebServer.parseSetting env "allowed_networks".toList value =
      (Acl.parse env.nets value).map .acl := rfl

theorem accepted_listenAddress {value : Str}
    (accepted : Accepted env "listen_address".toList value) :
    ∃ ip, IpAddr.parse value = some ip := by
  obtain ⟨parsed, read⟩ := accepted
  rw [parseSetting_listenAddress] at read
  split at read
  next isSome => exact Option.isSome_iff_exists.mp isSome
  · cases read

theorem accepted_listenPort {value : Str} (accepted : Accepted env "listen_port".toList value) :
    ∃ port, Str.parseU16 value = some port := by
  obtain ⟨parsed, read⟩ := accepted
  rw [parseSetting_listenPort] at read
  split at read
  next isSome => exact Option.isSome_iff_exists.mp isSome
  · cases read

theorem accepted_allowedNetworks {value : Str}
    (accepted : Accepted env "allowed_networks".toList value) :
    ∃ acl, Acl.parse env.nets value = .ok acl := by
  obtain ⟨parsed, read⟩ := accepted
  rw [parseSetting_allowedNetworks] at read
  rcases result : Acl.parse env.nets value with error | acl
  · rw [result] at read
    cases read
  · exact ⟨acl, rfl⟩

/-- Settings a start is fatal on are stored as they are given. -/
theorem persisted_of_mem_bootKeys {key value : Str} (mem : key ∈ bootKeys)
    {parsed : WebServer.SettingValue Net}
    (accepted : WebServer.parseSetting env key value = .ok parsed) :
    parsed.persisted value = value := by
  simp only [bootKeys, List.mem_cons, List.not_mem_nil, or_false] at mem
  rcases mem with rfl | rfl | rfl
  · rw [parseSetting_listenAddress] at accepted
    split at accepted <;> cases accepted
    rfl
  · rw [parseSetting_listenPort] at accepted
    split at accepted <;> cases accepted
    rfl
  · rw [parseSetting_allowedNetworks] at accepted
    rcases result : Acl.parse env.nets value with error | acl
    · rw [result] at accepted
      cases accepted
    · rw [result] at accepted
      cases accepted
      rfl

/-- **A run leaves such a setting with the last value of its requests.** -/
theorem lookup_of_run {requests : List SettingRequest} {key value : Str} (mem : key ∈ bootKeys)
    (stored : s.db.settings.lookup key = some value) (accepted : Accepted env key value)
    (run : (settingRequests env).exec s requests = some t) :
    t.db.settings.lookup key = some (lastValue key value requests) ∧
      Accepted env key (lastValue key value requests) ∧ t.db.upstreams = s.db.upstreams := by
  induction requests generalizing s value with
  | nil =>
      obtain rfl := Option.some.inj run
      exact ⟨stored, accepted, rfl⟩
  | cons request later ih =>
      obtain ⟨m, one, run⟩ := (settingRequests env).exec_cons_eq_some.mp run
      obtain ⟨status, rfl⟩ := WebServer.onStatus_eq_some.mp one
      obtain ⟨parsed, read, after⟩ := updateSetting_ok status
      have db : (s.updateSetting env request.weather request.peer request.key request.value).2.db =
          s.db.setSetting request.key (parsed.persisted request.value) := by
        rw [after]
        exact (WebServer.takeOver_db_key _ _ _).1
      -- the settings of a start are stored as they are sent
      by_cases same : request.key = key
      · have kept := persisted_of_mem_bootKeys (same ▸ mem) read
        have here : lastValue key value (request :: later) = lastValue key request.value later := by
          unfold lastValue
          rw [List.foldl_cons, if_pos same]
        rw [here]
        refine ih ?_ ⟨parsed, same ▸ read⟩ run |>.imp_right fun both =>
          both.imp_right fun rows => ?_
        · rw [db, ← same, kept]
          exact AList.lookup_insert _
        · rw [rows, db]
          rfl
      · have here : lastValue key value (request :: later) = lastValue key value later := by
          unfold lastValue
          rw [List.foldl_cons, if_neg same]
        rw [here]
        refine ih ?_ accepted run |>.imp_right fun both => both.imp_right fun rows => ?_
        · rw [db]
          exact (AList.lookup_insert_ne fun back => same back.symm).trans stored
        · rw [rows, db]
          rfl

/-- **The server starts after a run of accepted settings exactly if the last address is an
IPv4 address and the last port has one after it.** -/
theorem boots_iff {requests : List SettingRequest} (start : (settingRequests env).init s)
    (run : (settingRequests env).exec s requests = some t) :
    Boots env.nets t.db ↔
      (∃ addr, IpAddr.parse (lastValue "listen_address".toList "0.0.0.0".toList requests) =
        some (.v4 addr)) ∧
      Str.parseU16 (lastValue "listen_port".toList "53".toList requests) ≠ some 65535 := by
  obtain ⟨db, unset, empty, seeded⟩ := start
  obtain ⟨defaults, upstream⟩ := seedDefaults_new unset empty
  rw [← seeded] at defaults upstream
  have addressAccepted : Accepted env "listen_address".toList "0.0.0.0".toList :=
    ⟨.restart, (parseSetting_listenAddress env _).trans (if_pos (by decide))⟩
  have portAccepted : Accepted env "listen_port".toList "53".toList :=
    ⟨.restart, (parseSetting_listenPort env _).trans (if_pos (by decide))⟩
  have networksAccepted : Accepted env "allowed_networks".toList [] := ⟨.acl {}, rfl⟩
  obtain ⟨addressStored, address, upstreams⟩ :=
    lookup_of_run (by decide) (defaults _) addressAccepted run
  obtain ⟨portStored, port, -⟩ := lookup_of_run (by decide) (defaults _) portAccepted run
  obtain ⟨networksStored, networks, -⟩ :=
    lookup_of_run (by decide) (defaults _) networksAccepted run
  obtain ⟨ip, addressParsed⟩ := accepted_listenAddress address
  obtain ⟨number, portParsed⟩ := accepted_listenPort port
  obtain ⟨acl, networksParsed⟩ := accepted_allowedNetworks networks
  have rows : t.db.upstreams.values = [{ address := "8.8.8.8".toList, port := 53 }] := by
    rw [upstreams, upstream]
  refine (boots_iff_of_stored env.nets (by rw [rows]; exact List.cons_ne_nil _ _)
    (by rw [rows]; decide) addressStored portStored networksStored addressParsed portParsed
    networksParsed).trans ?_
  rw [addressParsed, portParsed]
  refine and_congr (exists_congr fun addr => ?_) ?_
  · exact ⟨fun same => congrArg some same, fun same => Option.some.inj same⟩
  · exact not_congr ⟨fun same => congrArg some same, fun same => Option.some.inj same⟩

end Runs

/-! ## Two settings that are accepted

Two new servers with one request each.  The request is answered `200` in both cases, and neither
server starts again. -/

/-- A server whose database is new. -/
def newServer : WebServer IpAddr where
  db := (Db.seedDefaults .clear {}).2
  key := []

def ipv6Request : SettingRequest where
  key := "listen_address".toList
  value := "::1".toList

def lastPortRequest : SettingRequest where
  key := "listen_port".toList
  value := "65535".toList

theorem newServer_init : (settingRequests plainEnv).init newServer := ⟨{}, rfl, rfl, rfl⟩

/-- What a start is fatal on, after one request to a new server. -/
def afterRequest (request : SettingRequest) : Option (List (Option Str)) :=
  ((settingRequests plainEnv).exec newServer [request]).map fun t =>
    bootKeys.map fun key => t.db.settings.lookup key

theorem newServer_upstreams {request : SettingRequest} {t : WebServer IpAddr}
    (run : (settingRequests plainEnv).exec newServer [request] = some t) :
    t.db.upstreams.values = [{ address := "8.8.8.8".toList, port := 53 }] := by
  obtain ⟨m, one, last⟩ := (settingRequests plainEnv).exec_cons_eq_some.mp run
  obtain rfl := Option.some.inj last
  obtain ⟨status, rfl⟩ := WebServer.onStatus_eq_some.mp one
  obtain ⟨parsed, -, after⟩ := updateSetting_ok status
  have seeded := (@seedDefaults_new {} rfl rfl).2
  rw [after, (WebServer.takeOver_db_key _ _ _).1]
  show newServer.db.upstreams.values = _
  rw [← seeded]
  rfl

/-- Whether a new server starts again after a request, by the address and the port it has then. -/
theorem newServer_boots_iff {request : SettingRequest} {address port : Str} {ip : IpAddr}
    {number : Nat} (ends : afterRequest request = some [some address, some port, some []])
    (addressParsed : IpAddr.parse address = some ip)
    (portParsed : Str.parseU16 port = some number) :
    ∃ t, (settingRequests plainEnv).exec newServer [request] = some t ∧
      (Boots plainEnv.nets t.db ↔ (∃ addr, ip = .v4 addr) ∧ number ≠ 65535) := by
  obtain ⟨t, run, lookups⟩ := Option.map_eq_some_iff.mp ends
  obtain ⟨addressStored, lookups⟩ := List.cons.inj lookups
  obtain ⟨portStored, lookups⟩ := List.cons.inj lookups
  obtain ⟨networksStored, -⟩ := List.cons.inj lookups
  have rows := newServer_upstreams run
  exact ⟨t, run, boots_iff_of_stored plainEnv.nets
    (by rw [rows]; exact List.cons_ne_nil _ _) (by rw [rows]; decide) addressStored portStored
    networksStored addressParsed portParsed rfl⟩

/-- **An IPv6 address and the last port are accepted, and the server does not start again**
after either. -/
theorem not_boots_accepted :
    (settingRequests plainEnv).init newServer ∧
      (∃ t, (settingRequests plainEnv).exec newServer [ipv6Request] = some t ∧
        ¬ Boots plainEnv.nets t.db) ∧
      ∃ t, (settingRequests plainEnv).exec newServer [lastPortRequest] = some t ∧
        ¬ Boots plainEnv.nets t.db := by
  refine ⟨newServer_init, ?_, ?_⟩
  · have ends : afterRequest ipv6Request =
        some [some "::1".toList, some "53".toList, some []] := by
      decide +kernel
    have parsed : IpAddr.parse "::1".toList = some (.v6 1#128) := by decide +kernel
    have port : Str.parseU16 "53".toList = some 53 := by decide +kernel
    obtain ⟨t, run, exactly⟩ := newServer_boots_iff ends parsed port
    refine ⟨t, run, fun boots => ?_⟩
    obtain ⟨⟨addr, impossible⟩, -⟩ := exactly.mp boots
    cases impossible
  · have ends : afterRequest lastPortRequest =
        some [some "0.0.0.0".toList, some "65535".toList, some []] := by
      decide +kernel
    have parsed : IpAddr.parse "0.0.0.0".toList = some (.v4 0#32) := by decide +kernel
    have port : Str.parseU16 "65535".toList = some 65535 := by decide +kernel
    obtain ⟨t, run, exactly⟩ := newServer_boots_iff ends parsed port
    exact ⟨t, run, fun boots => (exactly.mp boots).2 rfl⟩

/-- A new server with another port. -/
theorem boots_iff_otherPort :
    let request : SettingRequest := { key := "listen_port".toList, value := "5353".toList }
    ∃ t, (settingRequests plainEnv).exec newServer [request] = some t ∧
      (Boots plainEnv.nets t.db ↔
        (∃ addr, IpAddr.parse (lastValue "listen_address".toList "0.0.0.0".toList [request]) =
          some (.v4 addr)) ∧
        Str.parseU16 (lastValue "listen_port".toList "53".toList [request]) ≠ some 65535) := by
  intro request
  have ends : (afterRequest request).isSome := by decide +kernel
  obtain ⟨t, run⟩ := Option.isSome_iff_exists.mp (Option.isSome_map.symm.trans ends)
  exact ⟨t, run, boots_iff newServer_init run⟩

end RustBlocker
