import RustBlocker.Credentials
import RustBlocker.Forwarder
import RustBlocker.Handler
import RustBlocker.LoginThrottle
import RustBlocker.SourceLists
import RustBlocker.SyncManifest

/-!
# The web API

The routes of `configure`, each with its handler, and the middleware before them.

* **The server** is the state the handlers share: the database, and what the running processes
  read instead of it.
* **A call** is a route with what the extractors made of path and body.  A path or a body that
  does not parse is answered before any handler starts.
* **The weather** of a call is what comes from outside: which database calls fail, what a fetch or
  an order of a certificate brings, the clock, and the bodies of those reports that are made of
  nothing but such things.
* **One call at a time.**  A handler is one function here; the machines of the other modules take
  the parts of some of them apart.

Every handler but four begins with `check_acl`; one of the four should.

## What the model keeps

All routes are here, also those that only report, because several results are about all of them:
that a stranger is turned away, that a secret is not told, that nothing but some handlers writes a
setting.  For such a result a handler that was left out would be a hole.  A handler that reports
on something outside of the server, such as the newest version, has its answer in the weather and
changes nothing.

The state is what the handlers share and what survives a call: the two lists and the rewrite map
of the running resolver, the forwarder, the control list, the settings that were parsed, the
throttle, the session key and the database.  Answers are a status and a JSON body, with the cookie
that is set; headers are left out.

A blocking task may panic, and has then written nothing.  Of the statements of a call any may
fail. What a handler does after a failure is read off the source in each case: some answer with an
error, and some log it and answer as if nothing had happened.
-/

namespace RustBlocker

/-! ## The server

A request is answered by a function of the server, of the calls that fail and of what comes from
outside.  The time, the fetches and the random bytes are part of that weather, one record for all
routes. -/

/-- A row of `certificates`, as the API reads and writes it. -/
structure Certificate where
  privateKey : Bytes
  certificate : Bytes
  issuedAt : Int
  expiresAt : Int

/-- The server behind the API: the one that answers DNS requests, with its database, its forwarder
and its sessions. -/
structure WebServer (Net : Type) extends DnsServer Net where
  db : Db := {}
  /-- The rows of `certificates` by domain. -/
  certificates : AList fun _ : Str => Certificate := ∅
  /-- The rows of `query_log`. -/
  loggedQueries : List QueryEntry := []
  forwarder : ParallelForwarder := {}
  retentionDays : UInt64 := 30
  /-- The session key. -/
  key : Bytes
  throttle : LoginThrottle := {}
  /-- A restart of the process is scheduled. -/
  restarting : Bool := false

/-- The calls of a database function of one statement: the connection, and the statement. -/
inductive StatementCall where
  | connection
  | statement
deriving DecidableEq

/-- One statement. -/
def oneStatement (fails : Plan StatementCall) : Except DbError Unit := do
  fails.attempt .connection .pool
  fails.attempt .statement .sql

/-- What a call meets.  One record serves all routes; a handler reads the parts that concern it. -/
structure ApiWeather where
  /-- The blocking task panics; it has written nothing. -/
  task : Option Str := none
  /-- Which settings can be read. -/
  reads : Str → Bool := fun _ => true
  /-- How the write of a setting fails. -/
  set : Str → Plan StatementCall := fun _ => .clear
  credentials : SectionInput := {}
  /-- `Instant::now`, in nanoseconds. -/
  instant : Nat := 0
  instantAfter : Nat := 0
  /-- The query of a handler that reads. -/
  select : Plan StatementCall := .clear
  upstream : Plan StatementCall := .clear
  upstreamsRead : Bool := true
  add : Plan AddDomainCall := .clear
  delete : Plan DeleteDomainCall := .clear
  bulk : Plan ImportCall := .clear
  order : BucketOrder := .id _
  fetched : Except Str Str := .error []
  addRewrite : Plan AddRewriteCall := .clear
  lastRowid : Nat := 0
  deleteRewrite : Plan DeleteRewriteCall := .clear
  addSource : Plan AddSourceCall := .clear
  deleteSource : Plan DeleteSourceCall := .clear
  leftover : Finset Str := ∅
  load : Plan LoadCall := .clear
  scan : Reordering Str := .id Str
  refresh : DbSource → RefreshWeather := fun _ => { fetched := .error [] }
  clears : Bool := true
  /-- The ordered certificate, stored. -/
  ordered : Except Str Certificate := .error []
  update : Except Str Str := .error []
  /-- The status and body of a report. -/
  report : Nat × Json := (200, .null)

structure Response where
  status : Nat
  body : Json := .null
  /-- The session cookie that is set. -/
  session : Option Str := none

/-- `{"error": …}` -/
def failure (status : Nat) (error : Str) : Response where
  status := status
  body := .object [("error".toList, .string error)]

def Response.ok (body : Json) : Response := { status := 200, body }

/-- `{"ok": true}` -/
def okResponse : Response := .ok (.object [("ok".toList, .bool true)])

def notFound : Response := failure 404 "not found".toList

def accessDenied : Response := failure 403 "access denied".toList

/-- `DbRequestError::into_response` -/
def internalError (error : Str) : Response := failure 500 error

abbrev Reply (Net : Type) := Response × WebServer Net

/-! ## The calls

A call is a route with its parameters, as the handler gets them.  How the framework finds the
route of a path is left out; the path of a call is there, because the middleware looks at it. -/

inductive ApiCall where
  | health
  | getVersion
  | getDnsConcurrency
  | authCheck
  | login (password : Str)
  | logout
  | changePassword (currentPassword newPassword : Str)
  | checkUpdate
  | applyUpdate
  | getSettings
  | updateSetting (key value : Str)
  | getUpstreams
  | addUpstream (address : Str) (port : Option Nat)
  | deleteUpstream (id : Int)
  | getDomains (list : DomainList)
  | addDomain (list : DomainList) (domain : Str)
  | deleteDomain (list : DomainList) (id : Int)
  | bulkImport (list : DomainList) (content url : Option Str)
  | getRewrites
  | addRewrite (domain : Str) (ipv4 ipv6 : Option Str)
  | deleteRewrite (id : Int)
  | getSources
  | addSource (url : Str) (listType : Option Str) (updateIntervalHours : Option Int)
  | refreshOneSource (id : Int)
  | deleteSource (id : Int)
  | refreshAllSources
  | getStats
  | getQueryTrend (days : Option UInt64)
  | getQueries
  | clearStats
  | liveQueries
  | restartServer
  | syncManifest
  | syncSnapshot (category : Str)
  | getSyncConfig
  | putSyncConfig (enabled : Bool) (masterUrl password : Str) (intervalSecs : UInt64)
  | getSyncStatus
  | verifySyncConnection (masterUrl : Str) (password : Option Str)
  | requestCertificate (domain : Str) (wildcard : Option Bool)
  | renewCertificate (domain : Str) (wildcard : Option Bool)
  | certificateStatus
  | activityStream
  | testCloudflareConnection (apiToken : Str)

inductive Method where
  | get
  | post
  | put
  | delete
deriving DecidableEq, Repr

/-- `configure`: the method and the path of a call, below `/api`. -/
def ApiCall.route : ApiCall → Method × Str
  | health => (.get, "/health".toList)
  | getVersion => (.get, "/version".toList)
  | getDnsConcurrency => (.get, "/dns/concurrency".toList)
  | authCheck => (.get, "/auth/check".toList)
  | login _ => (.post, "/auth/login".toList)
  | logout => (.post, "/auth/logout".toList)
  | changePassword _ _ => (.put, "/auth/password".toList)
  | checkUpdate => (.get, "/update/check".toList)
  | applyUpdate => (.post, "/update/apply".toList)
  | getSettings => (.get, "/settings".toList)
  | updateSetting _ _ => (.put, "/settings".toList)
  | getUpstreams => (.get, "/upstreams".toList)
  | addUpstream _ _ => (.post, "/upstreams".toList)
  | deleteUpstream id => (.delete, "/upstreams/".toList ++ signedDecimal id)
  | getDomains list => (.get, '/' :: list.type)
  | addDomain list _ => (.post, '/' :: list.type)
  | deleteDomain list id => (.delete, '/' :: list.type ++ '/' :: signedDecimal id)
  | bulkImport list _ _ => (.post, '/' :: list.type ++ "/import".toList)
  | getRewrites => (.get, "/rewrites".toList)
  | addRewrite _ _ _ => (.post, "/rewrites".toList)
  | deleteRewrite id => (.delete, "/rewrites/".toList ++ signedDecimal id)
  | getSources => (.get, "/sources".toList)
  | addSource _ _ _ => (.post, "/sources".toList)
  | refreshOneSource id => (.post, "/sources/".toList ++ signedDecimal id ++ "/refresh".toList)
  | deleteSource id => (.delete, "/sources/".toList ++ signedDecimal id)
  | refreshAllSources => (.post, "/sources/refresh".toList)
  | getStats => (.get, "/stats".toList)
  | getQueryTrend _ => (.get, "/stats/trend".toList)
  | getQueries => (.get, "/stats/queries".toList)
  | clearStats => (.delete, "/stats".toList)
  | liveQueries => (.get, "/stats/live".toList)
  | restartServer => (.post, "/restart".toList)
  | syncManifest => (.get, "/sync/manifest".toList)
  | syncSnapshot category => (.get, "/sync/snapshot/".toList ++ category)
  | getSyncConfig => (.get, "/sync/config".toList)
  | putSyncConfig _ _ _ _ => (.put, "/sync/config".toList)
  | getSyncStatus => (.get, "/sync/status".toList)
  | verifySyncConnection _ _ => (.post, "/sync/verify".toList)
  | requestCertificate _ _ => (.post, "/acme/request".toList)
  | renewCertificate _ _ => (.post, "/acme/renew".toList)
  | certificateStatus => (.get, "/acme/status".toList)
  | activityStream => (.get, "/activity/stream".toList)
  | testCloudflareConnection _ => (.post, "/cloudflare/test".toList)

def ApiCall.path (call : ApiCall) : Str := "/api".toList ++ call.route.2

/-- `is_public_path` -/
def isPublicPath (path : Str) : Bool :=
  path == "/".toList || "/tailwind.min.css".toList.isPrefixOf path ||
    ["/app.js".toList, "/icon.png".toList, "/favicon.png".toList, "/favicon.ico".toList,
      "/api/health".toList, "/api/version".toList, "/api/dns/concurrency".toList,
      "/api/auth/login".toList, "/api/auth/logout".toList, "/api/auth/check".toList].contains path

/-- A request to the API, with the address it comes from as far as it is known. -/
structure ApiRequest where
  peer : Option IpAddr
  /-- The value of the session cookie. -/
  cookie : Option Str := none
  call : ApiCall

/-- What the server is linked with: hashes, tags and tables that come from other crates.  They are
fixed for the life of a server, and results about them state what they need. -/
structure ApiEnv (Net : Type) where
  nets : IpNets Net
  caseTables : CaseTables
  hash : Bytes → UInt64
  verify : Str → Str → Bool
  hmac : Bytes → Bytes → Bytes
  sha : Bytes → Str

/-! ## Handlers -/

section Handlers

variable {Net : Type} (env : ApiEnv Net) (weather : ApiWeather) (peer : Option IpAddr)
  (s : WebServer Net)

/-- `db_blocking` -/
def dbBlocking {α : Type} (result : Except DbError α) : Except Str α :=
  match weather.task with
  | some error => .error ("database task failed: ".toList ++ error)
  | none =>
      match result with
      | .ok a => .ok a
      | .error error => .error ("database error: ".toList ++ error.text)

/-- A handler that answers with what it reads of the database. -/
def reading (body : Json) : Reply Net :=
  match dbBlocking weather (oneStatement weather.select) with
  | .ok () => (.ok body, s)
  | .error error => (internalError error, s)

/-- A handler that answers with a report from outside. -/
def reporting : Reply Net := ({ status := weather.report.1, body := weather.report.2 }, s)

namespace WebServer

/-- `check_acl` -/
def checkAcl : Bool :=
  match peer with
  | some addr => s.acl.isAllowed env.nets addr
  | none => true

/-- A handler behind `check_acl`.  A request without a peer address is let through. -/
def guarded (handler : Reply Net) : Reply Net :=
  if s.checkAcl env peer then handler else (accessDenied, s)

def getSetting (key : Str) : Option Str := s.db.getSetting (weather.reads key) key

/-- `set_setting`, where a failure is logged only, so that the caller goes on as if the text were
stored. -/
def storeSetting (key value : Str) : WebServer Net :=
  match oneStatement (weather.set key) with
  | .ok () => { s with db := s.db.setSetting key value }
  | .error _ => s

/-! ### Sessions

The middleware has asked for a session before a protected handler runs.  These handlers are the
ones that make sessions, or end them all. -/

/-- `health` -/
def health : Reply Net := (.ok (.object [("status".toList, .string "ok".toList)]), s)

/-- `get_version` -/
def getVersion : Reply Net := reporting weather s

/-- `get_dns_concurrency` -/
def getDnsConcurrency : Reply Net := s.guarded env peer (reporting weather s)

def authenticated (status : Bool) : Json := .object [("authenticated".toList, .bool status)]

/-- Whether the cookie of a request is a session; a clock before 1970 panics. -/
def authed (cookie : Option Str) : Bool :=
  match cookie, weather.credentials.now with
  | some value, some now => validateSession env.hmac s.key now value
  | _, _ => false

/-- `auth_check` -/
def authCheck (cookie : Option Str) : Reply Net :=
  (.ok (authenticated (s.authed env weather cookie)), s)

/-- `logout` -/
def logout : Reply Net := ({ Response.ok (authenticated false) with session := some [] }, s)

/-- `login` -/
def login (password : Str) : Reply Net :=
  s.guarded env peer <|
    match peer with
    | none => (failure 400 "missing client address".toList, s)
    | some client =>
        match s.throttle.begin client weather.instant with
        | (throttle, .error _) =>
            (failure 429 "too many login attempts".toList, { s with throttle })
        | (throttle, .ok ()) =>
            -- the permit is given back when the blocking task ends
            let throttle := { throttle with bcryptSlots := throttle.bcryptSlots + 1 }
            if weather.task.isSome then
              (failure 500 "failed to process login".toList, { s with throttle })
            else
              match s.getSetting weather passwordHashKey with
              | none => (failure 401 "no admin password configured".toList, { s with throttle })
              | some hash =>
                  if env.verify password hash then
                    match weather.credentials.now with
                    | none => (failure 500 "failed to process login".toList, { s with throttle })
                    | some now =>
                        ({ Response.ok (authenticated true) with
                            session := some (createSession env.hmac s.key now sessionMaxAgeSecs) },
                          { s with throttle := throttle.recordSuccess client })
                  else
                    (failure 401 "invalid password".toList,
                      { s with
                        throttle := throttle.recordFailureAt client weather.instantAfter })

/-- `change_password`, the one handler of a protected route that does not begin with
`check_acl`. -/
def changePassword (currentPassword newPassword : Str) : Reply Net :=
  if Str.len newPassword < 6 then
    (failure 400 "new password must be at least 6 characters".toList, s)
  else if weather.task.isSome then (failure 500 "failed to process password".toList, s)
  else
    match s.getSetting weather passwordHashKey with
    | none => (failure 401 "no admin password configured".toList, s)
    | some currentHash =>
        if !env.verify currentPassword currentHash then
          (failure 401 "current password is incorrect".toList, s)
        else
          match weather.credentials.hashed with
          | .error _ => (failure 500 "failed to process password".toList, s)
          | .ok newHash =>
              let newSecret := weather.credentials.secret
              match Db.updateAuthCredentials weather.credentials.fails s.db currentHash newHash
                  (encodeSecret newSecret) with
              | .error _ => (failure 500 "failed to process password".toList, s)
              | .ok (false, _) => (failure 409 "password changed concurrently".toList, s)
              | .ok (true, db) =>
                  let changed := { s with db, key := newSecret }
                  match weather.credentials.now with
                  | none => (failure 500 "failed to process password".toList, changed)
                  | some now =>
                      ({ Response.ok (.object [("status".toList, .string "ok".toList)]) with
                          session := some (createSession env.hmac newSecret now sessionMaxAgeSecs) },
                        changed)

/-! ### Updates and restarts -/

def scheduleRestart : WebServer Net := { s with restarting := true }

/-- `check_update` -/
def checkUpdate : Reply Net := s.guarded env peer (reporting weather s)

/-- `apply_update` -/
def applyUpdate : Reply Net :=
  s.guarded env peer <|
    match weather.task, weather.update with
    | some error, _ => (failure 500 ("join error: ".toList ++ error), s)
    | none, .error error => (failure 500 error, s)
    | none, .ok version =>
        (.ok (.object [("status".toList, .string "updated".toList),
            ("version".toList, .string version), ("restart_pending".toList, .bool true)]),
          s.scheduleRestart)

/-- `restart_server` -/
def restartServer : Reply Net :=
  s.guarded env peer
    (.ok (.object [("status".toList, .string "restarting".toList)]), s.scheduleRestart)

/-! ### Settings

One route stores any setting.  A few of them are checked before, some are taken over by the
running server afterwards, and two make the process start again. -/

/-- `get_settings` -/
def getSettings : Reply Net := s.guarded env peer (reading weather s s.db.getSettings)

/-- A setting with its value as it was parsed, which the server takes over once the text is
stored. -/
inductive SettingValue (Net : Type) where
  | strategy (strategy : ForwardStrategy)
  | responseMode (mode : BlockResponseMode)
  | hedgeDelay (ms : UInt64)
  | acl (acl : Acl Net)
  /-- A setting that is read when the server starts. -/
  | restart
  | other

/-- What `update_setting` checks before it stores a setting. -/
def parseSetting (key value : Str) : Except Str (SettingValue Net) :=
  let parsed {α : Type} (result : Option α) (wrap : α → SettingValue Net) (error : Str) :
      Except Str (SettingValue Net) :=
    match result with
    | some a => .ok (wrap a)
    | none => .error error
  let invalid := "invalid ".toList ++ key
  if key = "forward_strategy".toList then
    parsed (ForwardStrategy.parse value) .strategy invalid
  else if key = "block_response_mode".toList then
    parsed (BlockResponseMode.parse value) .responseMode invalid
  else if key = "adaptive_hedge_delay_ms".toList then
    parsed (Str.parseU64 value) .hedgeDelay invalid
  else if key = "allowed_networks".toList then (Acl.parse env.nets value).map .acl
  else if key = "listen_address".toList then
    parsed (IpAddr.parse value) (fun _ => .restart) (invalid ++ ": ".toList ++ value)
  else if key = "listen_port".toList then
    parsed ((Str.parseU64 value).filter fun port => port < 65536) (fun _ => .restart)
      (invalid ++ ": ".toList ++ value)
  else .ok .other

/-- The text that is stored. -/
def SettingValue.persisted (value : Str) : SettingValue Net → Str
  | .strategy chosen => chosen.asStr
  | .responseMode mode => mode.asStr
  | _ => value

/-- The running server takes a stored setting over. -/
def takeOver (key value : Str) : SettingValue Net → WebServer Net
  | .strategy strategy => { s with forwarder := { s.forwarder with strategy } }
  | .responseMode blockResponseMode => { s with blockResponseMode }
  | .hedgeDelay ms => { s with forwarder := { s.forwarder with hedgeDelayMs := ms.toNat } }
  | .acl acl => { s with acl }
  | .restart => s.scheduleRestart
  | .other =>
      if key = "sinkhole_ipv4".toList then
        match IpAddr.parseIpv4 value with
        | some sinkholeIpv4 => { s with sinkholeIpv4 }
        | none => s
      else if key = "sinkhole_ipv6".toList then
        match IpAddr.parseIpv6 value with
        | some sinkholeIpv6 => { s with sinkholeIpv6 }
        | none => s
      else if key = "upstream_timeout_secs".toList then
        match Str.parseU64 value with
        | some secs => { s with forwarder := { s.forwarder with timeoutSecs := secs.toNat } }
        | none => s
      else if key = "stats_retention_days".toList then
        match Str.parseU64 value with
        | some retentionDays => { s with retentionDays }
        | none => s
      else s

/-- `update_setting`: the value is parsed, stored, and taken over by the running server.  Any key
is stored, also one that the program has no use for. -/
def updateSetting (key value : Str) : Reply Net :=
  s.guarded env peer <|
    match parseSetting env key value with
    | .error error => (failure 400 error, s)
    | .ok parsed =>
        match dbBlocking weather (oneStatement (weather.set key)) with
        | .error error => (internalError error, s)
        | .ok () =>
            let stored := { s with db := s.db.setSetting key (parsed.persisted value) }
            let body := match parsed with
              | .restart =>
                  .object [("ok".toList, .bool true), ("restart_pending".toList, .bool true)]
              | _ => .object [("ok".toList, .bool true)]
            (.ok body, stored.takeOver key value parsed)

/-! ### Upstreams -/

/-- `reload_forwarder` -/
def reloadForwarder : WebServer Net :=
  let upstreams := if weather.upstreamsRead then s.db.upstreams.values else []
  let number (key : Str) (otherwise : Nat) : Nat :=
    (((s.getSetting weather key).bind Str.parseU64).map UInt64.toNat).getD otherwise
  let timeoutSecs := number "upstream_timeout_secs".toList 5
  let strategy :=
    ((s.getSetting weather "forward_strategy".toList).bind ForwardStrategy.parse).getD .adaptive
  let hedgeDelayMs := number "adaptive_hedge_delay_ms".toList defaultHedgeDelayMs
  { s with
    forwarder :=
      s.forwarder.reload
        (upstreams.map fun row => { address := row.address, port := some row.port })
        timeoutSecs strategy hedgeDelayMs }

/-- `get_upstreams` -/
def getUpstreams : Reply Net :=
  s.guarded env peer
    (.ok (if weather.upstreamsRead then RustBlocker.syncSnapshot s.db .upstreams else .array []), s)

/-- `add_upstream` -/
def addUpstream (address : Str) (port : Option Nat) : Reply Net :=
  s.guarded env peer <|
    let port := port.getD 53
    if port = 0 then (failure 400 "port must be between 1 and 65535".toList, s)
    else
      let inserted : Except DbError UpstreamTable := do
        oneStatement weather.upstream
        match insertUpstream s.db.upstreams { address, port } with
        | some table => return table
        | none => .error (.sql "CHECK constraint failed".toList)
      match dbBlocking weather inserted with
      | .error error => (internalError error, s)
      | .ok upstreams =>
          ({ status := 201, body := .object [("id".toList, .int upstreams.seq)] },
            { s with db := { s.db with upstreams } }.reloadForwarder weather)

/-- `delete_upstream` -/
def deleteUpstream (id : Int) : Reply Net :=
  s.guarded env peer <|
    match oneStatement weather.upstream, s.db.upstreams.find? id.toNat with
    | .ok (), some _ =>
        let upstreams := s.db.upstreams.deleteWhere fun row => row.1 == id.toNat
        (okResponse, { s with db := { s.db with upstreams } }.reloadForwarder weather)
    | _, _ => (notFound, s)

/-! ### Lists

The handlers of both lists are one set of functions, with the list as a parameter. -/

def install (list : DomainList) (store : DomainStore) : WebServer Net :=
  { s with lists := Function.update s.lists list store }

/-- `get_blocklist`, `get_allowlist`: a page of the table, and its size. -/
def getDomains (list : DomainList) : Reply Net :=
  s.guarded env peer
    (reading weather s (.object [("domains".toList, weather.report.2),
      ("total".toList, .int (s.db.domains list).values.length)]))

/-- `add_blocklist_domain`, `add_allowlist_domain` -/
def addDomain (list : DomainList) (domain : Str) : Reply Net :=
  s.guarded env peer <|
    match dbBlocking weather (RustBlocker.addDomain env.caseTables weather.add s.db list domain) with
    | .error error => (internalError error, s)
    | .ok (id, db) =>
        ({ status := 201, body := .object [("id".toList, .int id)] },
          { s with db }.install list
            ((s.lists list).insert env.caseTables env.hash domain).1)

/-- `delete_blocklist_domain`, `delete_allowlist_domain` -/
def deleteDomain (list : DomainList) (id : Int) : Reply Net :=
  s.guarded env peer <|
    match dbBlocking weather (.ok (deleteDomainById weather.delete s.db list id.toNat)) with
    | .error error => (internalError error, s)
    | .ok (db, none) => (notFound, { s with db })
    | .ok (db, some domain) =>
        (okResponse,
          { s with db }.install list
            ((s.lists list).remove env.caseTables env.hash domain weather.order))

/-- `resolve_import_content` -/
def resolveImportContent (content url : Option Str) : Except Str Str :=
  match url, content with
  | some _, _ => weather.fetched
  | none, some content => .ok content
  | none, none => .error "no content or url provided".toList

/-- `bulk_import_blocklist`, `bulk_import_allowlist` -/
def bulkImport (list : DomainList) (content url : Option Str) : Reply Net :=
  s.guarded env peer <|
    match resolveImportContent weather content url with
    | .error error => (failure 400 error, s)
    | .ok content =>
        if content.isEmpty then (failure 400 "empty content".toList, s)
        else
          match dbBlocking weather (RustBlocker.bulkImport env.caseTables env.hash weather.bulk
              s.db list content) with
          | .error error => (internalError error, s)
          | .ok (result, db) =>
              (.ok (.object [("imported".toList, .int result.inserted)]),
                { s with db }.install list
                  ((s.lists list).merge env.hash result.store weather.order))

/-! ### Rewrites -/

/-- `get_rewrites` -/
def getRewrites : Reply Net :=
  s.guarded env peer
    (.ok (match oneStatement weather.select with
      | .ok () => RustBlocker.syncSnapshot s.db .rewrites
      | .error _ => .array []), s)

/-- `add_rewrite` -/
def addRewrite (domain : Str) (ipv4 ipv6 : Option Str) : Reply Net :=
  s.guarded env peer <|
    match dbBlocking weather (dbAddRewrite env.caseTables weather.addRewrite weather.lastRowid s.db
        domain ipv4 ipv6) with
    | .error error => (internalError error, s)
    | .ok (id, db) =>
        ({ status := 201, body := .object [("id".toList, .int id)] },
          { s with db, rewrites := s.rewrites.insert env.caseTables { domain, ipv4, ipv6 } })

/-- `delete_rewrite` -/
def deleteRewrite (id : Int) : Reply Net :=
  s.guarded env peer <|
    match dbBlocking weather (.ok (deleteRewriteById weather.deleteRewrite s.db id.toNat)) with
    | .error error => (internalError error, s)
    | .ok (db, none) => (notFound, { s with db })
    | .ok (db, some row) =>
        (okResponse, { s with db, rewrites := s.rewrites.remove env.caseTables row.domain })

/-! ### Sources

A refresh is the same function for all the routes that end in one; they differ in the sources that
they give it and in what they answer. -/

/-- `get_sources` -/
def getSources : Reply Net :=
  s.guarded env peer (reading weather s (RustBlocker.syncSnapshot s.db .sources))

/-- `refresh_source`: its status. -/
def refreshSource (meets : RefreshWeather) (source : DbSource) : Str × WebServer Net :=
  let out := RustBlocker.refreshSource env.caseTables env.hash meets
    { db := s.db, runtime := s.lists } source
  (out.status, { s with db := out.site.db, lists := out.site.runtime })

/-- `add_source` -/
def addSource (url : Str) (listType : Option Str) (updateIntervalHours : Option Int) :
    Reply Net :=
  s.guarded env peer <|
    let listType := listType.getD "blocklist".toList
    let updateIntervalHours := updateIntervalHours.getD 24
    match dbBlocking weather
        (RustBlocker.addSource weather.addSource s.db url listType updateIntervalHours) with
    | .error error => (internalError error, s)
    | .ok (id, db) =>
        let source := requestedSource id url listType updateIntervalHours
        let (status, refreshed) := { s with db }.refreshSource env (weather.refresh source) source
        ({ status := 201
           body := .object [("id".toList, .int id), ("status".toList, .string status)] },
          refreshed)

/-- `refresh_one_source` -/
def refreshOneSource (id : Int) : Reply Net :=
  s.guarded env peer <|
    match dbBlocking weather (.ok (s.db.getSourceById id.toNat)) with
    | .error error => (internalError error, s)
    | .ok none => (notFound, s)
    | .ok (some source) =>
        let (status, refreshed) := s.refreshSource env (weather.refresh source) source
        (.ok (.object [("id".toList, .int source.id), ("url".toList, .string source.url),
          ("status".toList, .string status)]), refreshed)

/-- `delete_source` -/
def deleteSource (id : Int) : Reply Net :=
  s.guarded env peer <|
    match dbBlocking weather
        (.ok (deleteSourceWithCleanup weather.deleteSource weather.leftover s.db id.toNat)) with
    | .error error => (internalError error, s)
    | .ok (db, none) => (notFound, { s with db })
    | .ok (db, some listType) =>
        let list := DomainList.ofType listType
        (okResponse,
          { s with db }.install list
            (loadDomainStoreFromConn env.caseTables env.hash weather.load weather.scan db list))

/-- The loop of `refresh_all_sources`. -/
def refreshEach : List DbSource → WebServer Net → List Json × WebServer Net
  | [], s => ([], s)
  | source :: later, s =>
      let (status, refreshed) := s.refreshSource env (weather.refresh source) source
      let (results, last) := refreshEach later refreshed
      (.object [("id".toList, .int source.id), ("url".toList, .string source.url),
        ("status".toList, .string status)] :: results, last)

/-- `refresh_all_sources` -/
def refreshAllSources : Reply Net :=
  s.guarded env peer <|
    match dbBlocking weather (oneStatement weather.select) with
    | .error error => (internalError error, s)
    | .ok () =>
        let (results, refreshed) :=
          refreshEach env weather (s.db.getSources.filter fun source => source.enabled) s
        (.ok (.object [("refreshed".toList, .int results.length),
          ("results".toList, .array results)]), refreshed)

/-! ### Statistics -/

/-- `get_stats` -/
def getStats : Reply Net := s.guarded env peer (reading weather s weather.report.2)

/-- `get_query_trend` -/
def getQueryTrend (days : Option UInt64) : Reply Net :=
  s.guarded env peer <|
    if [0, 1, 7, 30].contains (days.getD 1) then reading weather s weather.report.2
    else (failure 400 "days must be 0, 1, 7, or 30".toList, s)

/-- `get_queries` -/
def getQueries : Reply Net := s.guarded env peer (reading weather s weather.report.2)

/-- `clear_stats`: a delete that fails is logged only. -/
def clearStats : Reply Net :=
  s.guarded env peer <|
    match dbBlocking weather (.ok ()) with
    | .error error => (internalError error, s)
    | .ok () =>
        (.ok (.object [("status".toList, .string "cleared".toList)]),
          if weather.clears then { s with loggedQueries := [] } else s)

/-- `live_queries`: a stream. -/
def liveQueries : Reply Net := s.guarded env peer (reporting weather s)

/-- `activity_stream`: a stream. -/
def activityStream : Reply Net := s.guarded env peer (reporting weather s)

/-! ### Replication

What a master shows to its replicas, and how a replica is told of its master.  The latter is
stored like any other setting. -/

/-- `sync_manifest` -/
def syncManifest : Reply Net :=
  s.guarded env peer
    (reading weather s (.object [("hashes".toList, .object (SyncCategory.all.map fun category =>
      (category.name, .string (RustBlocker.syncManifest env.sha s.db category))))]))

/-- `sync_snapshot` -/
def syncSnapshot (category : Str) : Reply Net :=
  s.guarded env peer <|
    match dbBlocking weather (oneStatement weather.select) with
    | .error error => (internalError error, s)
    | .ok () =>
        match SyncCategory.ofName? category with
        | some known => (.ok (RustBlocker.syncSnapshot s.db known), s)
        | none => (failure 404 ("unknown category: ".toList ++ category), s)

/-- `get_sync_config` -/
def getSyncConfig : Reply Net :=
  s.guarded env peer
    (.ok (.object [
      ("enabled".toList, .bool (s.getSetting weather "sync_enabled".toList == some "true".toList)),
      ("master_url".toList, .string ((s.getSetting weather "sync_master".toList).getD [])),
      ("password_set".toList,
        .bool (!((s.getSetting weather "sync_password".toList).getD []).isEmpty)),
      ("interval_secs".toList, .int
        ((((s.getSetting weather "sync_interval_secs".toList).bind Str.parseU64).getD 30).toNat))]),
      s)

/-- `put_sync_config` -/
def putSyncConfig (enabled : Bool) (masterUrl password : Str) (intervalSecs : UInt64) :
    Reply Net :=
  s.guarded env peer <|
    let stored :=
      ((s.storeSetting weather "sync_enabled".toList
          (if enabled then "true".toList else "false".toList)).storeSetting weather
        "sync_master".toList masterUrl).storeSetting weather
        "sync_interval_secs".toList (decimal intervalSecs.toNat)
    (.ok (.object [("ok".toList, .bool true), ("restart_required".toList, .bool true)]),
      if password.isEmpty then stored
      else stored.storeSetting weather "sync_password".toList password)

/-- `get_sync_status` -/
def getSyncStatus : Reply Net := s.guarded env peer (reporting weather s)

/-- `verify_sync_connection`: a login at the master. -/
def verifySyncConnection (password : Option Str) : Reply Net :=
  s.guarded env peer <|
    let missing := (password.getD []).isEmpty &&
      ((s.getSetting weather "sync_password".toList).getD []).isEmpty
    if missing then
      (.ok (.object [("ok".toList, .bool false),
        ("error".toList, .string "No password provided".toList)]), s)
    else reporting weather s

/-! ### Certificates -/

/-- The task that orders a certificate. -/
def orderCertificate (domain : Str) : WebServer Net :=
  let started := s.storeSetting weather "acme_error".toList []
  match weather.ordered with
  | .ok certificate =>
      ({ started with
        certificates := started.certificates.insert domain certificate }.storeSetting weather
        "acme_error".toList []).scheduleRestart
  | .error error => started.storeSetting weather "acme_error".toList error

/-- `request_certificate` and `renew_certificate`: they check two settings and start the
task. -/
def startOrder (message domain : Str) : Reply Net :=
  s.guarded env peer <|
    if ((s.getSetting weather "cloudflare_api_token".toList).getD []).isEmpty then
      (failure 400 "Cloudflare API token not configured".toList, s)
    else if ((s.getSetting weather "acme_email".toList).getD []).isEmpty then
      (failure 400 "ACME email not configured".toList, s)
    else
      ({ status := 202
         body := .object [("message".toList, .string message), ("domain".toList, .string domain),
           ("op_id".toList, weather.report.2)] },
        s.orderCertificate weather domain)

/-- `request_certificate` -/
def requestCertificate (domain : Str) : Reply Net :=
  s.startOrder env weather peer "Certificate request started".toList domain

/-- `renew_certificate` -/
def renewCertificate (domain : Str) : Reply Net :=
  s.startOrder env weather peer "Certificate renewal started".toList domain

/-- `certificate_status` -/
def certificateStatus : Reply Net := s.guarded env peer (reporting weather s)

/-- `test_cloudflare_connection` -/
def testCloudflareConnection : Reply Net := s.guarded env peer (reporting weather s)

end WebServer

end Handlers

/-! ## The service

Middleware and routing together: what is public, what needs a session, and which handler is
reached. Every result about requests begins here. -/

section Service

variable {Net : Type} (env : ApiEnv Net) (weather : ApiWeather)

/-- The handler of a call. -/
def WebServer.handle (s : WebServer Net) (request : ApiRequest) : Reply Net :=
  let peer := request.peer
  match request.call with
  | .health => s.health
  | .getVersion => s.getVersion weather
  | .getDnsConcurrency => s.getDnsConcurrency env weather peer
  | .authCheck => s.authCheck env weather request.cookie
  | .login password => s.login env weather peer password
  | .logout => s.logout
  | .changePassword current new => s.changePassword env weather current new
  | .checkUpdate => s.checkUpdate env weather peer
  | .applyUpdate => s.applyUpdate env weather peer
  | .getSettings => s.getSettings env weather peer
  | .updateSetting key value => s.updateSetting env weather peer key value
  | .getUpstreams => s.getUpstreams env weather peer
  | .addUpstream address port => s.addUpstream env weather peer address port
  | .deleteUpstream id => s.deleteUpstream env weather peer id
  | .getDomains list => s.getDomains env weather peer list
  | .addDomain list domain => s.addDomain env weather peer list domain
  | .deleteDomain list id => s.deleteDomain env weather peer list id
  | .bulkImport list content url => s.bulkImport env weather peer list content url
  | .getRewrites => s.getRewrites env weather peer
  | .addRewrite domain ipv4 ipv6 => s.addRewrite env weather peer domain ipv4 ipv6
  | .deleteRewrite id => s.deleteRewrite env weather peer id
  | .getSources => s.getSources env weather peer
  | .addSource url listType hours => s.addSource env weather peer url listType hours
  | .refreshOneSource id => s.refreshOneSource env weather peer id
  | .deleteSource id => s.deleteSource env weather peer id
  | .refreshAllSources => s.refreshAllSources env weather peer
  | .getStats => s.getStats env weather peer
  | .getQueryTrend days => s.getQueryTrend env weather peer days
  | .getQueries => s.getQueries env weather peer
  | .clearStats => s.clearStats env weather peer
  | .liveQueries => s.liveQueries env weather peer
  | .restartServer => s.restartServer env peer
  | .syncManifest => s.syncManifest env weather peer
  | .syncSnapshot category => s.syncSnapshot env weather peer category
  | .getSyncConfig => s.getSyncConfig env weather peer
  | .putSyncConfig enabled masterUrl password secs =>
      s.putSyncConfig env weather peer enabled masterUrl password secs
  | .getSyncStatus => s.getSyncStatus env weather peer
  | .verifySyncConnection _ password => s.verifySyncConnection env weather peer password
  | .requestCertificate domain _ => s.requestCertificate env weather peer domain
  | .renewCertificate domain _ => s.renewCertificate env weather peer domain
  | .certificateStatus => s.certificateStatus env weather peer
  | .activityStream => s.activityStream env weather peer
  | .testCloudflareConnection _ => s.testCloudflareConnection env weather peer

/-- The middleware lets the request through to its handler. -/
def WebServer.admits (s : WebServer Net) (request : ApiRequest) : Bool :=
  isPublicPath request.call.path || s.authed env weather request.cookie

/-- The service of `AuthMiddleware` and the routes behind it.  A request that is not admitted does
not reach its handler. -/
def WebServer.serve (s : WebServer Net) (request : ApiRequest) : Reply Net :=
  if s.admits env weather request then s.handle env weather request
  else (failure 401 "unauthorized".toList, s)

end Service

end RustBlocker
