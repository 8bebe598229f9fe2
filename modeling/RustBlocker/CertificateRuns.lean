import RustBlocker.Certificates
import RustBlocker.Genpass
import RustBlocker.Library.Histories
import RustBlocker.Library.Tasks

/-!
# Certificates over the life of a server

Certificates come from three places: tasks that a request starts, the background task that renews
what expires, and, for the server itself, the database at its start.

* **Requests** read the settings and leave the rest to a task, which clears the error of the last
  order, orders and stores, and reports what came of it.  Any number of tasks run at a time.
* **The background task** runs if there was a domain at the start.  A check lists what expires,
  and then takes one domain after the other.
* **A start** loads the certificate that is served.  Nothing loads it again: a request restarts
  the process, which ends everything that runs in it.
* **Everything else** that is written to the database leaves `certificates` alone.

`certificates_of_exec` says what holds in every state of a run, and `unexpired_of_exec` when the
checks come in time.

### What a row is compared with

That a stored row is whole, its key, its chain and its expiry from one order, can be said of a
row alone only by claiming that such an order is possible, which is true of almost any row.  So
the orders of a run are noted as they are placed (`CertificateServer.places`), each with what it
meets, and the rows are compared with these: `Yields` puts one row after the other against the
orders that ended well, in the order in which they did.  The starts are noted in the same way,
with the database as the start found it.

### The account of the checks

`missed` counts, for a domain, the checks since its certificate was known to be good for the
threshold: since it was stored, or since a check did not list it.  A domain about which neither
is known has no count, and nothing is claimed of it.  What a missed check costs is the time until
the next one, and `Timely` is the condition that bounds it: the clock does not go back, checks
follow each other in time, and what is stored is good for longer than the threshold.
-/

namespace RustBlocker

def acmeErrorKey : Str := "acme_error".toList

def domainKey : Str := "domain".toList

/-! ## Serving -/

/-- What a start meets when it loads the certificate: the settings that can be read, and the read
of the row. -/
structure ServeWeather where
  reads : Bool := true
  readTask : Bool := true
  read : Plan StatementCall := .clear
  now : Int

section Serving

-- `load_rustls_config`, of a key and a chain, by the TLS library
variable {Config : Type} (load : Bytes → Bytes → Except Str Config)

/-- The end of `get_tls_config_from_db`, with the certificate that is stored. -/
def loadStored (now : Int) : Option (Bytes × Bytes × Int) → Except Str (Option Config)
  | none => .ok none
  | some (privateKey, certificate, expiresAt) =>
      if expiresAt ≤ now then .ok none
      else (context "failed to load TLS config from database".toList
        (load privateKey certificate)).map some

/-- `get_tls_config_from_db` -/
def getTlsConfigFromDb (weather : ServeWeather) (db : CertificateDb) (domain : Str) :
    Except Str (Option Config) :=
  if weather.readTask then do
    let stored ← context "failed to query certificate".toList
      (db.getCertificate weather.read domain)
    loadStored load weather.now stored
  else .error "database task failed".toList

/-- What `main` serves HTTPS with. -/
def httpsConfig (forceHttp : Bool) (weather : ServeWeather) (db : CertificateDb) : Option Config :=
  if forceHttp then none
  else
    match db.getSetting weather.reads domainKey with
    | none => none
    | some domain => ((getTlsConfigFromDb load weather db domain).toOption).join

end Serving

/-! ## The server

Orders of requests, the checks of the background task and the starts of the process, each cut at
the calls between which another one may come.  What the server keeps in memory and what is in the
database are told apart, as a start forgets the former. -/

/-- What the task of a request does next: clear the error of the last attempt, order, or report
how that went. -/
inductive OrderPoint where
  | clear
  | order
  | report (result : Except Str Unit)

/-- A task that a request has started.  It runs beside the server, and several may run at once,
also for one domain. -/
structure OrderTask where
  domain : Str
  settings : CertificateSettings
  point : OrderPoint := .clear

/-- The error of the last attempt is gone. -/
def OrderTask.cleared (task : OrderTask) : Bool :=
  match task.point with
  | .clear => false
  | _ => true

/-- The certificate is stored. -/
def OrderTask.stored (task : OrderTask) : Bool :=
  match task.point with
  | .report (.ok ()) => true
  | _ => false

/-- The server, as far as it has to do with certificates.  What a start keeps is the database; the
fields from `issued` on are an account of the run. -/
structure CertificateServer (Config : Type) where
  db : CertificateDb
  tasks : List OrderTask := []
  /-- What HTTPS is served with. -/
  served : Option Config := none
  /-- The process is about to exit, and to be started again. -/
  restarting : Bool := false
  /-- The background task runs. -/
  renewing : Bool := false
  /-- The domains of the check that are still to be renewed. -/
  pending : List Str := []
  /-- The domain that is being renewed, with the settings that were read for it. -/
  ordering : Option (Str × CertificateSettings) := none
  /-- The rows stored so far.  This field and the ones below are read by no step. -/
  issued : List CertificateRow := []
  /-- The error of the task that reported last, or nothing where its order succeeded. -/
  ended : Str := []
  /-- A restart has ended a task between its first write and its last, and no task has reported
  since: what is shown is then the error that nobody is going to overwrite. -/
  interrupted : Bool := false
  /-- The database as the last start found it. -/
  started : CertificateDb := db
  /-- The domains that the background task has renewed since the last start. -/
  renewed : List Str := []
  /-- The time of the last event that has one. -/
  now : Int := 0
  /-- The time of the last check. -/
  checked : Int := 0
  /-- How many checks there were since the certificate of a domain was known to be good for as
  long as the threshold; nothing where that was never known. -/
  missed : Str → Option Nat := fun _ => none

/-- What can happen: an event is one step of one task, or of the background task, or a start. -/
inductive CertificateEvent where
  /-- A start of the process. -/
  | start (forceHttp : Bool) (weather : ServeWeather)
  /-- Any other change of the database. -/
  | write (change : Db → Db)
  | request (reads : Str → Bool) (wildcard : Bool) (domain : Str)
  /-- A task that a request has started clears the error. -/
  | clear (index : Nat) (set : Plan StatementCall)
  | order (index : Nat) (now : Int) (issue : IssueWeather) (store : Plan StatementCall)
  | report (index : Nat) (set : Plan StatementCall)
  | check (now : Int) (listTask : Bool) (list : Plan StatementCall)
  /-- The background task reads the settings for the next domain. -/
  | settings (settingsTask : Bool) (reads : Str → Bool)
  | renew (now : Int) (issue : IssueWeather) (storeTask : Bool) (store : Plan StatementCall)

/-- The text in which an outcome is kept. -/
def outcomeText : Except Str Unit → Str
  | .ok () => []
  | .error error => error

namespace CertificateServer

variable {Config : Type} (s : CertificateServer Config)

/-- `set_setting` of `acme_error`; a failure is logged only. -/
def setAcmeError (set : Plan StatementCall) (text : Str) : CertificateServer Config :=
  match s.db.trySetSetting set acmeErrorKey text with
  | .ok db => { s with db := { s.db with toDb := db } }
  | .error _ => s

/-- A certificate is stored. -/
def store (now : Int) (row : CertificateRow) : CertificateServer Config :=
  { s with
    db := s.db.putCertificate row
    issued := s.issued ++ [row]
    now
    missed := fun domain => if domain = row.domain then some 0 else s.missed domain }

/-- `main`, with a fresh process. -/
def start (load : Bytes → Bytes → Except Str Config) (forceHttp : Bool) (weather : ServeWeather) :
    CertificateServer Config :=
  { s with
    tasks := []
    served := httpsConfig load forceHttp weather s.db
    restarting := false
    renewing := !forceHttp && (s.db.getSetting weather.reads domainKey).isSome
    pending := []
    ordering := none
    interrupted := s.interrupted || s.tasks.any OrderTask.cleared
    started := s.db
    renewed := []
    now := weather.now }

/-- `request_certificate` and `renew_certificate`, up to the task that they start. -/
def request (reads : Str → Bool) (wildcard : Bool) (domain : Str) : CertificateServer Config :=
  match s.db.requestSettings reads wildcard with
  | .error _ => s
  | .ok settings => { s with tasks := s.tasks ++ [{ domain, settings }] }

/-- A check has listed `expiring`, or it has failed to. -/
def check (now : Int) (expiring : Except Str (List Str)) : CertificateServer Config :=
  match expiring with
  | .error _ =>
      { s with
        now
        checked := now
        missed := fun domain => (s.missed domain).map (· + 1) }
  | .ok expiring =>
      { s with
        pending := expiring
        now
        checked := now
        missed := fun domain =>
          if expiring.contains domain then (s.missed domain).map (· + 1) else some 0 }

/-- The start of `renew_certificate_for_domain`, for the next domain. -/
def readSettings (settingsTask : Bool) (reads : Str → Bool) : Option (CertificateServer Config) :=
  match s.pending, s.ordering with
  | domain :: pending, none =>
      match joined settingsTask, s.db.renewalSettings reads with
      | .ok (), .ok settings => some { s with pending, ordering := some (domain, settings) }
      | _, _ => some { s with pending }
  | _, _ => none

/-- The rest of `renew_certificate_for_domain`. -/
def renew (expiry : Bytes → Except Str Int) (now : Int) (issue : IssueWeather) (storeTask : Bool)
    (store : Plan StatementCall) : Option (CertificateServer Config) :=
  match s.ordering with
  | none => none
  | some (domain, settings) =>
      match issuedRow expiry issue (joined storeTask) store now settings domain with
      | .error _ => some { s with now, ordering := none }
      | .ok row =>
          some { s.store now row with ordering := none, renewed := s.renewed ++ [domain] }

end CertificateServer

section Machine

variable {Config : Type} (load : Bytes → Bytes → Except Str Config)
  (expiry : Bytes → Except Str Int) (thresholdDays : Int)

/-- **One event.** -/
def CertificateServer.step (s : CertificateServer Config) :
    CertificateEvent → Option (CertificateServer Config)
  | .start forceHttp weather => some (s.start load forceHttp weather)
  | .write change => some { s with db := { s.db with toDb := change s.db.toDb } }
  | .request reads wildcard domain => some (s.request reads wildcard domain)
  | .clear index set => do
      let task ← s.tasks[index]?
      match task.point with
      | .clear =>
          some { s.setAcmeError set [] with
            tasks := s.tasks.set index { task with point := .order } }
      | _ => none
  | .order index now issue store => do
      let task ← s.tasks[index]?
      match task.point with
      | .order =>
          match issuedRow expiry issue (.ok ()) store now task.settings task.domain with
          | .error error =>
              some { s with
                now
                tasks := s.tasks.set index { task with point := .report (.error error) } }
          | .ok row =>
              some { s.store now row with
                tasks := s.tasks.set index { task with point := .report (.ok ()) } }
      | _ => none
  | .report index set => do
      let task ← s.tasks[index]?
      match task.point with
      | .report result =>
          some { s.setAcmeError set (outcomeText result) with
            tasks := s.tasks.eraseIdx index
            restarting := s.restarting || result.isOk
            ended := outcomeText result
            interrupted := false }
      | _ => none
  | .check now listTask list =>
      if s.renewing ∧ s.pending = [] ∧ s.ordering.isNone then
        some (s.check now (listExpiring listTask list now s.db thresholdDays))
      else none
  | .settings settingsTask reads => s.readSettings settingsTask reads
  | .renew now issue storeTask store => s.renew expiry now issue storeTask store

end Machine

/-! ## What an event can do

The step function turned round: one constructor for each way in which an event can change the
server, with everything that is known of it.  The proofs below go by these cases. -/

section Events

variable {Config : Type} (load : Bytes → Bytes → Except Str Config)
  (expiry : Bytes → Except Str Int) (thresholdDays : Int)

/-- **What an event does.**  There is a case for each way in which a step can end, with what it
has read and written. -/
inductive CertificateServer.Does (s : CertificateServer Config) :
    CertificateEvent → CertificateServer Config → Prop
  | start (forceHttp : Bool) (weather : ServeWeather) :
      s.Does (.start forceHttp weather) (s.start load forceHttp weather)
  | write (change : Db → Db) :
      s.Does (.write change) { s with db := { s.db with toDb := change s.db.toDb } }
  | request (reads : Str → Bool) (wildcard : Bool) (domain : Str) :
      s.Does (.request reads wildcard domain) (s.request reads wildcard domain)
  | clear {index : Nat} {set : Plan StatementCall} {task : OrderTask}
      (here : s.tasks[index]? = some task) (point : task.point = .clear) :
      s.Does (.clear index set) { s.setAcmeError set [] with
        tasks := s.tasks.set index { task with point := .order } }
  | fail {index : Nat} {now : Int} {issue : IssueWeather} {store : Plan StatementCall}
      {task : OrderTask} {error : Str} (here : s.tasks[index]? = some task)
      (point : task.point = .order)
      (failed : issuedRow expiry issue (.ok ()) store now task.settings task.domain =
        .error error) :
      s.Does (.order index now issue store) { s with
        now
        tasks := s.tasks.set index { task with point := .report (.error error) } }
  | order {index : Nat} {now : Int} {issue : IssueWeather} {store : Plan StatementCall}
      {task : OrderTask} {row : CertificateRow} (here : s.tasks[index]? = some task)
      (point : task.point = .order)
      (issued : issuedRow expiry issue (.ok ()) store now task.settings task.domain = .ok row) :
      s.Does (.order index now issue store) { s.store now row with
        tasks := s.tasks.set index { task with point := .report (.ok ()) } }
  | report {index : Nat} {set : Plan StatementCall} {task : OrderTask} {result : Except Str Unit}
      (here : s.tasks[index]? = some task) (point : task.point = .report result) :
      s.Does (.report index set) { s.setAcmeError set (outcomeText result) with
        tasks := s.tasks.eraseIdx index
        restarting := s.restarting || result.isOk
        ended := outcomeText result
        interrupted := false }
  | check {now : Int} {listTask : Bool} {list : Plan StatementCall} :
      s.Does (.check now listTask list)
        (s.check now (listExpiring listTask list now s.db thresholdDays))
  | settings {settingsTask : Bool} {reads : Str → Bool} (pending : List Str)
      (ordering : Option (Str × CertificateSettings)) :
      s.Does (.settings settingsTask reads) { s with pending, ordering }
  | keep {now : Int} {issue : IssueWeather} {storeTask : Bool} {store : Plan StatementCall}
      {domain : Str} {settings : CertificateSettings} {error : Str}
      (ordered : s.ordering = some (domain, settings))
      (failed : issuedRow expiry issue (joined storeTask) store now settings domain =
        .error error) :
      s.Does (.renew now issue storeTask store) { s with now, ordering := none }
  | renew {now : Int} {issue : IssueWeather} {storeTask : Bool} {store : Plan StatementCall}
      {domain : Str} {settings : CertificateSettings} {row : CertificateRow}
      (ordered : s.ordering = some (domain, settings))
      (issued : issuedRow expiry issue (joined storeTask) store now settings domain = .ok row) :
      s.Does (.renew now issue storeTask store)
        { s.store now row with ordering := none, renewed := s.renewed ++ [domain] }

variable {load expiry thresholdDays} {s t : CertificateServer Config}

namespace CertificateServer

theorem does_of_step {event : CertificateEvent}
    (stepped : s.step load expiry thresholdDays event = some t) :
    s.Does load expiry thresholdDays event t := by
  cases event with
  | start forceHttp weather =>
      obtain rfl := Option.some.inj stepped
      exact .start forceHttp weather
  | write change =>
      obtain rfl := Option.some.inj stepped
      exact .write change
  | request reads wildcard domain =>
      obtain rfl := Option.some.inj stepped
      exact .request reads wildcard domain
  | clear index set =>
      obtain ⟨task, here, stepped⟩ := Option.bind_eq_some_iff.mp stepped
      split at stepped
      next point =>
        obtain rfl := Option.some.inj stepped
        exact .clear here point
      next => cases stepped
  | order index now issue store =>
      obtain ⟨task, here, stepped⟩ := Option.bind_eq_some_iff.mp stepped
      split at stepped
      next point =>
        split at stepped
        next error failed =>
          obtain rfl := Option.some.inj stepped
          exact .fail here point failed
        next row issued =>
          obtain rfl := Option.some.inj stepped
          exact .order here point issued
      next => cases stepped
  | report index set =>
      obtain ⟨task, here, stepped⟩ := Option.bind_eq_some_iff.mp stepped
      split at stepped
      next result point =>
        obtain rfl := Option.some.inj stepped
        exact .report here point
      next => cases stepped
  | check now listTask list =>
      obtain ⟨-, stepped⟩ := Option.ite_none_right_eq_some.mp stepped
      obtain rfl := Option.some.inj stepped
      exact .check
  | settings settingsTask reads =>
      change s.readSettings settingsTask reads = some t at stepped
      unfold readSettings at stepped
      split at stepped
      next domain pending waits idle =>
        split at stepped
        next settings ran read =>
          obtain rfl := Option.some.inj stepped
          exact .settings pending (some (domain, settings))
        next =>
          obtain rfl := Option.some.inj stepped
          exact .settings pending s.ordering
      next => cases stepped
  | renew now issue storeTask store =>
      change s.renew expiry now issue storeTask store = some t at stepped
      unfold CertificateServer.renew at stepped
      split at stepped
      next => cases stepped
      next domain settings ordered =>
        split at stepped
        next error failed =>
          obtain rfl := Option.some.inj stepped
          exact .keep ordered failed
        next row issued =>
          obtain rfl := Option.some.inj stepped
          exact .renew ordered issued

/-- The write of an error changes the settings or nothing. -/
theorem setAcmeError_cases (s : CertificateServer Config) (set : Plan StatementCall) (text : Str) :
    ∃ db, s.setAcmeError set text = { s with db := { s.db with toDb := db } } ∧
      (oneStatement set = .ok () → db = s.db.setSetting acmeErrorKey text) := by
  unfold setAcmeError
  split
  next db stored =>
    obtain ⟨-, rfl⟩ := trySetSetting_eq_ok.mp stored
    exact ⟨_, rfl, fun _ => rfl⟩
  next error failed =>
    refine ⟨s.db.toDb, rfl, fun writes => ?_⟩
    rw [trySetSetting_eq_ok.mpr ⟨writes, rfl⟩] at failed
    cases failed

end CertificateServer

end Events

/-! ## What is noted of a run -/

/-- An order as it is placed, by a task of a request or by the background task. -/
structure PlacedOrder where
  domain : Str
  settings : CertificateSettings
  issue : IssueWeather
  /-- What becomes of the task that stores the certificate, and of its statement. -/
  storeTask : Except Str Unit
  store : Plan StatementCall
  now : Int
  /-- The background task has placed it. -/
  background : Bool

/-- The key and the chain that the order comes to. -/
def PlacedOrder.pair (order : PlacedOrder) : Except Str (Bytes × Bytes) :=
  let manager : AcmeManager :=
    { directoryUrl := order.settings.directoryUrl, email := order.settings.email }
  (manager.orderCertificate order.domain order.settings.wildcard order.issue.order).1

/-- A start of the process, with the database as it finds it. -/
structure ServerStart where
  forceHttp : Bool
  weather : ServeWeather
  db : CertificateDb

namespace CertificateServer

variable {Config : Type} (s : CertificateServer Config)

/-- The order that an event places. -/
def places : CertificateEvent → Option PlacedOrder
  | .order index now issue store => s.tasks[index]?.map fun task =>
      { domain := task.domain, settings := task.settings, issue, storeTask := .ok (), store, now
        background := false }
  | .renew now issue storeTask store => s.ordering.map fun ordering =>
      { domain := ordering.1, settings := ordering.2, issue, storeTask := joined storeTask, store
        now, background := true }
  | _ => none

def starts : CertificateEvent → Option ServerStart
  | .start forceHttp weather => some { forceHttp, weather, db := s.db }
  | _ => none

end CertificateServer

/-! ## What is stored, and what is served

The row of a domain is that of the last order for it that ended well and was stored, with its key,
its chain and its expiry.  The account lists the orders and starts of the run, and its three parts
are carried along separately. -/

/-- **The row of an order that ended well**, with all that it holds from this one order. -/
structure RowOf (expiry : Bytes → Except Str Int) (order : PlacedOrder) (row : CertificateRow) :
    Prop where
  client : order.issue.client = .ok ()
  /-- The key that is stored is the one that the chain was ordered for. -/
  pair : order.pair = .ok (row.privateKey, row.certificate)
  /-- The expiry is that of this chain. -/
  expiresAt : expiry row.certificate = .ok row.expiresAt
  storeTask : order.storeTask = .ok ()
  store : oneStatementText order.store = .ok ()
  domain : row.domain = order.domain
  issuedAt : row.issuedAt = order.now
  lastRenewed : row.lastRenewed = some order.now

/-- **Orders and the rows that they came to**, one after the other: an order has its row, or it
failed somewhere and there is none. -/
inductive Yields (expiry : Bytes → Except Str Int) :
    List PlacedOrder → List CertificateRow → Prop
  | nil : Yields expiry [] []
  | stored {orders : List PlacedOrder} {rows : List CertificateRow} {order : PlacedOrder}
      {row : CertificateRow} (before : Yields expiry orders rows) (one : RowOf expiry order row) :
      Yields expiry (orders ++ [order]) (rows ++ [row])
  | failed {orders : List PlacedOrder} {rows : List CertificateRow} {order : PlacedOrder}
      (before : Yields expiry orders rows) (fails : ∀ row, ¬ RowOf expiry order row) :
      Yields expiry (orders ++ [order]) rows

/-- **HTTPS is served** with what is loaded of a certificate: of the one that was stored for the
domain when the server started, and had not expired then. -/
structure ServerStart.Serves {Config : Type} (load : Bytes → Bytes → Except Str Config)
    (start : ServerStart) (config : Config) : Prop where
  https : start.forceHttp = false
  read : start.weather.readTask = true ∧ oneStatementText start.weather.read = .ok ()
  loaded : ∃ domain row, start.db.getSetting start.weather.reads domainKey = some domain ∧
    start.db.certificates.lookup domain = some row ∧ start.weather.now < row.expiresAt ∧
    load row.privateKey row.certificate = .ok config

/-- **The certificates are what the orders came to**, from the database `initial` on, in a run
with these orders and starts. -/
structure CertificatesKept {Config : Type} (load : Bytes → Bytes → Except Str Config)
    (expiry : Bytes → Except Str Int) (initial : CertificateDb) (orders : List PlacedOrder)
    (starts : List ServerStart) (s : CertificateServer Config) : Prop where
  /-- A domain has the certificate that was stored last. -/
  lookup : ∀ domain, s.db.certificates.lookup domain =
    (s.issued.filter (·.domain = domain)).getLast?.or (initial.certificates.lookup domain)
  /-- What was stored are the rows of the orders, each of its own. -/
  issued : Yields expiry orders s.issued
  /-- HTTPS is served with what was there at the last start, -/
  served : ∀ config, s.served = some config ↔
    ∃ start, starts.getLast? = some start ∧ start.Serves load config
  started : s.started = (starts.getLast?.map ServerStart.db).getD initial
  /-- and where that is not what is there now, the server restarts, or is about to, or the
  background task has renewed. -/
  unserved : ∀ domain,
    s.db.certificates.lookup domain ≠ s.started.certificates.lookup domain →
      s.restarting = true ∨ (∃ task ∈ s.tasks, task.domain = domain ∧ task.stored = true) ∨
        domain ∈ s.renewed
  /-- The background task renews with orders of its own. -/
  renewed : ∀ domain ∈ s.renewed, ∃ order ∈ orders, order.background = true ∧
    order.domain = domain ∧ ∃ row ∈ s.issued, RowOf expiry order row

section Runs

variable {Config : Type} {load : Bytes → Bytes → Except Str Config}
  {expiry : Bytes → Except Str Int} {thresholdDays : Int} {initial : CertificateDb}
  {s t : CertificateServer Config} {event : CertificateEvent}

/-- The machine. -/
def certificateMachine (load : Bytes → Bytes → Except Str Config)
    (expiry : Bytes → Except Str Int) (thresholdDays : Int) :
    StateMachine (CertificateServer Config) CertificateEvent where
  init s := s = { db := s.db, ended := s.ended, now := s.now, checked := s.checked }
  step s := s.step load expiry thresholdDays

/-- What is stored is the row of the order. -/
theorem rowOf_iff {order : PlacedOrder} {row : CertificateRow} :
    RowOf expiry order row ↔
      issuedRow expiry order.issue order.storeTask order.store order.now order.settings
        order.domain = .ok row := by
  constructor
  · rintro ⟨client, pair, expiresAt, storeTask, store, domain, issuedAt, lastRenewed⟩
    obtain ⟨⟨privateKey, certificate, _, expiry'⟩, _, renewedAt⟩ := row
    obtain rfl : _ = order.domain := domain
    obtain rfl : _ = order.now := issuedAt
    obtain rfl : renewedAt = some order.now := lastRenewed
    unfold issuedRow
    refine bind_eq_ok.mpr ⟨(privateKey, certificate, expiry'), ?_, ?_⟩
    · refine bind_eq_ok.mpr ⟨(), client, bind_eq_ok.mpr ⟨(privateKey, certificate), pair, ?_⟩⟩
      exact bind_eq_ok.mpr ⟨expiry', expiresAt, rfl⟩
    · refine bind_eq_ok.mpr ⟨(), storeTask, ?_⟩
      rw [store]
      rfl
  · intro issued
    obtain ⟨⟨privateKey, certificate, expiresAt⟩, obtained, issued⟩ := bind_eq_ok.mp issued
    obtain ⟨⟨⟩, storeTask, issued⟩ := bind_eq_ok.mp issued
    obtain ⟨⟨⟩, client, obtained⟩ := bind_eq_ok.mp obtained
    obtain ⟨⟨privateKey', certificate'⟩, pair, obtained⟩ := bind_eq_ok.mp obtained
    obtain ⟨expiresAt', expires, obtained⟩ := bind_eq_ok.mp obtained
    cases obtained
    split at issued
    next => cases issued
    next store =>
      obtain rfl := Except.ok.inj issued
      exact ⟨client, pair, expires, storeTask, store, rfl, rfl, rfl⟩

/-- The row that the task of a request stores. -/
theorem rowOf_of_order {issue : IssueWeather} {store : Plan StatementCall} {now : Int}
    {task : OrderTask} {row : CertificateRow}
    (issued : issuedRow expiry issue (.ok ()) store now task.settings task.domain = .ok row) :
    RowOf expiry { domain := task.domain, settings := task.settings, issue, storeTask := .ok ()
                   store, now, background := false } row :=
  rowOf_iff.mpr issued

/-- The row that the background task stores. -/
theorem rowOf_of_renewal {issue : IssueWeather} {storeTask : Bool} {store : Plan StatementCall}
    {now : Int} {domain : Str} {settings : CertificateSettings} {row : CertificateRow}
    (issued : issuedRow expiry issue (joined storeTask) store now settings domain = .ok row) :
    RowOf expiry { domain, settings, issue, storeTask := joined storeTask, store, now
                   background := true } row :=
  rowOf_iff.mpr issued

theorem not_rowOf_of_error {order : PlacedOrder} {error : Str}
    (failed : issuedRow expiry order.issue order.storeTask order.store order.now order.settings
      order.domain = .error error) (row : CertificateRow) : ¬ RowOf expiry order row := by
  intro one
  rw [rowOf_iff.mp one] at failed
  cases failed

theorem loadStored_eq_some {now : Int} {stored : Option (Bytes × Bytes × Int)} {config : Config} :
    loadStored load now stored = .ok (some config) ↔
      ∃ privateKey certificate expiresAt, stored = some (privateKey, certificate, expiresAt) ∧
        now < expiresAt ∧ load privateKey certificate = .ok config := by
  rcases stored with - | ⟨privateKey, certificate, expiresAt⟩
  · simp [loadStored]
  · constructor
    · intro serves
      refine ⟨privateKey, certificate, expiresAt, rfl, ?_⟩
      dsimp only [loadStored] at serves
      split at serves
      next => cases serves
      next fresh =>
        refine ⟨not_le.mp fresh, ?_⟩
        rcases loaded : load privateKey certificate with error | config'
        · rw [loaded] at serves
          cases serves
        · rw [loaded] at serves
          cases serves
          rfl
    · rintro ⟨_, _, _, same, fresh, loaded⟩
      obtain ⟨rfl, rfl, rfl⟩ : _ = _ ∧ _ = _ ∧ _ = _ := by simpa using same
      dsimp only [loadStored]
      rw [if_neg (not_le.mpr fresh), loaded]
      rfl

theorem getTlsConfigFromDb_eq_some {weather : ServeWeather} {db : CertificateDb} {domain : Str}
    {config : Config} :
    getTlsConfigFromDb load weather db domain = .ok (some config) ↔
      weather.readTask = true ∧ oneStatementText weather.read = .ok () ∧
        ∃ row, db.certificates.lookup domain = some row ∧ weather.now < row.expiresAt ∧
          load row.privateKey row.certificate = .ok config := by
  unfold getTlsConfigFromDb
  by_cases task : weather.readTask = true
  · rw [if_pos task, bind_eq_ok]
    simp only [context_eq_ok, loadStored_eq_some, task, true_and]
    constructor
    · rintro ⟨stored, read, privateKey, certificate, expiresAt, rfl, fresh, loaded⟩
      obtain ⟨⟨⟩, opens, read⟩ := bind_eq_ok.mp read
      obtain ⟨row, found, same⟩ := Option.map_eq_some_iff.mp (Except.ok.inj read)
      cases same
      exact ⟨opens, row, found, fresh, loaded⟩
    · rintro ⟨opens, row, found, fresh, loaded⟩
      refine ⟨_, bind_eq_ok.mpr ⟨(), opens, rfl⟩, row.privateKey, row.certificate,
        row.expiresAt, ?_, fresh, loaded⟩
      rw [found]
      rfl
  · simp [task]

/-- **What HTTPS is served with**, when the server starts. -/
theorem httpsConfig_eq_some {start : ServerStart} {config : Config} :
    httpsConfig load start.forceHttp start.weather start.db = some config ↔
      start.Serves load config := by
  have joined (result : Except Str (Option Config)) :
      result.toOption.join = some config ↔ result = .ok (some config) := by
    rcases result with error | - | config' <;> simp [Except.toOption]
  unfold httpsConfig
  constructor
  · intro serves
    split at serves
    next => cases serves
    next https =>
      split at serves
      next => cases serves
      next domain configured =>
        obtain ⟨task, read, row, found, fresh, loaded⟩ :=
          getTlsConfigFromDb_eq_some.mp ((joined _).mp serves)
        exact ⟨Bool.eq_false_iff.mpr https, ⟨task, read⟩, domain, row, configured, found, fresh,
          loaded⟩
  · rintro ⟨https, ⟨task, read⟩, domain, row, configured, found, fresh, loaded⟩
    simp only [https, Bool.false_eq_true, if_false, configured]
    exact (joined _).mpr (getTlsConfigFromDb_eq_some.mpr ⟨task, read, row, found, fresh, loaded⟩)

/-- A stored row is the last of its domain. -/
theorem lookup_store
    (lookup : ∀ domain, s.db.certificates.lookup domain =
      (s.issued.filter (·.domain = domain)).getLast?.or (initial.certificates.lookup domain))
    (row : CertificateRow) (domain : Str) :
    (s.db.putCertificate row).certificates.lookup domain =
      ((s.issued ++ [row]).filter (·.domain = domain)).getLast?.or
        (initial.certificates.lookup domain) := by
  rw [CertificateDb.lookup_putCertificate, List.filter_append]
  by_cases own : domain = row.domain
  · simp [own]
  · simp [own, Ne.symm own, lookup]

/-- The part of the account that is about the table, and about what is not served of it yet. -/
structure TableKept {Config : Type} (initial : CertificateDb) (s : CertificateServer Config) :
    Prop where
  lookup : ∀ domain, s.db.certificates.lookup domain =
    (s.issued.filter (·.domain = domain)).getLast?.or (initial.certificates.lookup domain)
  unserved : ∀ domain,
    s.db.certificates.lookup domain ≠ s.started.certificates.lookup domain →
      s.restarting = true ∨ (∃ task ∈ s.tasks, task.domain = domain ∧ task.stored = true) ∨
        domain ∈ s.renewed

theorem TableKept.setAcmeError (kept : TableKept initial s) (set : Plan StatementCall)
    (text : Str) : TableKept initial (s.setAcmeError set text) := by
  obtain ⟨db, same, -⟩ := s.setAcmeError_cases set text
  rw [same]
  exact ⟨kept.lookup, kept.unserved⟩

/-- The tasks whose certificates are stored are the same after the step of another. -/
theorem exists_stored_set {index : Nat} {task next : OrderTask} {domain : Str}
    {tasks : List OrderTask} (here : tasks[index]? = some task) (before : task.stored = false) :
    (∃ task ∈ tasks, task.domain = domain ∧ task.stored = true) →
      ∃ task ∈ tasks.set index next, task.domain = domain ∧ task.stored = true := by
  rintro ⟨other, mem, own, stored⟩
  refine ⟨other, ?_, own, stored⟩
  rw [(Tasks.set_perm here next).mem_iff]
  rcases List.mem_cons.mp ((Tasks.perm_of_getElem? here).mem_iff.mp mem) with rfl | mem
  · rw [before] at stored
    cases stored
  · exact List.mem_cons_of_mem _ mem

/-- A certificate that is stored is in the table and in the account, and it has still to be
served. -/
theorem TableKept.store (kept : TableKept initial s) {row : CertificateRow}
    {t : CertificateServer Config} (db : t.db = s.db.putCertificate row)
    (issued : t.issued = s.issued ++ [row]) (started : t.started = s.started)
    (unserved : ∀ domain, domain = row.domain ∨
        (s.restarting = true ∨ (∃ task ∈ s.tasks, task.domain = domain ∧ task.stored = true) ∨
          domain ∈ s.renewed) →
      t.restarting = true ∨ (∃ task ∈ t.tasks, task.domain = domain ∧ task.stored = true) ∨
        domain ∈ t.renewed) : TableKept initial t where
  lookup domain := by
    rw [db, issued]
    exact lookup_store kept.lookup row domain
  unserved domain apart := by
    rw [db, started, CertificateDb.lookup_putCertificate] at apart
    refine unserved domain ?_
    by_cases own : domain = row.domain
    · exact Or.inl own
    · rw [if_neg own] at apart
      exact Or.inr (kept.unserved domain apart)

theorem TableKept.step (kept : TableKept initial s)
    (stepped : s.step load expiry thresholdDays event = some t) : TableKept initial t := by
  cases CertificateServer.does_of_step stepped with
  | start forceHttp weather => exact ⟨kept.lookup, fun _ apart => absurd rfl apart⟩
  | write change => exact ⟨kept.lookup, kept.unserved⟩
  | request reads wildcard domain =>
      unfold CertificateServer.request
      split
      next => exact kept
      next settings _ =>
        refine ⟨kept.lookup, fun domain apart => ?_⟩
        refine (kept.unserved domain apart).imp_right (Or.imp_left ?_)
        rintro ⟨task, mem, own⟩
        exact ⟨task, List.mem_append_left _ mem, own⟩
  | @clear index set task here point =>
      have ⟨lookup, unserved⟩ := kept.setAcmeError set []
      obtain ⟨db, same, -⟩ := s.setAcmeError_cases set []
      rw [same] at lookup unserved ⊢
      refine ⟨lookup, fun domain apart => ?_⟩
      exact (unserved domain apart).imp_right
        (Or.imp_left (exists_stored_set here (by simp [OrderTask.stored, point])))
  | fail here point failed =>
      refine ⟨kept.lookup, fun domain apart => ?_⟩
      exact (kept.unserved domain apart).imp_right
        (Or.imp_left (exists_stored_set here (by simp [OrderTask.stored, point])))
  | @order index now issue store task row here point issued =>
      have own : row.domain = task.domain := (rowOf_of_order issued).domain
      refine kept.store rfl rfl rfl ?_
      rintro domain (rfl | before)
      · refine Or.inr (Or.inl ⟨{ task with point := .report (.ok ()) }, ?_, own.symm, rfl⟩)
        exact (Tasks.set_perm here _).mem_iff.mpr List.mem_cons_self
      · exact before.imp_right
          (Or.imp_left (exists_stored_set here (by simp [OrderTask.stored, point])))
  | @report index set task result here point =>
      have ⟨lookup, unserved⟩ := kept.setAcmeError set (outcomeText result)
      obtain ⟨db, same, -⟩ := s.setAcmeError_cases set (outcomeText result)
      rw [same] at lookup unserved ⊢
      refine ⟨lookup, fun domain apart => ?_⟩
      rcases unserved domain apart with restarting | ⟨other, mem, own, stored⟩ | renewed
      · exact Or.inl (by rw [restarting, Bool.true_or])
      · rcases List.mem_cons.mp ((Tasks.perm_of_getElem? here).mem_iff.mp mem) with rfl | mem
        · -- The task that ends has a certificate to be served, and so it restarts.
          left
          rw [OrderTask.stored, point] at stored
          rcases result with error | ⟨⟩
          · cases stored
          · exact Bool.or_true _
        · exact Or.inr (Or.inl ⟨other, mem, own, stored⟩)
      · exact Or.inr (Or.inr renewed)
  | check =>
      unfold CertificateServer.check
      split
      all_goals exact ⟨kept.lookup, kept.unserved⟩
  | settings pending ordering => exact ⟨kept.lookup, kept.unserved⟩
  | keep ordered failed => exact ⟨kept.lookup, kept.unserved⟩
  | @renew now issue storeTask store domain settings row ordered issued =>
      obtain rfl : row.domain = domain := (rowOf_of_renewal issued).domain
      refine kept.store rfl rfl rfl ?_
      rintro domain (rfl | before)
      · exact Or.inr (Or.inr (List.mem_append_right _ (List.mem_singleton_self _)))
      · exact before.imp_right (Or.imp_right (List.mem_append_left _))

/-- The part of the account that is about the orders: every row that was stored is the row of an
order, and what was renewed was ordered in the background. -/
structure OrdersKept {Config : Type} (expiry : Bytes → Except Str Int)
    (orders : List PlacedOrder) (s : CertificateServer Config) : Prop where
  issued : Yields expiry orders s.issued
  renewed : ∀ domain ∈ s.renewed, ∃ order ∈ orders, order.background = true ∧
    order.domain = domain ∧ ∃ row ∈ s.issued, RowOf expiry order row

variable {orders : List PlacedOrder} {order : PlacedOrder}

/-- Where nothing is stored, the orders may be those of before or one more that failed. -/
theorem OrdersKept.mono (kept : OrdersKept expiry orders s) {later : List PlacedOrder}
    (issued : Yields expiry (orders ++ later) t.issued) (same : t.issued = s.issued)
    (renewed : ∀ domain ∈ t.renewed, domain ∈ s.renewed) :
    OrdersKept expiry (orders ++ later) t := by
  refine ⟨issued, fun domain mem => ?_⟩
  obtain ⟨order, placed, background, own, row, inside, one⟩ :=
    kept.renewed domain (renewed domain mem)
  exact ⟨order, List.mem_append_left _ placed, background, own, row, same ▸ inside, one⟩

/-- An event that places no order. -/
theorem OrdersKept.unplaced (kept : OrdersKept expiry orders s) (unplaced : s.places event = none)
    (same : t.issued = s.issued) (renewed : ∀ domain ∈ t.renewed, domain ∈ s.renewed) :
    OrdersKept expiry (orders ++ (s.places event).toList) t := by
  refine kept.mono ?_ same renewed
  rw [unplaced, Option.toList_none, List.append_nil, same]
  exact kept.issued

/-- An order that fails. -/
theorem OrdersKept.failed (kept : OrdersKept expiry orders s) (placed : s.places event = some order)
    (fails : ∀ row, ¬ RowOf expiry order row) (same : t.issued = s.issued)
    (renewed : ∀ domain ∈ t.renewed, domain ∈ s.renewed) :
    OrdersKept expiry (orders ++ (s.places event).toList) t := by
  refine kept.mono ?_ same renewed
  rw [placed, same]
  exact kept.issued.failed fails

/-- An order that ends well, and its row. -/
theorem OrdersKept.stored (kept : OrdersKept expiry orders s) (placed : s.places event = some order)
    {row : CertificateRow} (one : RowOf expiry order row)
    (issued : t.issued = s.issued ++ [row])
    (renewed : ∀ domain ∈ t.renewed, domain ∈ s.renewed ∨
      order.background = true ∧ order.domain = domain) :
    OrdersKept expiry (orders ++ (s.places event).toList) t := by
  rw [placed]
  constructor
  · rw [issued]
    exact kept.issued.stored one
  · intro domain mem
    rw [issued]
    rcases renewed domain mem with before | ⟨background, own⟩
    · obtain ⟨order', placed', background, own, row', inside, one'⟩ := kept.renewed domain before
      exact ⟨order', List.mem_append_left _ placed', background, own, row',
        List.mem_append_left _ inside, one'⟩
    · exact ⟨order, List.mem_append_right _ List.mem_cons_self, background, own, row,
        List.mem_append_right _ List.mem_cons_self, one⟩

theorem OrdersKept.step (kept : OrdersKept expiry orders s)
    (stepped : s.step load expiry thresholdDays event = some t) :
    OrdersKept expiry (orders ++ (s.places event).toList) t := by
  cases CertificateServer.does_of_step stepped with
  | start forceHttp weather => exact kept.unplaced rfl rfl fun _ mem => absurd mem List.not_mem_nil
  | write change => exact kept.unplaced rfl rfl fun _ mem => mem
  | request reads wildcard domain =>
      unfold CertificateServer.request
      split
      all_goals exact kept.unplaced rfl rfl fun _ mem => mem
  | @clear index set task here point =>
      obtain ⟨db, same, -⟩ := s.setAcmeError_cases set []
      rw [same]
      exact kept.unplaced rfl rfl fun _ mem => mem
  | @fail index now issue store task error here point failed =>
      refine kept.failed (congrArg (Option.map _) here) ?_ rfl fun _ mem => mem
      exact not_rowOf_of_error failed
  | @order index now issue store task row here point issued =>
      exact kept.stored (congrArg (Option.map _) here) (rowOf_of_order issued) rfl
        fun _ mem => Or.inl mem
  | @report index set task result here point =>
      obtain ⟨db, same, -⟩ := s.setAcmeError_cases set (outcomeText result)
      rw [same]
      exact kept.unplaced rfl rfl fun _ mem => mem
  | check =>
      unfold CertificateServer.check
      split
      all_goals exact kept.unplaced rfl rfl fun _ mem => mem
  | settings pending ordering => exact kept.unplaced rfl rfl fun _ mem => mem
  | keep ordered failed =>
      refine kept.failed (congrArg (Option.map _) ordered) ?_ rfl fun _ mem => mem
      exact not_rowOf_of_error failed
  | @renew now issue storeTask store domain settings row ordered issued =>
      refine kept.stored (congrArg (Option.map _) ordered) (rowOf_of_renewal issued) rfl ?_
      intro other mem
      refine (List.mem_append.mp mem).imp_right fun mem => ⟨rfl, ?_⟩
      exact (List.mem_singleton.mp mem).symm

/-- The part of the account that is about the starts: what is served is what the last of them has
loaded, from the database as it found it. -/
structure StartsKept {Config : Type} (load : Bytes → Bytes → Except Str Config)
    (initial : CertificateDb) (starts : List ServerStart) (s : CertificateServer Config) :
    Prop where
  served : ∀ config, s.served = some config ↔
    ∃ start, starts.getLast? = some start ∧ start.Serves load config
  started : s.started = (starts.getLast?.map ServerStart.db).getD initial

variable {starts : List ServerStart}

/-- Nothing but a start changes what is served. -/
theorem StartsKept.step (kept : StartsKept load initial starts s)
    (stepped : s.step load expiry thresholdDays event = some t) :
    StartsKept load initial (starts ++ (s.starts event).toList) t := by
  have others (unnoted : s.starts event = none) (served : t.served = s.served)
      (started : t.started = s.started) :
      StartsKept load initial (starts ++ (s.starts event).toList) t := by
    rw [unnoted, Option.toList_none, List.append_nil]
    refine ⟨?_, started.trans kept.started⟩
    rw [served]
    exact kept.served
  cases CertificateServer.does_of_step stepped with
  | start forceHttp weather =>
      rw [show s.starts (.start forceHttp weather) =
        some { forceHttp, weather, db := s.db } from rfl, Option.toList_some]
      constructor
      · intro config
        rw [List.getLast?_concat]
        constructor
        · intro serves
          exact ⟨_, rfl, httpsConfig_eq_some.mp serves⟩
        · rintro ⟨start, same, serves⟩
          obtain rfl := Option.some.inj same
          exact httpsConfig_eq_some.mpr serves
      · rw [List.getLast?_concat]
        rfl
  | write change => exact others rfl rfl rfl
  | request reads wildcard domain =>
      refine others rfl ?_ ?_
      all_goals
        unfold CertificateServer.request
        split <;> rfl
  | @clear index set task here point =>
      obtain ⟨db, same, -⟩ := s.setAcmeError_cases set []
      refine others rfl ?_ ?_ <;> rw [same]
  | fail here point failed => exact others rfl rfl rfl
  | order here point issued => exact others rfl rfl rfl
  | @report index set task result here point =>
      obtain ⟨db, same, -⟩ := s.setAcmeError_cases set (outcomeText result)
      refine others rfl ?_ ?_ <;> rw [same]
  | check =>
      refine others rfl ?_ ?_
      all_goals
        unfold CertificateServer.check
        split <;> rfl
  | settings pending ordering => exact others rfl rfl rfl
  | keep ordered failed => exact others rfl rfl rfl
  | renew ordered issued => exact others rfl rfl rfl

/-- **In every state the certificates are what the orders came to**, whatever was ordered,
renewed and stored meanwhile. -/
theorem certificates_of_exec {s₀ : CertificateServer Config} {events : List CertificateEvent}
    (start : (certificateMachine load expiry thresholdDays).init s₀)
    (run : (certificateMachine load expiry thresholdDays).exec s₀ events = some s) :
    let machine := certificateMachine load expiry thresholdDays
    CertificatesKept load expiry s₀.db (machine.history CertificateServer.places s₀ events)
      (machine.history CertificateServer.starts s₀ events) s := by
  intro machine
  have any := machine.stepsMeet_true events s₀
  have table : TableKept s₀.db s := by
    refine machine.exec_invariant (fun _ _ _ kept _ stepped => kept.step stepped) ?_ any run
    rw [start]
    exact ⟨fun domain => rfl, fun domain apart => absurd rfl apart⟩
  have orders : OrdersKept expiry (machine.history CertificateServer.places s₀ events) s := by
    refine machine.exec_history (fun _ _ _ _ kept _ stepped => kept.step stepped) ?_ any run
    rw [start]
    exact ⟨.nil, fun domain mem => absurd mem List.not_mem_nil⟩
  have starts : StartsKept load s₀.db (machine.history CertificateServer.starts s₀ events) s := by
    refine machine.exec_history (fun _ _ _ _ kept _ stepped => kept.step stepped) ?_ any run
    rw [start]
    exact ⟨fun config => by simp, rfl⟩
  exact
    { lookup := table.lookup
      issued := orders.issued
      served := starts.served
      started := starts.started
      unserved := table.unserved
      renewed := orders.renewed }

end Runs

/-- The settings of the examples, and a certificate for three days. -/
def expiringDb : CertificateDb where
  toDb := ((({} : Db).setSetting domainKey "dns.example".toList).setSetting
    "cloudflare_api_token".toList "token".toList).setSetting "acme_email".toList
    "admin@example".toList
  certificates := SqlTable.empty.insertOrReplace
    (storedCertificate 0 "dns.example".toList [] [] 259200)

/-- An order that ends well. -/
def orderedChain (chain : Str) : IssueWeather where
  order := { authorizations := [], keyPair := .ok "key".toList
             certificate := fun _ => .ok (some chain) }

/-- Certificates for ninety days. -/
def ninetyDays : Bytes → Except Str Int := fun _ => .ok 7776000

/-- The machine of the examples, where HTTPS is served with a chain. -/
abbrev ninetyDayMachine : StateMachine (CertificateServer Bytes) CertificateEvent :=
  certificateMachine (fun _ chain => .ok chain) ninetyDays autoRenewalThresholdDays

theorem init_expiringDb : ninetyDayMachine.init { db := expiringDb } := rfl

/-- Two requests for a domain, the second of which is stored last and reports first. -/
def overtakenOrder : List CertificateEvent :=
  [.start false { now := 0 }, .request (fun _ => true) false "dns.example".toList,
    .request (fun _ => true) false "dns.example".toList, .clear 0 .clear, .clear 1 .clear,
    .order 0 100 (orderedChain "first".toList) .clear,
    .order 1 110 (orderedChain "second".toList) .clear, .report 1 .clear, .report 0 .clear,
    .start false { now := 120 }]

theorem certificates_of_exec_overtaken :
    ∃ s, ninetyDayMachine.exec { db := expiringDb } overtakenOrder = some s ∧
      s.issued.length = 2 ∧ s.served = some (Str.utf8 "second".toList) ∧
      CertificatesKept (fun _ chain => .ok chain) ninetyDays expiringDb
        (ninetyDayMachine.history CertificateServer.places { db := expiringDb } overtakenOrder)
        (ninetyDayMachine.history CertificateServer.starts { db := expiringDb } overtakenOrder)
        s := by
  have ends : (ninetyDayMachine.exec { db := expiringDb } overtakenOrder).map
      (fun s => (s.issued.length, s.served)) = some (2, some (Str.utf8 "second".toList)) := by
    decide +kernel
  obtain ⟨s, run, both⟩ := Option.map_eq_some_iff.mp ends
  obtain ⟨length, served⟩ := Prod.mk.inj both
  exact ⟨s, run, length, served, certificates_of_exec init_expiringDb run⟩

/-! ## The error that is shown

Each task clears the error at its beginning and reports at its end, so that with several of them
the text that is left is that of the one which reported last.  What is assumed is that these
writes do not fail, and that nobody else writes the setting. -/

/-- What `certificate_status` reads of `acme_error`. -/
def acmeError (db : CertificateDb) : Str := (db.getSetting true acmeErrorKey).getD []

/-- **The error that is shown is that of the task which reported last**, as soon as nothing that
has cleared it is still to report.  Which order ended last is another matter: two orders may end
in one order and be reported in the other, and then the one that ended first is shown. -/
structure ErrorKept {Config : Type} (s : CertificateServer Config) : Prop where
  /-- No other error is ever shown. -/
  error : acmeError s.db = [] ∨ acmeError s.db = s.ended
  settled : acmeError s.db = s.ended ∨ s.interrupted = true ∨
    ∃ task ∈ s.tasks, task.cleared = true

/-- The writes of `acme_error` succeed, and nothing else writes it. -/
def CertificateEvent.Reports : CertificateEvent → Prop
  | .clear _ set => oneStatement set = .ok ()
  | .report _ set => oneStatement set = .ok ()
  | .write change => ∀ db,
      (change db).settings.lookup acmeErrorKey = db.settings.lookup acmeErrorKey
  | _ => True

section Errors

variable {Config : Type} {load : Bytes → Bytes → Except Str Config}
  {expiry : Bytes → Except Str Int} {thresholdDays : Int} {s t : CertificateServer Config}
  {event : CertificateEvent}

theorem acmeError_setSetting (db : CertificateDb) (text : Str) :
    acmeError { db with toDb := db.setSetting acmeErrorKey text } = text := by
  unfold acmeError
  rw [getSetting_setSetting.mpr rfl]
  rfl

theorem acmeError_congr {db db' : CertificateDb}
    (same : db.settings.lookup acmeErrorKey = db'.settings.lookup acmeErrorKey) :
    acmeError db = acmeError db' := congrArg (·.getD []) same

/-- After the step of a task that has cleared the error there is one still. -/
theorem exists_cleared_set {index : Nat} {task next : OrderTask} {tasks : List OrderTask}
    (here : tasks[index]? = some task) (cleared : next.cleared = true) :
    ∃ task ∈ tasks.set index next, task.cleared = true :=
  ⟨next, (Tasks.set_perm here next).mem_iff.mpr List.mem_cons_self, cleared⟩

theorem ErrorKept.step (kept : ErrorKept s) (reports : event.Reports)
    (stepped : s.step load expiry thresholdDays event = some t) : ErrorKept t := by
  cases CertificateServer.does_of_step stepped with
  | start forceHttp weather =>
      refine ⟨kept.error, kept.settled.imp_right fun running => Or.inl ?_⟩
      change (s.interrupted || s.tasks.any OrderTask.cleared) = true
      rw [Bool.or_eq_true, List.any_eq_true]
      exact running
  | write change =>
      have same : acmeError { s.db with toDb := change s.db.toDb } = acmeError s.db :=
        acmeError_congr (reports s.db.toDb)
      refine ⟨?_, ?_⟩
      · rw [same]
        exact kept.error
      · rw [same]
        exact kept.settled
  | request reads wildcard domain =>
      unfold CertificateServer.request
      split
      next => exact kept
      next =>
        refine ⟨kept.error, kept.settled.imp_right (Or.imp_right ?_)⟩
        rintro ⟨task, mem, cleared⟩
        exact ⟨task, List.mem_append_left _ mem, cleared⟩
  | @clear index set task here point =>
      obtain ⟨db, same, written⟩ := s.setAcmeError_cases set []
      obtain rfl := written reports
      rw [same]
      refine ⟨Or.inl (acmeError_setSetting s.db []), Or.inr (Or.inr ?_)⟩
      exact exists_cleared_set here rfl
  | fail here point failed =>
      exact ⟨kept.error, Or.inr (Or.inr (exists_cleared_set here rfl))⟩
  | order here point issued =>
      exact ⟨kept.error, Or.inr (Or.inr (exists_cleared_set here rfl))⟩
  | @report index set task result here point =>
      obtain ⟨db, same, written⟩ := s.setAcmeError_cases set (outcomeText result)
      obtain rfl := written reports
      rw [same]
      have shown := acmeError_setSetting s.db (outcomeText result)
      exact ⟨Or.inr shown, Or.inl shown⟩
  | check =>
      unfold CertificateServer.check
      split
      all_goals exact ⟨kept.error, kept.settled⟩
  | settings pending ordering => exact ⟨kept.error, kept.settled⟩
  | keep ordered failed => exact ⟨kept.error, kept.settled⟩
  | renew ordered issued => exact ⟨kept.error, kept.settled⟩

/-- **The error that is shown is that of the task which reported last**, in every order in which
the steps of the requests are taken.  The run may begin in any state in which the two agree. -/
theorem acmeError_of_exec {s₀ : CertificateServer Config} {events : List CertificateEvent}
    (start : acmeError s₀.db = s₀.ended)
    (run : (certificateMachine load expiry thresholdDays).exec s₀ events = some s)
    (reports : ∀ event ∈ events, event.Reports) : ErrorKept s :=
  (certificateMachine load expiry thresholdDays).exec_invariant
    (fun _ _ _ kept reports stepped => kept.step reports stepped)
    ⟨Or.inr start, Or.inl start⟩
    (((certificateMachine load expiry thresholdDays).stepsMeet_const run).mpr reports) run

theorem acmeError_of_exec_overtaken :
    ∃ s, ninetyDayMachine.exec { db := expiringDb } overtakenOrder = some s ∧ s.tasks.length = 0 ∧
      ErrorKept s := by
  have ends : (ninetyDayMachine.exec { db := expiringDb } overtakenOrder).map
      (fun s => s.tasks.length) = some 0 := by decide +kernel
  obtain ⟨s, run, done⟩ := Option.map_eq_some_iff.mp ends
  refine ⟨s, run, done, acmeError_of_exec rfl run ?_⟩
  intro event mem
  simp only [overtakenOrder, List.mem_cons, List.not_mem_nil, or_false] at mem
  rcases mem with rfl | rfl | rfl | rfl | rfl | rfl | rfl | rfl | rfl | rfl
  all_goals trivial

end Errors

/-! ## Checks that come in time

`Timely` is what is assumed: of the clock, of the checks, and of the certificates that are issued.
Under it the invariant counts the checks that were missed since a certificate was stored, and the
time that each of them costs. -/

/-- The time at which a certificate that is stored has still to be good. -/
def thresholdOf (thresholdDays now : Int) : Int := now + thresholdDays * 86400

/-- The clock does not go back, checks follow each other within some time, and a certificate is
good for at least the threshold when it is stored.  All three are promised by what surrounds the
code, the clock of the host, the timer of the background task and the authority that signs, and
none is checked by it: with a clock that jumps, or certificates of a week, no schedule of checks
keeps a certificate from expiring. -/
def Timely {Config : Type} (expiry : Bytes → Except Str Int) (thresholdDays within : Int)
    (s : CertificateServer Config) : CertificateEvent → Prop
  | .start _ weather => s.now ≤ weather.now
  | .order _ now issue store => s.now ≤ now ∧ ∀ settings domain row,
      issuedRow expiry issue (.ok ()) store now settings domain = .ok row →
        thresholdOf thresholdDays now ≤ row.expiresAt
  | .check now _ _ => s.now ≤ now ∧ now ≤ s.checked + within
  | .renew now issue storeTask store => s.now ≤ now ∧ ∀ settings domain row,
      issuedRow expiry issue (joined storeTask) store now settings domain = .ok row →
        thresholdOf thresholdDays now ≤ row.expiresAt
  | _ => True

/-- **Each check that is missed costs the time within which the next one follows.**  This is the
invariant: a certificate that was good for the threshold when it was last looked at, and whose
renewal has failed at `missed` checks since, is still good for the threshold less that many
times. -/
structure LongLived {Config : Type} (thresholdDays within : Int) (s : CertificateServer Config) :
    Prop where
  clock : s.checked ≤ s.now
  expiresAt : ∀ domain missed row, s.missed domain = some missed →
    s.db.certificates.lookup domain = some row →
      thresholdOf thresholdDays s.checked ≤ row.expiresAt + missed * within

section Times

variable {Config : Type} {load : Bytes → Bytes → Except Str Config}
  {expiry : Bytes → Except Str Int} {thresholdDays within : Int} {s t : CertificateServer Config}
  {event : CertificateEvent}

/-- A certificate that is stored is good for as long as the threshold. -/
theorem LongLived.store (good : LongLived thresholdDays within s) {now : Int}
    (later : s.now ≤ now) {row : CertificateRow}
    (long : thresholdOf thresholdDays now ≤ row.expiresAt) :
    LongLived thresholdDays within (s.store now row) := by
  refine ⟨good.clock.trans later, fun domain missed row' counted found => ?_⟩
  change (if domain = row.domain then some 0 else s.missed domain) = some missed at counted
  change (s.db.putCertificate row).certificates.lookup domain = some row' at found
  rw [CertificateDb.lookup_putCertificate] at found
  split at counted
  next own =>
    rw [if_pos own] at found
    obtain rfl := Option.some.inj counted
    obtain rfl := Option.some.inj found
    have early := good.clock.trans later
    change s.checked + thresholdDays * 86400 ≤ row.expiresAt + ((0 : Nat) : Int) * within
    unfold thresholdOf at long
    omega
  next other =>
    rw [if_neg other] at found
    exact good.expiresAt domain missed row' counted found

/-- A check counts against the certificates that it does not find to be good. -/
theorem LongLived.check (good : LongLived thresholdDays within s) {now : Int}
    (soon : now ≤ s.checked + within) (listTask : Bool) (list : Plan StatementCall) :
    LongLived thresholdDays within
      (s.check now (listExpiring listTask list now s.db thresholdDays)) := by
  have once : ∀ domain (missed : Nat) row, (s.missed domain).map (· + 1) = some missed →
      s.db.certificates.lookup domain = some row →
        thresholdOf thresholdDays now ≤ row.expiresAt + missed * within := by
    intro domain missed row counted found
    obtain ⟨before, here, rfl⟩ := Option.map_eq_some_iff.mp counted
    have bound := good.expiresAt domain before row here found
    have split : ((before + 1 : Nat) : Int) * within = before * within + within := by
      push_cast
      ring
    unfold thresholdOf at bound ⊢
    omega
  unfold CertificateServer.check
  split
  next => exact ⟨le_refl _, once⟩
  next expiring listed =>
    refine ⟨le_refl _, fun domain missed row counted found => ?_⟩
    change (if expiring.contains domain then (s.missed domain).map (· + 1) else some 0) =
      some missed at counted
    split at counted
    next => exact once domain missed row counted found
    next fine =>
      obtain rfl := Option.some.inj counted
      rw [List.contains_iff_mem, listExpiring_eq_ok listed, CertificateDb.mem_expiring] at fine
      have late := not_exists.mp fine row
      have long : ¬ row.expiresAt < thresholdOf thresholdDays now := fun early =>
        late ⟨found, early⟩
      simpa using long

theorem LongLived.step (good : LongLived thresholdDays within s)
    (timely : Timely expiry thresholdDays within s event)
    (stepped : s.step load expiry thresholdDays event = some t) :
    LongLived thresholdDays within t := by
  cases CertificateServer.does_of_step stepped with
  | start forceHttp weather => exact ⟨good.clock.trans timely, good.expiresAt⟩
  | write change => exact ⟨good.clock, good.expiresAt⟩
  | request reads wildcard domain =>
      unfold CertificateServer.request
      split
      all_goals exact ⟨good.clock, good.expiresAt⟩
  | @clear index set task here point =>
      obtain ⟨db, same, -⟩ := s.setAcmeError_cases set []
      rw [same]
      exact ⟨good.clock, good.expiresAt⟩
  | fail here point failed => exact ⟨good.clock.trans timely.1, good.expiresAt⟩
  | order here point issued =>
      have ⟨clock, expiresAt⟩ := good.store timely.1 (timely.2 _ _ _ issued)
      exact ⟨clock, expiresAt⟩
  | @report index set task result here point =>
      obtain ⟨db, same, -⟩ := s.setAcmeError_cases set (outcomeText result)
      rw [same]
      exact ⟨good.clock, good.expiresAt⟩
  | check => exact good.check timely.2 _ _
  | settings pending ordering => exact ⟨good.clock, good.expiresAt⟩
  | keep ordered failed => exact ⟨good.clock.trans timely.1, good.expiresAt⟩
  | renew ordered issued =>
      have ⟨clock, expiresAt⟩ := good.store timely.1 (timely.2 _ _ _ issued)
      exact ⟨clock, expiresAt⟩

/-- **As long as fewer checks are missed than the threshold has room for, no certificate
expires**, and a start serves it until the next check is due.  This is about the certificates
that are counted: those that were stored in the run, or that a check found to be good. -/
theorem unexpired_of_exec {s₀ : CertificateServer Config} {events : List CertificateEvent}
    (start : (certificateMachine load expiry thresholdDays).init s₀)
    (clock : s₀.checked ≤ s₀.now)
    (run : (certificateMachine load expiry thresholdDays).exec s₀ events = some s)
    (timely : (certificateMachine load expiry thresholdDays).StepsMeet
      (Timely expiry thresholdDays within) s₀ events)
    {domain : Str} {missed : Nat} (counted : s.missed domain = some missed)
    (room : (missed + 1) * within < thresholdDays * 86400)
    {row : CertificateRow} (found : s.db.certificates.lookup domain = some row)
    {time : Int} (soon : time ≤ s.checked + within) :
    time < row.expiresAt ∧
      (s.db.getSetting true domainKey = some domain →
        httpsConfig load false { now := time } s.db =
          (load row.privateKey row.certificate).toOption) := by
  have good : LongLived thresholdDays within s := by
    refine (certificateMachine load expiry thresholdDays).exec_invariant
      (fun _ _ _ good timely stepped => good.step timely stepped) ⟨clock, ?_⟩ timely run
    intro domain missed row counted
    rw [start] at counted
    cases counted
  have unexpired : time < row.expiresAt := by
    have bound := good.expiresAt domain missed row counted found
    have split : ((missed : Int) + 1) * within = missed * within + within := by ring
    unfold thresholdOf at bound
    omega
  refine ⟨unexpired, fun configured => ?_⟩
  have read : getTlsConfigFromDb load { now := time } s.db domain =
      loadStored load time (some (row.privateKey, row.certificate, row.expiresAt)) := by
    change loadStored load time ((s.db.certificates.lookup domain).map _) = _
    rw [found]
    rfl
  have fresh : ¬ row.expiresAt ≤ time := not_le.mpr unexpired
  unfold httpsConfig
  simp only [Bool.false_eq_true, if_false, configured, read, loadStored, if_neg fresh]
  cases load row.privateKey row.certificate <;> rfl

end Times

/-- A certificate that expires in three days is found by a check, and renewed. -/
def renewalInTime : List CertificateEvent :=
  [.start false { now := 0 }, .check 60 true .clear, .settings true (fun _ => true),
    .renew 90 (orderedChain "renewed".toList) true .clear]

theorem timely_renewalInTime :
    ninetyDayMachine.StepsMeet
      (Timely ninetyDays autoRenewalThresholdDays (autoRenewalIntervalHours * 3600))
      { db := expiringDb } renewalInTime := by
  refine ⟨le_refl _, fun t one => ?_⟩
  obtain rfl := Option.some.inj one
  refine ⟨⟨by decide, by decide⟩, fun t one => ?_⟩
  obtain rfl := Option.some.inj one
  refine ⟨trivial, fun t one => ?_⟩
  obtain rfl := Option.some.inj one
  refine ⟨⟨by decide, fun settings domain row issued => ?_⟩, fun _ _ => trivial⟩
  obtain ⟨privateKey, certificate, expiresAt, obtained, rfl⟩ := issuedRow_eq_ok issued
  obtain ⟨-, -, obtained⟩ := bind_eq_ok.mp obtained
  obtain ⟨_, -, obtained⟩ := bind_eq_ok.mp obtained
  obtain ⟨_, read, obtained⟩ := bind_eq_ok.mp obtained
  cases obtained
  cases read
  change thresholdOf autoRenewalThresholdDays 90 ≤ 7776000
  decide

theorem unexpired_of_exec_renewal :
    ∃ s row, ninetyDayMachine.exec { db := expiringDb } renewalInTime = some s ∧
      s.db.certificates.lookup "dns.example".toList = some row ∧ 86460 < row.expiresAt := by
  have ends : (ninetyDayMachine.exec { db := expiringDb } renewalInTime).map
      (fun s => (s.missed "dns.example".toList, s.checked,
        (s.db.certificates.lookup "dns.example".toList).isSome)) = some (some 0, 60, true) := by
    decide +kernel
  obtain ⟨s, run, facts⟩ := Option.map_eq_some_iff.mp ends
  obtain ⟨counted, facts⟩ := Prod.mk.inj facts
  obtain ⟨checked, found⟩ := Prod.mk.inj facts
  obtain ⟨row, found⟩ := Option.isSome_iff_exists.mp found
  have soon : 86460 ≤ s.checked + autoRenewalIntervalHours * 3600 := by
    rw [checked]
    decide
  exact ⟨s, row, run, found, (unexpired_of_exec init_expiringDb (le_refl _) run
    timely_renewalInTime counted (by decide) found soon).1⟩

end RustBlocker
