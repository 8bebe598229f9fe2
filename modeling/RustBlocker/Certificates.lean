import RustBlocker.CertificateOrder
import RustBlocker.Library.Checked

/-!
# The certificates that are stored

The table `certificates` has a certificate for each domain.  A new one replaces it: on demand, or
when the background task finds that the old one is about to expire.

* **What a certificate is obtained from** are the settings, as they were read, and an order
  (`CertificateOrder`).  When it expires is read off the certificate, by a library (`expiry`).
* **The check** lists the domains whose certificates expire within some days, and renews them one
  after the other.  A renewal that fails is logged and left at that.

`renewed_of_checkAndRenewCertificates` says what a check does to every domain, and which of them
still expire after it.

## What a check is compared with

What an order comes to depends on the settings at the time, on the weather of the order and on
nothing that an earlier renewal of the same check has written.  So the outcome of the renewal of a
domain can be named before the check begins (`renewal`), as a function of the database that the
check found, and `Renewed` compares the database after the check with it, domain by domain.  That
the two agree is not a definition: the loop reads the settings anew for each domain, from the
database as the renewals before have left it (`renewal_putCertificate`).

The two callers of an order read the settings in different ways, the renewal with an empty text
for a value and the request with none; both ways are here, under the names of their callers.  The
expiry of a certificate may be any integer or an error, since the library is a parameter and a
certificate is whatever the authority signed.
-/

namespace RustBlocker

/-! ## The table

The certificates are kept beside the other tables, since no other module has to do with them.  A
certificate that is stored replaces the one of its domain, under a new id. -/

/-- A row of `certificates`, without its id. -/
structure CertificateRow extends Certificate where
  domain : Str
  lastRenewed : Option Int

/-- `certificates`, one row for each domain. -/
abbrev CertificateTable := SqlTable CertificateRow Str fun row => some row.domain

/-- The database, with the certificates, which no other module reads or writes. -/
structure CertificateDb extends Db where
  certificates : CertificateTable := .empty

/-- One statement, with the text that its error displays. -/
def oneStatementText (fails : Plan StatementCall) : Except Str Unit := do
  fails.attempt .connection id
  fails.attempt .statement id

/-- The row that `store_certificate` writes. -/
def storedCertificate (now : Int) (domain : Str) (privateKey certificate : Bytes)
    (expiresAt : Int) : CertificateRow where
  privateKey
  certificate
  issuedAt := now
  expiresAt
  domain
  lastRenewed := some now

namespace CertificateDb

variable (db : CertificateDb)

/-- `store_certificate`, where nothing fails: `INSERT OR REPLACE INTO certificates` -/
def putCertificate (row : CertificateRow) : CertificateDb :=
  { db with certificates := db.certificates.insertOrReplace row }

/-- `get_certificate` -/
def getCertificate (fails : Plan StatementCall) (domain : Str) :
    Except Str (Option (Bytes × Bytes × Int)) := do
  oneStatementText fails
  return (db.certificates.lookup domain).map fun row =>
    (row.privateKey, row.certificate, row.expiresAt)

/-- `SELECT domain FROM certificates WHERE expires_at < ?` -/
def expiring (threshold : Int) : List Str :=
  (db.certificates.values.filter fun row => row.expiresAt < threshold).map CertificateRow.domain

/-- `list_expiring_certificates` -/
def listExpiringCertificates (fails : Plan StatementCall) (now daysThreshold : Int) :
    Except Str (List Str) := do
  oneStatementText fails
  return db.expiring (now + daysThreshold * 86400)

end CertificateDb

/-! ## Obtaining a certificate

The settings are read in two places, which take an empty text in different ways.  From there on
the request and the renewal are one function: an order, and the row that is made of it. -/

/-- What is read of the settings to obtain a certificate. -/
structure CertificateSettings where
  apiToken : Str
  email : Str
  directoryUrl : Str
  wildcard : Bool

/-- The directory where none is set. -/
def defaultDirectoryUrl : Str := "https://acme-v02.api.letsencrypt.org/directory".toList

namespace CertificateDb

/-- The settings of `renew_certificate_for_domain`, which takes an empty text for a value. -/
def renewalSettings (reads : Str → Bool) (db : CertificateDb) : Except Str CertificateSettings :=
  let setting (key : Str) := db.getSetting (reads key) key
  match setting "cloudflare_api_token".toList with
  | none => .error "Cloudflare API token not configured".toList
  | some apiToken =>
      match setting "acme_email".toList with
      | none => .error "ACME email not configured".toList
      | some email =>
          .ok {
            apiToken
            email
            directoryUrl := (setting "acme_directory_url".toList).getD defaultDirectoryUrl
            wildcard := setting "wildcard_cert".toList == some "true".toList }

/-- The settings of `request_certificate` and `renew_certificate` of the API, to which an empty
text is no value. -/
def requestSettings (reads : Str → Bool) (wildcard : Bool) (db : CertificateDb) :
    Except Str CertificateSettings :=
  let setting (key : Str) := db.getSetting (reads key) key
  match (setting "cloudflare_api_token".toList).filter (· ≠ []) with
  | none => .error "Cloudflare API token not configured".toList
  | some apiToken =>
      match (setting "acme_email".toList).filter (· ≠ []) with
      | none => .error "ACME email not configured".toList
      | some email =>
          .ok {
            apiToken
            email
            directoryUrl := (setting "acme_directory_url".toList).getD defaultDirectoryUrl
            wildcard }

end CertificateDb

/-- What obtaining a certificate meets, up to the chain and the key. -/
structure IssueWeather where
  /-- `CloudflareClient::new` -/
  client : Except Str Unit := .ok ()
  order : OrderWeather

section Obtaining

-- `parse_certificate_expiry`, by the PEM and X.509 libraries
variable (expiry : Bytes → Except Str Int)

/-- A certificate for a domain: its key, itself, and when it expires.  The three come from one
order, or there is an error and none of them. -/
def obtainCertificate (weather : IssueWeather) (settings : CertificateSettings) (domain : Str) :
    Except Str (Bytes × Bytes × Int) := do
  weather.client
  let manager : AcmeManager := { directoryUrl := settings.directoryUrl, email := settings.email }
  let (privateKey, certificate) ←
    (manager.orderCertificate domain settings.wildcard weather.order).1
  let expiresAt ← expiry certificate
  return (privateKey, certificate, expiresAt)

/-- The row for a certificate that is obtained and stored, by `request_certificate_impl` or by
`renew_certificate_for_domain`, whose store is a task. -/
def issuedRow (weather : IssueWeather) (storeTask : Except Str Unit) (store : Plan StatementCall)
    (now : Int) (settings : CertificateSettings) (domain : Str) : Except Str CertificateRow := do
  let (privateKey, certificate, expiresAt) ← obtainCertificate expiry weather settings domain
  storeTask
  match oneStatementText store with
  | .error error => .error ("Database error: ".toList ++ error)
  | .ok () => .ok (storedCertificate now domain privateKey certificate expiresAt)

/-! ## Renewing

A check lists the domains and renews them one by one.  An error of one renewal is logged and the
loop goes on, while an error of the listing ends the check; the weather has the outcome of each
domain. -/

/-- What one renewal meets: the read of its settings, the order, and the write of its row. -/
structure RenewalWeather where
  /-- The blocking tasks are run to their ends. -/
  settingsTask : Bool := true
  storeTask : Bool := true
  reads : Str → Bool := fun _ => true
  issue : IssueWeather
  store : Plan StatementCall := .clear
  /-- The time at which the certificate is stored. -/
  now : Int

/-- `.context("task failed")?` -/
def joined (runs : Bool) : Except Str Unit := if runs then .ok () else .error "task failed".toList

/-- `renew_certificate_for_domain`, up to the row that it stores. -/
def renewedRow (weather : RenewalWeather) (db : CertificateDb) (domain : Str) :
    Except Str CertificateRow := do
  joined weather.settingsTask
  let settings ← db.renewalSettings weather.reads
  issuedRow expiry weather.issue (joined weather.storeTask) weather.store weather.now settings domain

/-- `renew_certificate_for_domain` -/
def renewCertificateForDomain (weather : RenewalWeather) (db : CertificateDb) (domain : Str) :
    Except Str Unit × CertificateDb :=
  match renewedRow expiry weather db domain with
  | .error error => (.error error, db)
  | .ok row => (.ok (), db.putCertificate row)

/-- The loop of `check_and_renew_certificates`, with the number of renewals so far.  An error of
one renewal ends that renewal only. -/
def renewAll (weather : Str → RenewalWeather) : List Str → Nat → CertificateDb →
    Nat × CertificateDb
  | [], renewedCount, db => (renewedCount, db)
  | domain :: rest, renewedCount, db =>
      match renewCertificateForDomain expiry (weather domain) db domain with
      | (.ok (), db) => renewAll weather rest (renewedCount + 1) db
      | (.error _, db) => renewAll weather rest renewedCount db

/-- What a check lists, and the one at the start. -/
def listExpiring (listTask : Bool) (list : Plan StatementCall) (now : Int) (db : CertificateDb)
    (thresholdDays : Int) : Except Str (List Str) := do
  joined listTask
  context "failed to list expiring certificates".toList
    (db.listExpiringCertificates list now thresholdDays)

/-- What a check meets: the listing, and each renewal by its domain, which is listed once. -/
structure CheckWeather where
  listTask : Bool := true
  list : Plan StatementCall := .clear
  /-- The time at which the certificates are listed. -/
  now : Int
  renewal : Str → RenewalWeather

/-- `check_and_renew_certificates`: how many certificates were renewed. -/
def checkAndRenewCertificates (weather : CheckWeather) (db : CertificateDb)
    (thresholdDays : Int) : Except Str Nat × CertificateDb :=
  match listExpiring weather.listTask weather.list weather.now db thresholdDays with
  | .error error => (.error error, db)
  | .ok expiring =>
      let (renewed, db) := renewAll expiry weather.renewal expiring 0 db
      (.ok renewed, db)

end Obtaining

/-- `AUTO_RENEWAL_INTERVAL_HOURS` -/
def autoRenewalIntervalHours : Nat := 24

/-- `AUTO_RENEWAL_THRESHOLD_DAYS` -/
def autoRenewalThresholdDays : Int := 7

/-! ## What a check does

What one renewal stores is found first, as a function of the settings and the weather alone, so
that the renewals of a check do not depend on each other.  The loop then gives each listed domain
its own outcome, and leaves all others alone. -/

namespace CertificateDb

variable {db : CertificateDb} {domain domain' : Str} {threshold : Int}

/-- A stored row is that of its domain. -/
theorem lookup_putCertificate (row : CertificateRow) (domain : Str) :
    (db.putCertificate row).certificates.lookup domain =
      if domain = row.domain then some row else db.certificates.lookup domain :=
  SqlTable.lookup_insertOrReplace (t := db.certificates) (v := row) rfl domain

theorem mem_expiring :
    domain ∈ db.expiring threshold ↔
      ∃ row, db.certificates.lookup domain = some row ∧ row.expiresAt < threshold := by
  simp only [expiring, List.mem_map, List.mem_filter, decide_eq_true_eq]
  constructor
  · rintro ⟨row, ⟨mem, early⟩, rfl⟩
    exact ⟨row, SqlTable.lookup_eq_some.mpr ⟨mem, rfl⟩, early⟩
  · rintro ⟨row, found, early⟩
    obtain ⟨mem, held⟩ := SqlTable.lookup_eq_some.mp found
    exact ⟨row, ⟨mem, early⟩, Option.some.inj held⟩

end CertificateDb

section Check

variable {expiry : Bytes → Except Str Int} {db : CertificateDb} {domain : Str}

/-- **What is stored** is a certificate that was ordered with the settings, for the domain. -/
theorem issuedRow_eq_ok {weather : IssueWeather} {storeTask : Except Str Unit}
    {store : Plan StatementCall} {now : Int} {settings : CertificateSettings}
    {row : CertificateRow}
    (issued : issuedRow expiry weather storeTask store now settings domain = .ok row) :
    ∃ privateKey certificate expiresAt,
      obtainCertificate expiry weather settings domain = .ok (privateKey, certificate, expiresAt) ∧
      row = storedCertificate now domain privateKey certificate expiresAt := by
  obtain ⟨⟨privateKey, certificate, expiresAt⟩, obtained, issued⟩ := bind_eq_ok.mp issued
  obtain ⟨-, -, issued⟩ := bind_eq_ok.mp issued
  split at issued
  · cases issued
  · exact ⟨privateKey, certificate, expiresAt, obtained, (Except.ok.inj issued).symm⟩

/-- A renewal stores a certificate that was ordered with the settings as they were read. -/
theorem renewedRow_eq_ok {weather : RenewalWeather} {row : CertificateRow}
    (renewed : renewedRow expiry weather db domain = .ok row) :
    ∃ settings privateKey certificate expiresAt,
      db.renewalSettings weather.reads = .ok settings ∧
      obtainCertificate expiry weather.issue settings domain =
        .ok (privateKey, certificate, expiresAt) ∧
      row = storedCertificate weather.now domain privateKey certificate expiresAt := by
  obtain ⟨-, -, renewed⟩ := bind_eq_ok.mp renewed
  obtain ⟨settings, read, issued⟩ := bind_eq_ok.mp renewed
  obtain ⟨privateKey, certificate, expiresAt, obtained, same⟩ := issuedRow_eq_ok issued
  exact ⟨settings, privateKey, certificate, expiresAt, read, obtained, same⟩

theorem renewedRow_domain {weather : RenewalWeather} {row : CertificateRow}
    (renewed : renewedRow expiry weather db domain = .ok row) : row.domain = domain := by
  obtain ⟨_, _, _, _, -, -, rfl⟩ := renewedRow_eq_ok renewed
  rfl

/-- The row of a domain after its renewal, where there is one.  It reads the settings and the
weather, and no certificate. -/
def renewal (expiry : Bytes → Except Str Int) (weather : Str → RenewalWeather)
    (db : CertificateDb) (domain : Str) : Option CertificateRow :=
  (renewedRow expiry (weather domain) db domain).toOption

/-- What a renewal stores does not depend on the certificates. -/
theorem renewal_putCertificate (weather : Str → RenewalWeather) (row : CertificateRow) :
    renewal expiry weather (db.putCertificate row) domain = renewal expiry weather db domain := rfl

/-- One renewal replaces the certificate of its domain, or it changes nothing. -/
theorem renewCertificateForDomain_cases (weather : Str → RenewalWeather) (domain : Str)
    (db : CertificateDb) :
    (∃ row, renewal expiry weather db domain = some row ∧ row.domain = domain ∧
      renewCertificateForDomain expiry (weather domain) db domain =
        (.ok (), db.putCertificate row)) ∨
    (∃ error, renewal expiry weather db domain = none ∧
      renewCertificateForDomain expiry (weather domain) db domain = (.error error, db)) := by
  unfold renewal renewCertificateForDomain
  rcases result : renewedRow expiry (weather domain) db domain with error | row
  · exact Or.inr ⟨error, rfl, rfl⟩
  · exact Or.inl ⟨row, rfl, renewedRow_domain result, rfl⟩

/-- **The loop over the listed domains** gives each its own outcome, whatever the others come
to. -/
theorem renewAll_spec (weather : Str → RenewalWeather) (domains : List Str) (count : Nat)
    (db : CertificateDb) :
    (renewAll expiry weather domains count db).1 =
        count + domains.countP (fun domain => (renewal expiry weather db domain).isSome) ∧
      (renewAll expiry weather domains count db).2.toDb = db.toDb ∧
      ∀ domain, (renewAll expiry weather domains count db).2.certificates.lookup domain =
        if domain ∈ domains then
          (renewal expiry weather db domain).or (db.certificates.lookup domain)
        else db.certificates.lookup domain := by
  induction domains generalizing count db with
  | nil => exact ⟨rfl, rfl, fun domain => by simp [renewAll]⟩
  | cons first rest ih =>
      unfold renewAll
      rcases renewCertificateForDomain_cases weather first db with
        ⟨row, renewed, own, result⟩ | ⟨error, failed, result⟩
      · rw [result]
        obtain ⟨counted, frame, stored⟩ := ih (count + 1) (db.putCertificate row)
        refine ⟨?_, frame, fun domain => ?_⟩
        · refine counted.trans ?_
          rw [List.countP_cons_of_pos (by rw [renewed]; rfl)]
          simp only [renewal_putCertificate]
          omega
        · refine (stored domain).trans ?_
          rw [renewal_putCertificate, CertificateDb.lookup_putCertificate, own]
          by_cases here : domain = first
          · subst here
            rw [renewed]
            simp
          · simp [here]
      · rw [result]
        obtain ⟨counted, frame, stored⟩ := ih count db
        refine ⟨?_, frame, fun domain => ?_⟩
        · rw [List.countP_cons_of_neg (by rw [failed]; simp)]
          exact counted
        · refine (stored domain).trans ?_
          by_cases here : domain = first
          · subst here
            rw [failed]
            simp
          · simp [here]

/-- **What a check has done**, with `count` renewals: each certificate that expires has the
outcome of its own renewal, and everything else is as it was. -/
structure Renewed (expiry : Bytes → Except Str Int) (weather : CheckWeather) (thresholdDays : Int)
    (db db' : CertificateDb) (count : Nat) : Prop where
  /-- A certificate that expires is replaced by the one of its renewal, if there is one; every
  other certificate is left alone. -/
  lookup : ∀ domain, db'.certificates.lookup domain =
    if domain ∈ db.expiring (weather.now + thresholdDays * 86400) then
      (renewal expiry weather.renewal db domain).or (db.certificates.lookup domain)
    else db.certificates.lookup domain
  count : count = (db.expiring (weather.now + thresholdDays * 86400)).countP
    fun domain => (renewal expiry weather.renewal db domain).isSome
  /-- No certificate is gone, and none is there for a new domain. -/
  domains : ∀ domain, (db'.certificates.lookup domain).isSome =
    (db.certificates.lookup domain).isSome
  /-- What still expires did so before, and was not renewed for longer. -/
  expiring : ∀ domain, domain ∈ db'.expiring (weather.now + thresholdDays * 86400) ↔
    domain ∈ db.expiring (weather.now + thresholdDays * 86400) ∧
      ∀ row, renewal expiry weather.renewal db domain = some row →
        row.expiresAt < weather.now + thresholdDays * 86400
  frame : db'.toDb = db.toDb

theorem renewed_of_listed {weather : CheckWeather} {thresholdDays : Int}
    {db : CertificateDb} :
    let result := renewAll expiry weather.renewal
      (db.expiring (weather.now + thresholdDays * 86400)) 0 db
    Renewed expiry weather thresholdDays db result.2 result.1 := by
  intro result
  obtain ⟨counted, frame, stored⟩ := renewAll_spec weather.renewal
    (db.expiring (weather.now + thresholdDays * 86400)) 0 db
  refine
    { lookup := stored
      count := counted.trans (Nat.zero_add _)
      domains := fun domain => ?_
      expiring := fun domain => ?_
      frame := frame }
  · rw [stored domain]
    split
    next listed =>
      obtain ⟨row, found, -⟩ := CertificateDb.mem_expiring.mp listed
      rw [found]
      cases renewal expiry weather.renewal db domain <;> rfl
    next => rfl
  · rw [CertificateDb.mem_expiring, stored domain]
    split
    next listed =>
      obtain ⟨row, found, early⟩ := CertificateDb.mem_expiring.mp listed
      rw [found]
      cases renewal expiry weather.renewal db domain with
      | none => simpa [listed] using early
      | some row' => simp [listed]
    next other => simp [other, ← CertificateDb.mem_expiring]

theorem context_eq_ok {α : Type} {text : Str} {result : Except Str α} {a : α} :
    context text result = .ok a ↔ result = .ok a := by
  rcases result with error | a'
  · exact ⟨fun impossible => (by cases impossible), fun impossible => (by cases impossible)⟩
  · exact Iff.rfl

/-- What is listed are the domains whose certificates expire. -/
theorem listExpiring_eq_ok {listTask : Bool} {list : Plan StatementCall} {now thresholdDays : Int}
    {expiring : List Str}
    (listed : listExpiring listTask list now db thresholdDays = .ok expiring) :
    expiring = db.expiring (now + thresholdDays * 86400) := by
  obtain ⟨-, -, listed⟩ := bind_eq_ok.mp listed
  obtain ⟨-, -, read⟩ := bind_eq_ok.mp (context_eq_ok.mp listed)
  exact (Except.ok.inj read).symm

/-- **A check renews what expires and nothing else**, one failing domain or the other: or the
certificates cannot be listed, and nothing changes. -/
theorem renewed_of_checkAndRenewCertificates (expiry : Bytes → Except Str Int)
    (weather : CheckWeather) (db : CertificateDb) (thresholdDays : Int) :
    let listed := listExpiring weather.listTask weather.list weather.now db thresholdDays
    (∃ error, listed = .error error ∧
      checkAndRenewCertificates expiry weather db thresholdDays = (.error error, db)) ∨
    ∃ count db', listed = .ok (db.expiring (weather.now + thresholdDays * 86400)) ∧
      checkAndRenewCertificates expiry weather db thresholdDays = (.ok count, db') ∧
      Renewed expiry weather thresholdDays db db' count := by
  intro listed
  unfold checkAndRenewCertificates
  rcases result : listExpiring weather.listTask weather.list weather.now db thresholdDays
    with error | expiring
  · exact Or.inl ⟨error, result, rfl⟩
  · obtain rfl := listExpiring_eq_ok result
    exact Or.inr ⟨_, _, result, rfl, renewed_of_listed⟩

end Check

end RustBlocker
