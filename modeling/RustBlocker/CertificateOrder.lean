import RustBlocker.Cloudflare
import RustBlocker.Startup

/-!
# The order of a certificate

`order_certificate` of `acme.rs`: it opens an order, answers the challenge of each authorization
with a TXT record, waits until the order is ready, and fetches the certificate.

* **What the others answer** is an `OrderWeather`: the ACME server, the client of it, the library
  that makes the key and the request, and, for each authorization, Cloudflare.
* **The trace** of an order has the records it asked for, those whose id it was given, and those
  whose deletion it spawned.  A record is deleted by a task that outlives the order.

A record is created before its challenge is set ready, and its deletion is spawned after that:
`cleanedUp_iff` says which orders leave a record behind, and `challengesInZone_iff` in which
accounts the record is created in the right zone.

## The trace

The function returns a key and a chain, or an error; what it has done at Cloudflare is in neither.
So the model returns the trace beside the result, and the trace is built where the calls are made:
an iteration of the loop that ends early returns what it has done so far.  Whether a spawned
deletion succeeds is not followed.  It is a request like any other and may fail, which is logged;
what the order can be held to is that it hands over every record that it has made.

An iteration has three ways to go (`run_cases`), and all that is said of the loop is said by them.
The waiting and the fetching after the loop touch no record, so the trace of an order that opens
is that of its loop (`orderCertificate_trace`), however the rest ends.

A poll asks at most so many times, as the source counts its attempts; the pauses between them take
time and nothing else, and are left out.
-/

namespace RustBlocker

/-! ## Authorizations

An order has an authorization for each name.  One that is pending is answered by a record in the
zone of its domain; the trace keeps which records were asked for, created and deleted, in order. -/

/-- `AuthorizationStatus` -/
inductive AuthorizationStatus where
  | pending
  | valid
  | invalid
  | revoked
  | expired
  | deactivated
deriving DecidableEq, Repr

/-- `{:?}` of a status. -/
def AuthorizationStatus.debug : AuthorizationStatus → Str
  | .pending => "Pending".toList
  | .valid => "Valid".toList
  | .invalid => "Invalid".toList
  | .revoked => "Revoked".toList
  | .expired => "Expired".toList
  | .deactivated => "Deactivated".toList

/-- `Identifier` -/
inductive Identifier where
  | dns (name : Str)
  /-- Any other kind, as it is displayed. -/
  | other (text : Str)
deriving DecidableEq, Repr

/-- An authorization of an order, with the value of the record by which its challenge is
answered. -/
structure Authorization where
  status : AuthorizationStatus
  identifier : Identifier
  wildcard : Bool := false
  /-- The value for the record of its DNS-01 challenge, if it has one. -/
  dnsValue : Option Str
deriving DecidableEq, Repr

namespace Authorization

/-- `{}` of the identifier. -/
def display (authz : Authorization) : Str :=
  (if authz.wildcard then "*.".toList else []) ++
    match authz.identifier with
    | .dns name => name
    | .other text => text

/-- The challenge to answer, as the domain and the value of its record; none where the
authorization is valid. -/
def challenge (authz : Authorization) : Except Str (Option (Str × Str)) :=
  if authz.status = .valid then .ok none
  else if authz.status ≠ .pending then
    .error ("unexpected authorization status for ".toList ++ authz.display ++ ": ".toList ++
      authz.status.debug)
  else
    match authz.dnsValue, authz.identifier with
    | none, _ => .error "no DNS-01 challenge found".toList
    | some value, .dns name => .ok (some (name, value))
    | some _, .other _ => .error "DNS-01 challenge returned non-DNS identifier".toList

end Authorization

/-- An authorization as far as it is received, and the answers in its iteration of the loop.  The
zones are asked by name, so the answer is a function of the name that the code asks for. -/
structure AuthorizationStep where
  authorization : Except Str Authorization
  zones : Str → CloudflareAnswer ZoneListResponse
  record : CreateRecordRequest → CloudflareAnswer RecordResponse
  ready : Except Str Unit

/-- What an order has done at Cloudflare, in the order in which it was done. -/
structure OrderTrace where
  requests : List CreateRecordRequest := []
  /-- The records whose id `create_txt_record` returned, with their zones. -/
  created : List (Str × Str) := []
  /-- The records whose deletion has been spawned. -/
  spawned : List (Str × Str) := []
deriving DecidableEq, Repr

instance : Append OrderTrace where
  append first second :=
    { requests := first.requests ++ second.requests
      created := first.created ++ second.created
      spawned := first.spawned ++ second.spawned }

/-- The record that answers a challenge. -/
def challengeRecord (zoneId domain value : Str) : CreateRecordRequest :=
  txtRecord zoneId ("_acme-challenge.".toList ++ domain) value

namespace AuthorizationStep

/-- The challenge of the iteration. -/
def challenge (step : AuthorizationStep) : Except Str (Option (Str × Str)) :=
  step.authorization.bind Authorization.challenge

/-- One iteration over the authorizations. -/
def run (step : AuthorizationStep) : Except Str Unit × OrderTrace :=
  match step.challenge with
  | .error error => (.error error, {})
  | .ok none => (.ok (), {})
  | .ok (some (domain, value)) =>
      match findZoneId step.zones domain with
      | .error error => (.error error, {})
      | .ok zoneId =>
          let request := challengeRecord zoneId domain value
          match createTxtRecord (step.record request) with
          | .error error => (.error error, { requests := [request] })
          | .ok recordId =>
              match step.ready with
              | .error _ =>
                  -- the iteration ends before the deletion is spawned
                  (.error "failed to set challenge ready".toList,
                    { requests := [request], created := [(zoneId, recordId)] })
              | .ok () =>
                  (.ok (), { requests := [request], created := [(zoneId, recordId)]
                             spawned := [(zoneId, recordId)] })

end AuthorizationStep

/-- The loop over the authorizations. -/
def authorizeAll : List AuthorizationStep → Except Str Unit × OrderTrace
  | [] => (.ok (), {})
  | step :: rest =>
      match step.run with
      | (.error error, trace) => (.error error, trace)
      | (.ok (), trace) => ((authorizeAll rest).1, trace ++ (authorizeAll rest).2)

/-! ## The order

`order_certificate` from the directory to the chain.  What the certificate authority answers is
the weather of the order, and the two loops that poll it have as many attempts as the code gives
them. -/

/-- `OrderStatus` -/
inductive OrderStatus where
  | pending
  | ready
  | processing
  | valid
  | invalid
deriving DecidableEq, Repr

/-- `{:?}` of a status. -/
def OrderStatus.debug : OrderStatus → Str
  | .pending => "Pending".toList
  | .ready => "Ready".toList
  | .processing => "Processing".toList
  | .valid => "Valid".toList
  | .invalid => "Invalid".toList

/-- The directories of Let's Encrypt. -/
inductive AcmeDirectory where
  | staging
  | production
deriving DecidableEq, Repr

/-- `AcmeManager`, without its client. -/
structure AcmeManager where
  directoryUrl : Str
  email : Str

/-- What an order meets: the answers of the certificate authority, poll by poll.  Those of
Cloudflare are with the authorizations. -/
structure OrderWeather where
  builder : Except Str Unit := .ok ()
  /-- `Account::create`, of a directory and a contact. -/
  create : AcmeDirectory → Str → Except Str Unit := fun _ _ => .ok ()
  newOrder : List Str → Except Str OrderStatus := fun _ => .ok .pending
  authorizations : List AuthorizationStep
  refresh : Nat → Except Str OrderStatus := fun _ => .ok .ready
  /-- The parameters of the request, of the names of the certificate. -/
  params : List Str → Except Str Unit := fun _ => .ok ()
  /-- The key, in PEM. -/
  keyPair : Except Str Str
  csr : Except Str Unit := .ok ()
  finalize : Except Str Unit := .ok ()
  /-- The chain of certificates, once there is one. -/
  certificate : Nat → Except Str (Option Str)

/-- A loop that asks until there is an answer, with so many attempts left.  It ends with the error
of a question, or with the one that says that the time is over. -/
def pollUntil {α : Type} (ask : Nat → Except Str (Option α)) (timeout : Str) (left : Nat)
    (attempts : Nat) : Except Str α :=
  match ask attempts with
  | .error error => .error error
  | .ok (some value) => .ok value
  | .ok none =>
      match left with
      | 0 => .error timeout
      | left + 1 => pollUntil ask timeout left (attempts + 1)

namespace AcmeManager

variable (manager : AcmeManager) (domain : Str) (wildcard : Bool) (weather : OrderWeather)

def directory : AcmeDirectory :=
  if "staging".toList <:+: manager.directoryUrl then .staging else .production

def contact : Str := "mailto:".toList ++ manager.email

/-- The names of the order. -/
def identifiers : List Str :=
  if wildcard then ["*.".toList ++ domain, domain] else [domain]

/-- `order_certificate`, up to the authorizations. -/
def openOrder : Except Str Unit := do
  weather.builder
  context "failed to create ACME account".toList
    (weather.create manager.directory manager.contact)
  let status ← context "failed to create ACME order".toList
    (weather.newOrder (identifiers domain wildcard))
  if status = .pending then .ok ()
  else .error ("unexpected initial order status: ".toList ++ status.debug)

/-- One `refresh` of the loop that waits for the order. -/
def askReady (attempts : Nat) : Except Str (Option Unit) := do
  match ← weather.refresh attempts with
  | .ready => .ok (some ())
  | .invalid => .error "order became invalid".toList
  | .pending | .processing => .ok none
  | .valid => .error "order became valid before finalization".toList

/-- `order_certificate`, after the authorizations. -/
def finishOrder : Except Str (Bytes × Bytes) := do
  pollUntil (askReady weather) "timeout waiting for order to become ready".toList 30 0
  weather.params (if wildcard then [domain, "*.".toList ++ domain] else [domain])
  let keyPair ← weather.keyPair
  weather.csr
  weather.finalize
  let chain ← pollUntil weather.certificate "timeout waiting for certificate".toList 30 0
  return (keyPair.utf8, chain.utf8)

/-- **`order_certificate`**, with its trace. -/
def orderCertificate : Except Str (Bytes × Bytes) × OrderTrace :=
  match manager.openOrder domain wildcard weather with
  | .error error => (.error error, {})
  | .ok () =>
      match authorizeAll weather.authorizations with
      | (.error error, trace) => (.error error, trace)
      | (.ok (), trace) => (finishOrder domain wildcard weather, trace)

end AcmeManager

/-! ## What is left behind

The records are deleted at one place, after the loop, and an iteration that fails leaves the loop
at once.  The only record that such an iteration can have made is its own, and only if it fails
after the record was created. -/

/-- **Every record that was created has a deletion of its own.**  The two are compared as
multisets, since the same id may be given out twice. -/
def CleanedUp (trace : OrderTrace) : Prop := trace.created.Subperm trace.spawned

namespace AuthorizationStep

/-- Cloudflare has a zone for the challenge and makes the record.  Any other answer ends the
iteration before there is a record. -/
def Creates (step : AuthorizationStep) (zoneId recordId : Str) : Prop :=
  ∃ domain value, step.challenge = .ok (some (domain, value)) ∧
    findZoneId step.zones domain = .ok zoneId ∧
    createTxtRecord (step.record (challengeRecord zoneId domain value)) = .ok recordId

/-- The authorization is valid, or its challenge is answered. -/
def Passes (step : AuthorizationStep) : Prop :=
  step.challenge = .ok none ∨ (∃ zoneId recordId, step.Creates zoneId recordId) ∧
    step.ready = .ok ()

/-- The challenge cannot be set ready, after its record was created.  This is the only place where
the source leaves the loop with a record that it does not hand over. -/
def FailsReady (step : AuthorizationStep) : Prop :=
  (∃ zoneId recordId, step.Creates zoneId recordId) ∧ ∃ error, step.ready = .error error

theorem creates_iff {step : AuthorizationStep} {domain value zoneId recordId : Str}
    (challenge : step.challenge = .ok (some (domain, value))) :
    step.Creates zoneId recordId ↔ findZoneId step.zones domain = .ok zoneId ∧
      createTxtRecord (step.record (challengeRecord zoneId domain value)) = .ok recordId := by
  constructor
  · rintro ⟨_, _, same, created⟩
    rw [challenge] at same
    cases same
    exact created
  · exact fun created => ⟨domain, value, challenge, created⟩

/-- Without a record an iteration that has a challenge neither passes nor fails at
`set_ready`. -/
theorem stops_of_not_creates {step : AuthorizationStep} (challenged : step.challenge ≠ .ok none)
    (without : ∀ zoneId recordId, ¬ step.Creates zoneId recordId) :
    ¬ step.Passes ∧ ¬ step.FailsReady := by
  have never : ¬ ∃ zoneId recordId, step.Creates zoneId recordId :=
    fun ⟨zoneId, recordId, created⟩ => without zoneId recordId created
  exact ⟨fun passes => passes.elim challenged fun created => never created.1,
    fun fails => never fails.1⟩

/-- **What an iteration can do**: pass and leave nothing, stop at `set_ready` with a record, or
stop before there is one. -/
theorem run_cases (step : AuthorizationStep) :
    (step.Passes ∧ step.run.1 = .ok () ∧ step.run.2.created = step.run.2.spawned) ∨
      (step.FailsReady ∧ step.run.1 = .error "failed to set challenge ready".toList ∧
        ∃ record, step.run.2.created = [record] ∧ step.run.2.spawned = []) ∨
      (¬ step.Passes ∧ ¬ step.FailsReady ∧ (∃ error, step.run.1 = .error error) ∧
        step.run.2.created = [] ∧ step.run.2.spawned = []) := by
  unfold run
  split
  next error challenge =>
    have challenged : step.challenge ≠ .ok none := by
      rw [challenge]
      exact fun same => by cases same
    obtain ⟨passes, fails⟩ := stops_of_not_creates challenged (by
      rintro _ _ ⟨_, _, other, -⟩
      rw [challenge] at other
      cases other)
    exact Or.inr (Or.inr ⟨passes, fails, ⟨error, rfl⟩, rfl, rfl⟩)
  next challenge => exact Or.inl ⟨Or.inl challenge, rfl, rfl⟩
  next domain value challenge =>
    have challenged : step.challenge ≠ .ok none := by
      rw [challenge]
      exact fun same => by cases same
    split
    next error zone =>
      obtain ⟨passes, fails⟩ := stops_of_not_creates challenged (by
        intro zoneId recordId created
        rw [creates_iff challenge, zone] at created
        cases created.1)
      exact Or.inr (Or.inr ⟨passes, fails, ⟨error, rfl⟩, rfl, rfl⟩)
    next zoneId zone =>
      extract_lets request
      split
      next error record =>
        obtain ⟨passes, fails⟩ := stops_of_not_creates challenged (by
          intro zoneId' recordId created
          obtain ⟨here, other⟩ := (creates_iff challenge).mp created
          obtain rfl := Except.ok.inj (zone.symm.trans here)
          rw [record] at other
          cases other)
        exact Or.inr (Or.inr ⟨passes, fails, ⟨error, rfl⟩, rfl, rfl⟩)
      next recordId record =>
        have created : ∃ zoneId recordId, step.Creates zoneId recordId :=
          ⟨zoneId, recordId, (creates_iff challenge).mpr ⟨zone, record⟩⟩
        split
        next error ready =>
          exact Or.inr (Or.inl ⟨⟨created, error, ready⟩, rfl, _, rfl, rfl⟩)
        next ready => exact Or.inl ⟨Or.inr ⟨created, ready⟩, rfl, rfl⟩

theorem not_passes_of_failsReady {step : AuthorizationStep} (fails : step.FailsReady) :
    ¬ step.Passes := by
  obtain ⟨⟨_, _, _, _, challenge, -⟩, error, ready⟩ := fails
  rintro (valid | ⟨-, other⟩)
  · rw [valid] at challenge
    cases challenge
  · rw [ready] at other
    cases other

end AuthorizationStep

/-- **The loop comes to an iteration that leaves its record behind.** -/
def LosesRecord : List AuthorizationStep → Prop
  | [] => False
  | step :: rest => step.FailsReady ∨ step.Passes ∧ LosesRecord rest

/-- The loop over the authorizations leaves a record behind exactly if it comes to such an
iteration. -/
theorem cleanedUp_authorizeAll_iff (steps : List AuthorizationStep) :
    CleanedUp (authorizeAll steps).2 ↔ ¬ LosesRecord steps := by
  induction steps with
  | nil => exact iff_of_true (List.Subperm.refl _) id
  | cons step rest ih =>
      rcases run : step.run with ⟨result, trace⟩
      rcases step.run_cases with ⟨passes, passed, paired⟩ |
          ⟨fails, stopped, record, created, unspawned⟩ |
          ⟨blocked, calm, ⟨error, stopped⟩, created, unspawned⟩
      · rw [run] at passed paired
        subst passed
        have whole : authorizeAll (step :: rest) =
            ((authorizeAll rest).1, trace ++ (authorizeAll rest).2) := by
          rw [authorizeAll, run]
        have later : CleanedUp (trace ++ (authorizeAll rest).2) ↔
            CleanedUp (authorizeAll rest).2 := by
          show (trace.created ++ (authorizeAll rest).2.created).Subperm
            (trace.spawned ++ (authorizeAll rest).2.spawned) ↔ _
          rw [paired]
          exact List.subperm_append_left _
        rw [whole, later, ih]
        constructor
        · rintro safe (fails | ⟨-, loses⟩)
          · exact AuthorizationStep.not_passes_of_failsReady fails passes
          · exact safe loses
        · exact fun safe loses => safe (Or.inr ⟨passes, loses⟩)
      · rw [run] at stopped created unspawned
        subst stopped
        have whole : authorizeAll (step :: rest) =
            (.error "failed to set challenge ready".toList, trace) := by
          rw [authorizeAll, run]
        rw [whole]
        refine iff_of_false (fun clean => ?_) fun safe => safe (Or.inl fails)
        have fewer := List.Subperm.length_le clean
        rw [created, unspawned] at fewer
        exact absurd fewer (Nat.not_succ_le_zero _)
      · rw [run] at stopped created unspawned
        subst stopped
        have whole : authorizeAll (step :: rest) = (.error error, trace) := by
          rw [authorizeAll, run]
        rw [whole]
        refine iff_of_true ?_ ?_
        · show trace.created.Subperm trace.spawned
          rw [created, unspawned]
        · rintro (fails | ⟨passes, -⟩)
          · exact calm fails
          · exact blocked passes

/-- The order is opened. -/
structure Opens (manager : AcmeManager) (domain : Str) (wildcard : Bool)
    (weather : OrderWeather) : Prop where
  builder : weather.builder = .ok ()
  account : weather.create manager.directory manager.contact = .ok ()
  order : weather.newOrder (AcmeManager.identifiers domain wildcard) = .ok .pending

theorem openOrder_eq_ok_iff {manager : AcmeManager} {domain : Str} {wildcard : Bool}
    {weather : OrderWeather} :
    manager.openOrder domain wildcard weather = .ok () ↔ Opens manager domain wildcard weather := by
  unfold AcmeManager.openOrder
  constructor
  · intro opened
    rcases builder : weather.builder with error | ⟨⟩
    · rw [builder] at opened
      cases opened
    rw [builder] at opened
    obtain ⟨⟨⟩, account, opened⟩ := context_bind_eq_ok.mp opened
    obtain ⟨status, order, opened⟩ := context_bind_eq_ok.mp opened
    by_cases pending : status = .pending
    · exact ⟨builder, account, pending ▸ order⟩
    · rw [if_neg pending] at opened
      cases opened
  · rintro ⟨builder, account, order⟩
    rw [builder]
    exact context_bind_eq_ok.mpr ⟨(), account, context_bind_eq_ok.mpr ⟨.pending, order, rfl⟩⟩

/-- The trace of an order that opens is the one of its loop over the authorizations. -/
theorem orderCertificate_trace {manager : AcmeManager} {domain : Str} {wildcard : Bool}
    {weather : OrderWeather} (opens : Opens manager domain wildcard weather) :
    (manager.orderCertificate domain wildcard weather).2 =
      (authorizeAll weather.authorizations).2 := by
  unfold AcmeManager.orderCertificate
  rw [openOrder_eq_ok_iff.mpr opens]
  rcases authorizeAll weather.authorizations with ⟨error | ⟨⟩, trace⟩ <;> rfl

/-- An order that does not open does nothing at Cloudflare. -/
theorem orderCertificate_unopened {manager : AcmeManager} {domain : Str} {wildcard : Bool}
    {weather : OrderWeather} (closed : ¬ Opens manager domain wildcard weather) :
    (manager.orderCertificate domain wildcard weather).2 = {} := by
  unfold AcmeManager.orderCertificate
  rcases opened : manager.openOrder domain wildcard weather with error | ⟨⟩
  · rfl
  · exact absurd (openOrder_eq_ok_iff.mp opened) closed

/-- **An order leaves no record behind** exactly if it does not come to an authorization whose
challenge cannot be set ready after the record was created. -/
theorem cleanedUp_iff (manager : AcmeManager) (domain : Str) (wildcard : Bool)
    (weather : OrderWeather) :
    CleanedUp (manager.orderCertificate domain wildcard weather).2 ↔
      (Opens manager domain wildcard weather → ¬ LosesRecord weather.authorizations) := by
  by_cases opens : Opens manager domain wildcard weather
  · rw [orderCertificate_trace opens, cleanedUp_authorizeAll_iff]
    exact ⟨fun safe _ => safe, fun safe => safe opens⟩
  · rw [orderCertificate_unopened opens]
    exact iff_of_true (List.Subperm.refl _) fun opened => absurd opened opens

/-- The zone of the examples. -/
def exampleAccount : CloudflareAccount where
  zones := [{ id := "z1".toList, name := "example.com".toList }]
  ids := by decide

/-- The pending authorization of a domain, with an account that makes its record. -/
def pendingStep (account : CloudflareAccount) (domain : Str) (ready : Except Str Unit) :
    AuthorizationStep where
  authorization := .ok { status := .pending, identifier := .dns domain
                         dnsValue := some "digest".toList }
  zones := account.list
  record _ := .answered 200 "OK".toList [] (some { id := "r1".toList, success := true })
  ready := ready

/-- **The record of the only authorization is left behind** when its challenge cannot be set
ready. -/
theorem not_cleanedUp_of_failing_set_ready :
    let weather : OrderWeather :=
      { authorizations := [pendingStep exampleAccount "dns.example.com".toList
          (.error "timeout".toList)]
        keyPair := .ok "key".toList
        certificate := fun _ => .ok (some "chain".toList) }
    let ended := AcmeManager.orderCertificate
      { directoryUrl := "production".toList, email := "admin@example.com".toList }
      "dns.example.com".toList false weather
    ended.1 = .error "failed to set challenge ready".toList ∧
      ended.2.created = [("z1".toList, "r1".toList)] ∧ ended.2.spawned = [] ∧
      ¬ CleanedUp ended.2 := by
  intro weather ended
  have created : ended.2.created = [("z1".toList, "r1".toList)] := by decide +kernel
  have unspawned : ended.2.spawned = [] := by decide +kernel
  refine ⟨rfl, created, unspawned, fun clean => ?_⟩
  have fewer := List.Subperm.length_le clean
  rw [created, unspawned] at fewer
  exact absurd fewer (Nat.not_succ_le_zero _)

/-! ## The zone of the record

Every record that is asked for is in the zone that was found for its domain.  Whether this is the
right zone has been settled for a single domain; here the account of the order is compared with
it. -/

/-- A record is asked for in the loop over the authorizations, by an iteration that is reached. -/
theorem mem_requests_authorizeAll_iff {steps : List AuthorizationStep}
    {request : CreateRecordRequest} :
    request ∈ (authorizeAll steps).2.requests ↔
      ∃ before step after, steps = before ++ step :: after ∧
        (∀ earlier ∈ before, earlier.run.1 = .ok ()) ∧ request ∈ step.run.2.requests := by
  induction steps with
  | nil =>
      refine iff_of_false List.not_mem_nil ?_
      rintro ⟨before, step, after, same, -⟩
      exact List.append_ne_nil_of_right_ne_nil _ (List.cons_ne_nil _ _) same.symm
  | cons first rest ih =>
      have starts : request ∈ (authorizeAll (first :: rest)).2.requests ↔
          request ∈ first.run.2.requests ∨
            first.run.1 = .ok () ∧ request ∈ (authorizeAll rest).2.requests := by
        rcases run : first.run with ⟨error | ⟨⟩, trace⟩
        · have whole : authorizeAll (first :: rest) = (.error error, trace) := by
            rw [authorizeAll, run]
          rw [whole]
          exact ⟨Or.inl, fun either => either.resolve_right fun passed => by cases passed.1⟩
        · have whole : authorizeAll (first :: rest) =
              ((authorizeAll rest).1, trace ++ (authorizeAll rest).2) := by
            rw [authorizeAll, run]
          rw [whole]
          show request ∈ trace.requests ++ (authorizeAll rest).2.requests ↔ _
          rw [List.mem_append]
          exact or_congr_right ⟨fun later => ⟨rfl, later⟩, fun later => later.2⟩
      rw [starts, ih]
      constructor
      · rintro (here | ⟨passed, before, step, after, rfl, passes, there⟩)
        · exact ⟨[], first, rest, rfl, fun _ mem => absurd mem List.not_mem_nil, here⟩
        · exact ⟨first :: before, step, after, rfl,
            List.forall_mem_cons.mpr ⟨passed, passes⟩, there⟩
      · rintro ⟨before, step, after, same, passes, there⟩
        rcases before with - | ⟨earlier, before⟩
        · cases same
          exact Or.inl there
        · cases same
          rw [List.forall_mem_cons] at passes
          exact Or.inr ⟨passes.1, before, step, after, rfl, passes.2, there⟩

/-- **The zone of a domain is found and its record created in it**: `find_zone_id` finds the
longest zone, and an order that comes to a challenge for the domain asks for the record there;
where there is no zone, it asks for none. -/
structure ChallengesInZone (account : CloudflareAccount) (domain : Str) : Prop
    extends FindsZone account domain where
  created : ∀ (manager : AcmeManager) (name : Str) (wildcard : Bool) (weather : OrderWeather)
    (before : List AuthorizationStep) (step : AuthorizationStep) (after : List AuthorizationStep)
    (value : Str), Opens manager name wildcard weather →
    weather.authorizations = before ++ step :: after →
    (∀ earlier ∈ before, earlier.run.1 = .ok ()) →
    step.zones = account.list → step.challenge = .ok (some (domain, value)) →
    ∀ zone, LongestZone account domain zone →
      ∃ same, LongestZone account domain same ∧
        step.run.2.requests = [challengeRecord same.id domain value] ∧
        challengeRecord same.id domain value ∈
          (manager.orderCertificate name wildcard weather).2.requests
  uncreated : ∀ step : AuthorizationStep, step.zones = account.list →
    (∀ zone ∈ account.zones, ¬ labels zone.name <:+ labels domain) →
    ∀ value, step.challenge = .ok (some (domain, value)) →
      step.run.2.requests = [] ∧ ∃ error, step.run.1 = .error error

/-- The one record an iteration asks for is in the zone that is found. -/
theorem AuthorizationStep.requests_of_found {step : AuthorizationStep} {domain value zoneId : Str}
    (challenge : step.challenge = .ok (some (domain, value)))
    (found : findZoneId step.zones domain = .ok zoneId) :
    step.run.2.requests = [challengeRecord zoneId domain value] := by
  simp only [AuthorizationStep.run, challenge, found]
  rcases createTxtRecord (step.record (challengeRecord zoneId domain value)) with error | recordId
  · rfl
  · rcases step.ready with error | ⟨⟩ <;> rfl

/-- Where no zone is found, no record is asked for. -/
theorem AuthorizationStep.run_of_missing {step : AuthorizationStep} {domain value error : Str}
    (challenge : step.challenge = .ok (some (domain, value)))
    (missing : findZoneId step.zones domain = .error error) :
    step.run = (.error error, {}) := by
  simp only [AuthorizationStep.run, challenge, missing]

/-- **The zone of a domain is found and its record created in it** exactly if the longest zone
has two labels, or all the labels of a domain that has no more. -/
theorem challengesInZone_iff (account : CloudflareAccount) (domain : Str) :
    ChallengesInZone account domain ↔
      ∀ zone, LongestZone account domain zone →
        (labels zone.name).length = min 2 (labels domain).length := by
  refine ⟨fun law => findsZone_iff.mp law.toFindsZone, fun lengths => ?_⟩
  have finds := findsZone_iff.mpr lengths
  refine ⟨finds, ?_, fun step zones unlisted value challenge => ?_⟩
  · intro manager name wildcard weather before step after value opens steps passes zones challenge
      zone longest
    obtain ⟨same, longest', found⟩ := finds.found zone longest
    rw [← zones] at found
    have requests := AuthorizationStep.requests_of_found challenge found
    refine ⟨same, longest', requests, ?_⟩
    rw [orderCertificate_trace opens, mem_requests_authorizeAll_iff]
    exact ⟨before, step, after, steps, passes, requests ▸ List.mem_singleton_self _⟩
  · obtain ⟨error, missing⟩ := finds.missing unlisted
    rw [← zones] at missing
    rw [AuthorizationStep.run_of_missing challenge missing]
    exact ⟨rfl, error, rfl⟩

/-- **A zone under a public suffix of two labels is not found**, and no record is created. -/
theorem not_challengesInZone_co_uk :
    let account : CloudflareAccount :=
      { zones := [{ id := "z1".toList, name := "example.co.uk".toList }], ids := by decide }
    let domain := "www.example.co.uk".toList
    LongestZone account domain { id := "z1".toList, name := "example.co.uk".toList } ∧
      findZoneId account.list domain =
        .error "zone not found for domain: www.example.co.uk".toList ∧
      (pendingStep account domain (.ok ())).run.2.requests = [] ∧
      ¬ ChallengesInZone account domain := by
  intro account domain
  have longest : LongestZone account domain
      { id := "z1".toList, name := "example.co.uk".toList } := by
    refine ⟨List.mem_singleton_self _, by decide +kernel, fun other here _ => ?_⟩
    rw [List.mem_singleton.mp here]
  have missing : findZoneId account.list domain =
      .error "zone not found for domain: www.example.co.uk".toList := by decide +kernel
  refine ⟨longest, missing, by decide +kernel, fun law => ?_⟩
  obtain ⟨same, -, found⟩ := law.found _ longest
  rw [missing] at found
  cases found

end RustBlocker
