import RustBlocker.Handler
import RustBlocker.Responding
import RustBlocker.SocketAddr

/-!
# What a client is sent

`resolve` stands between the message of a client and the messages of the upstreams: it passes a
question on, an answer back, and reports a resolver to the query log.

* **Messages** are those of the DNS library, without a signature; the records are opaque.  What
  the library does to the size of an EDNS record, and to the metadata of a refusal, is a
  parameter.
* **An upstream** answers over UDP, and again over TCP where that answer is truncated.  When it
  does, and what it makes of the question, is up to the event.
* **The label** that is reported is the address of the upstream, or a word for what went wrong.

`relayed_of_exec` is about every message that a client is sent, `labelled_of_exec` about what the
log says of the last one.

## How the answers get in

An upstream is a function of the question it is sent, so that an event is of the upstream and not
of what the server hopes for; the machine applies it to the question that the resolver really
sends. The machine itself is the one of `Responding`, with the messages for answers, and each
result begins with what is known there: every answer that is sent was given by an upstream that
was asked (`Sourced`).  What remains is the way of a single message through `downstream_message`.

Of the library only two things are assumed, as fields of `MessageRules`: a size that is set is at
most the one asked for, or 512 if that is more, and the id of a refusal is that of its request.

The label is compared with the last message that was sent and not with the first, because a send
that is dropped by the deadline is followed by another one.
-/

namespace RustBlocker

/-! ## Messages

The fields that `resolve` reads and writes, and the two translations between the message of a
client and those of the upstreams.  What a record contains is never looked at. -/

/-- `ResponseCode`, in full. -/
inductive WireCode where
  | noError
  | formErr
  | servFail
  | nxDomain
  | notImp
  | refused
  | yxDomain
  | yxRRSet
  | nxRRSet
  | notAuth
  | notZone
  | badVers
  | badSig
  | badKey
  | badTime
  | badMode
  | badName
  | badAlg
  | badTrunc
  | badCookie
  | unknown (code : UInt16)
deriving DecidableEq, Repr

structure Metadata where
  id : UInt16
  isResponse : Bool := false
  opCode : Nat := 0
  authoritative : Bool := false
  truncation : Bool := false
  recursionDesired : Bool := false
  recursionAvailable : Bool := false
  authenticData : Bool := false
  checkingDisabled : Bool := false
  responseCode : WireCode := .noError
deriving DecidableEq

/-- An EDNS record with its flags. -/
structure WireEdns extends Edns where
  rcodeHigh : Nat := 0
  dnssecOk : Bool := false
  z : Nat := 0
deriving DecidableEq

/-- `Message`, of any records; what a record holds is never looked at. -/
structure WireMessage (R : Type) where
  metadata : Metadata
  queries : List Query := []
  answers : List R := []
  authorities : List R := []
  additionals : List R := []
  edns : Option WireEdns := none

/-- What `resolve` reads of the request of a client: its metadata, its questions and its EDNS
record. -/
structure ClientRequest where
  metadata : Metadata
  queries : List Query
  edns : Option WireEdns := none

structure DnsRequestOptions where
  useEdns : Bool
  ednsPayloadLen : Nat
  ednsSetDnssecOk : Bool
  recursionDesired : Bool

structure DnsRequest (R : Type) where
  message : WireMessage R
  options : DnsRequestOptions

/-- What the DNS library makes of sizes and of metadata.  The two proofs are what it documents of
them. -/
structure MessageRules where
  /-- `Edns::set_max_payload`, which takes no size below 512. -/
  setMaxPayload : Nat → Nat
  setMaxPayload_le : ∀ size, setMaxPayload size ≤ max size 512
  /-- `Message::max_payload` -/
  maxPayload : Option WireEdns → Nat
  /-- `Metadata::response_from_request` -/
  responseFrom : Metadata → Metadata
  id_responseFrom : ∀ metadata, (responseFrom metadata).id = metadata.id

/-- `NetError`, as far as it is told apart. -/
inductive NetError where
  | timeout
  /-- An I/O error, of the kinds `TimedOut` or `WouldBlock` or not. -/
  | io (timedOut : Bool)
  | noConnections
  | busy
  | proto
  | queryCaseMismatch
  | parseInt
  | other
deriving DecidableEq, Repr

section Messages

variable {R : Type} (rules : MessageRules)

/-- `upstream_request` -/
def upstreamRequest (metadata : Metadata) (query : Query) (edns : Option WireEdns) :
    DnsRequest R :=
  let message : WireMessage R := { metadata, queries := [query], edns }
  { message
    options :=
      { useEdns := message.edns.isSome
        ednsPayloadLen := rules.maxPayload message.edns
        ednsSetDnssecOk := message.edns.any WireEdns.dnssecOk
        recursionDesired := message.metadata.recursionDesired } }

/-- `downstream_message` -/
def downstreamMessage (message : WireMessage R) (requestId : UInt16)
    (clientEdns : Option WireEdns) : WireMessage R :=
  let message := { message with metadata := { message.metadata with id := requestId } }
  match clientEdns, message.edns with
  | some client, some upstream =>
      let size := rules.setMaxPayload (min upstream.maxPayload client.maxPayload)
      { message with edns := some { upstream with maxPayload := size } }
  | none, _ => { message with edns := none }
  | some _, none => message

/-- The response of `send_upstream_response`; its builder has the questions of the request. -/
def upstreamResponse (request : ClientRequest) (response : WireMessage R) : WireMessage R :=
  { downstreamMessage rules response request.metadata.id request.edns with
    queries := request.queries }

/-- The response of `send_servfail`. -/
def servfailResponse (request : ClientRequest) : WireMessage R where
  metadata := { rules.responseFrom request.metadata with responseCode := .servFail }
  queries := request.queries

/-- What an upstream does with a request: over UDP, and over TCP where it is asked again. -/
structure UpstreamTalk (R : Type) where
  udp : Except NetError (WireMessage R)
  connect : Except NetError Unit := .error .noConnections
  tcp : Except NetError (WireMessage R) := .error .noConnections

/-- `UpstreamClient::query` -/
def UpstreamTalk.query (talk : UpstreamTalk R) : Except NetError (WireMessage R) := do
  let response ← talk.udp
  if !response.metadata.truncation then return response
  talk.connect
  talk.tcp

/-! ## Labels -/

/-- `response_code_label` -/
def responseCodeLabel : WireCode → Str
  | .noError => "noerror".toList
  | .formErr => "formerr".toList
  | .servFail => "servfail".toList
  | .nxDomain => "nxdomain".toList
  | .notImp => "notimp".toList
  | .refused => "refused".toList
  | .yxDomain => "yxdomain".toList
  | .yxRRSet => "yxrrset".toList
  | .nxRRSet => "nxrrset".toList
  | .notAuth => "notauth".toList
  | .notZone => "notzone".toList
  | .badVers => "badvers".toList
  | .badSig => "badsig".toList
  | .badKey => "badkey".toList
  | .badTime => "badtime".toList
  | .badMode => "badmode".toList
  | .badName => "badname".toList
  | .badAlg => "badalg".toList
  | .badTrunc => "badtrunc".toList
  | .badCookie => "badcookie".toList
  | .unknown _ => "unknown_response".toList

/-- `response_label` -/
def responseLabel (response : WireMessage R) (address : Option Str) : Str :=
  match response.metadata.responseCode with
  | .noError =>
      if response.answers.isEmpty then "nodata".toList else address.getD "unknown".toList
  | code => responseCodeLabel code

/-- `classify_upstream_failure` -/
def classifyUpstreamFailure : NetError → Str
  | .timeout | .io true => "timeout".toList
  | .io false | .noConnections | .busy => "transport_error".toList
  | .proto | .queryCaseMismatch | .parseInt => "protocol_error".toList
  | .other => "upstream_error".toList

/-- The `resolver` of the result: of a query that is over, or of a request without one. -/
def resolverLabel (addresses : List Str) :
    Option (ForwardExit (WireMessage R) NetError) → Str
  | none => "invalid_query".toList
  | some (.answered idx response) => responseLabel response addresses[idx]?
  | some (.failed (some error)) => classifyUpstreamFailure error
  | some (.failed none) => "upstream_error".toList
  | some .timedOut => "timeout".toList
  | some .noUpstream => "no_upstream".toList
  | some .outOfRange => []

/-! ## Requests -/

/-- What happens to a request: an upstream is done with it, a timer runs out, or a send goes on. -/
inductive RelayEvent (R : Type) where
  /-- An upstream in flight is done with the request. -/
  | settles (idx : Nat) (upstream : DnsRequest R → UpstreamTalk R) (latencyUs : UInt64)
  | hedge
  | drained
  | deadline
  | suspends
  | completes (delivered : Bool)

/-- The event of the query, where the upstreams are sent `asked`. -/
def RelayEvent.event (asked : Option (DnsRequest R)) :
    RelayEvent R → Option (ResolveEvent (WireMessage R) NetError)
  | settles idx upstream latencyUs =>
      asked.map fun asked =>
        match (upstream asked).query with
        | .ok response => .forward (.answers idx response latencyUs)
        | .error error => .forward (.fails idx error)
  | hedge => some (.forward .hedge)
  | drained => some (.forward .drained)
  | deadline => some (.forward .deadline)
  | suspends => some .suspends
  | completes delivered => some (.completes delivered)

/-- The response that is sent. -/
def responseOf (request : ClientRequest) : Sent (WireMessage R) → WireMessage R
  | .forwarded _ response => upstreamResponse rules request response
  | .servfail => servfailResponse rules request

/-- What the upstreams are sent: the first question of the client, as it came. -/
def askedOf (request : ClientRequest) : Option (DnsRequest R) :=
  request.queries.head?.map fun query =>
    upstreamRequest rules request.metadata query request.edns

end Messages

/-- **A request, its upstreams and its client.** -/
def relaying (R : Type) (rules : MessageRules) (request : ClientRequest) (resolver : Resolver) :
    StateMachine (Resolution (WireMessage R) NetError) (RelayEvent R) where
  init s := ∃ forwarder : ParallelForwarder,
    forwarder.resolver = resolver ∧ s = .resolve (!request.queries.isEmpty) forwarder
  step s event := do
    let event ← event.event (askedOf rules request)
    s.step resolver event

/-! ## Where responses and errors come from

The account of a query: whatever is sent was given by an upstream that was asked, and the way in
which the query ends goes with the last response. -/

/-- The response that a query ends with, but for a panic. -/
def ForwardExit.response {ρ ε : Type} : ForwardExit ρ ε → Option (Sent ρ)
  | .answered idx response => some (.forwarded idx response)
  | .failed _ | .timedOut | .noUpstream => some .servfail
  | .outOfRange => none

theorem ForwardExit.response_eq_forwarded {ρ ε : Type} {exit : ForwardExit ρ ε} {idx : Nat}
    {answer : ρ} :
    exit.response = some (.forwarded idx answer) ↔ exit = .answered idx answer := by
  cases exit with
  | answered => simp [ForwardExit.response]
  | failed | timedOut | noUpstream | outOfRange => simp [ForwardExit.response]

namespace ForwardRun

variable {ρ ε : Type} {sends : Nat → Bool} {s t : ForwardRun ρ ε} {given : Nat → ρ → Prop}

/-- **Every answer was given** by one of the clients that was asked, and the last response is the
one the query ended with. -/
structure Sourced (clients : List (IpAddr × Nat)) (given : Nat → ρ → Prop)
    (s : ForwardRun ρ ε) : Prop where
  same : s.forwarder.clients = clients
  inFlight : ∀ idx ∈ s.inFlight, idx < clients.length
  answers : ∀ idx response, .forwarded idx response ∈ s.sent →
    idx < clients.length ∧ given idx response
  unsent : s.exit = none → s.sent = []
  delivered : s.delivered = true → s.sent ≠ []
  ends : ∀ exit, s.exit = some exit → s.sent.getLast? = exit.response

variable {clients : List (IpAddr × Nat)}

/-- Nothing is sent before the query is over. -/
theorem Sourced.send (sourced : Sourced clients given s) {response : Sent ρ}
    {exit : ForwardExit ρ ε} (pair : exit.response = some response)
    (answer : ∀ idx answer, response = .forwarded idx answer →
      idx < clients.length ∧ given idx answer) :
    Sourced clients given (s.send sends response exit) where
  same := sourced.same
  inFlight := sourced.inFlight
  answers idx message mem := by
    rcases List.mem_append.mp mem with old | new
    · exact sourced.answers idx message old
    · exact answer idx message (List.mem_singleton.mp new).symm
  unsent going := by cases going
  delivered _ := List.append_ne_nil_of_right_ne_nil _ (List.cons_ne_nil _ _)
  ends exit' ended := by
    obtain rfl := Option.some.inj ended
    change (s.sent ++ [response]).getLast? = _
    rw [List.getLast?_concat, pair]

theorem Sourced.servfail (sourced : Sourced clients given s) {exit : ForwardExit ρ ε}
    (pair : exit.response = some .servfail) :
    Sourced clients given (s.send sends .servfail exit) :=
  sourced.send pair fun _ _ impossible => by cases impossible

theorem Sourced.launch (sourced : Sourced clients given s) (going : s.exit = none) (idx : Nat) :
    Sourced clients given (s.launch idx) := by
  unfold ForwardRun.launch
  split
  next client here =>
    refine
      { same := sourced.same
        inFlight := fun idx' mem => ?_
        answers := sourced.answers
        unsent := sourced.unsent
        delivered := sourced.delivered
        ends := fun exit ended => by cases going.symm.trans ended }
    rcases List.mem_append.mp mem with old | new
    · exact sourced.inFlight idx' old
    · obtain rfl := List.mem_singleton.mp new
      rw [← sourced.same]
      exact (List.getElem?_eq_some_iff.mp here).1
  next => exact sourced

theorem Sourced.launchNext (sourced : Sourced clients given s) (going : s.exit = none) :
    Sourced clients given s.launchNext := by
  unfold ForwardRun.launchNext
  split
  next idx here =>
    have launched := sourced.launch going idx
    exact
      { same := launched.same
        inFlight := launched.inFlight
        answers := launched.answers
        unsent := launched.unsent
        delivered := launched.delivered
        ends := launched.ends }
  next =>
    refine
      { same := sourced.same
        inFlight := sourced.inFlight
        answers := sourced.answers
        unsent := fun going => by cases going
        delivered := sourced.delivered
        ends := fun exit ended => ?_ }
    obtain rfl := Option.some.inj ended
    change s.sent.getLast? = none
    rw [sourced.unsent going]
    rfl

theorem Sourced.loopTop (sourced : Sourced clients given s) :
    Sourced clients given (s.loopTop sends) := by
  unfold ForwardRun.loopTop
  split
  next idle =>
    have going : s.exit = none := Option.isNone_iff_eq_none.mp (Bool.and_eq_true_iff.mp idle).1
    split
    next => exact sourced.servfail rfl
    next => exact sourced.launchNext going
  next => exact sourced

theorem sourced_start (forwarder : ParallelForwarder) (resolver : Resolver) :
    Sourced (ε := ε) forwarder.clients given (.start sends forwarder resolver) := by
  have fresh : ∀ run : ForwardRun ρ ε, run.forwarder = forwarder → run.exit = none →
      run.sent = [] → run.delivered = false →
      (∀ idx ∈ run.inFlight, idx < forwarder.clients.length) →
      Sourced forwarder.clients given run := by
    intro run forwarder' going unsent undelivered inFlight
    refine
      { same := by rw [forwarder']
        inFlight := inFlight
        answers := fun idx response mem => ?_
        unsent := fun _ => unsent
        delivered := fun delivered => by cases undelivered.symm.trans delivered
        ends := fun exit ended => by cases going.symm.trans ended }
    rw [unsent] at mem
    cases mem
  have launched : ∀ idx ∈ ([] : List Nat), idx < forwarder.clients.length :=
    fun _ mem => absurd mem List.not_mem_nil
  unfold ForwardRun.start
  cases resolver with
  | one =>
      simp only
      split
      next => exact (fresh _ rfl rfl rfl rfl launched).servfail rfl
      next => exact (fresh _ rfl rfl rfl rfl launched).launch rfl 0
  | parallel =>
      simp only
      have all := fresh
        { forwarder
          inFlight := List.range forwarder.clients.length
          launched := List.range forwarder.clients.length } rfl rfl rfl rfl
        fun idx mem => List.mem_range.mp mem
      split
      next => exact all.servfail rfl
      next => exact all
  | adaptive =>
      simp only
      split
      next => exact (fresh _ rfl rfl rfl rfl launched).servfail rfl
      next => exact ((fresh _ rfl rfl rfl rfl launched).launchNext rfl).loopTop

theorem Sourced.settle (sourced : Sourced clients given s) (going : s.exit = none)
    {run : ForwardRun ρ ε} (idx : Nat) (result : Except ε ρ)
    (same : run.forwarder.clients = s.forwarder.clients)
    (inFlight : run.inFlight = (s.settle idx result).inFlight) (sent : run.sent = s.sent)
    (goes : run.exit = s.exit) (delivered : run.delivered = s.delivered) :
    Sourced clients given run where
  same := same.trans sourced.same
  inFlight idx' mem := by
    rw [inFlight] at mem
    exact sourced.inFlight idx' (List.mem_of_mem_erase mem)
  answers idx' response mem := by
    rw [sent] at mem
    exact sourced.answers idx' response mem
  unsent _ := sent.trans (sourced.unsent going)
  delivered arrived := by
    rw [sent]
    exact sourced.delivered (delivered.symm.trans arrived)
  ends exit ended := by cases (goes.trans going).symm.trans ended

/-- **One event** of a query, an answer of which is given. -/
theorem Sourced.step (sourced : Sourced clients given s) {resolver : Resolver}
    {event : ForwardEvent ρ ε}
    (answer : ∀ idx response latencyUs, event = .answers idx response latencyUs →
      given idx response)
    (stepped : s.step sends resolver event = some t) : Sourced clients given t := by
  unfold ForwardRun.step at stepped
  split at stepped
  next => cases stepped
  next idx response latencyUs going =>
    obtain ⟨mem, stepped⟩ := Option.ite_none_right_eq_some.mp stepped
    obtain rfl := Option.some.inj stepped
    have settled : Sourced clients given (s.succeed resolver idx response latencyUs.toNat) := by
      refine sourced.settle going idx (.ok response) ?_ rfl rfl rfl rfl
      cases resolver <;> rfl
    refine settled.send rfl fun idx' answered same => ?_
    cases same
    exact ⟨sourced.inFlight idx mem, answer idx response latencyUs rfl⟩
  next idx error going =>
    obtain ⟨mem, stepped⟩ := Option.ite_none_right_eq_some.mp stepped
    obtain rfl := Option.some.inj stepped
    have settled : Sourced clients given (s.fail idx error) :=
      sourced.settle going idx (.error error) rfl rfl rfl rfl rfl
    cases resolver with
    | one => exact settled.servfail rfl
    | parallel =>
        unfold ForwardRun.carryOn
        simp only
        split
        next => exact settled.servfail rfl
        next => exact settled
    | adaptive =>
        unfold ForwardRun.carryOn
        simp only
        split
        next => exact (settled.launchNext going).loopTop
        next => exact settled.loopTop
  next going =>
    obtain ⟨-, stepped⟩ := Option.ite_none_right_eq_some.mp stepped
    obtain rfl := Option.some.inj stepped
    exact (sourced.launchNext going).loopTop
  next going =>
    obtain ⟨-, stepped⟩ := Option.ite_none_right_eq_some.mp stepped
    obtain rfl := Option.some.inj stepped
    exact sourced.loopTop
  next going =>
    obtain rfl := Option.some.inj stepped
    exact sourced.servfail rfl

end ForwardRun

/-! ## Whole runs

The same for a request, with sends that are suspended, dropped and repeated. -/

namespace Resolution

variable {ρ ε : Type} {s t : Resolution ρ ε} {given : Nat → ρ → Prop}
  {clients : List (IpAddr × Nat)} {hasQuery : Bool}

/-- The query is in order; a request without one is refused, and that is all. -/
structure Sourced (clients : List (IpAddr × Nat)) (given : Nat → ρ → Prop) (hasQuery : Bool)
    (s : Resolution ρ ε) : Prop where
  accounted : s.Accounted
  run : hasQuery = true → s.run.Sourced clients given
  refused : hasQuery = false → s.stage ≠ .waiting ∧ s.run.exit = none ∧ s.run.sent = [.servfail]

theorem sourced_resolve (forwarder : ParallelForwarder) :
    Sourced (ε := ε) forwarder.clients given hasQuery (.resolve hasQuery forwarder) where
  accounted := (accounted_resolve hasQuery forwarder).1
  run query := by
    rw [query]
    exact ForwardRun.sourced_start forwarder forwarder.resolver
  refused noQuery := by
    rw [noQuery]
    exact ⟨nofun, rfl, rfl⟩

/-- The send of an answer, inside its block, is one of a query. -/
theorem insideBlock_exit {resolver : Resolver} (inside : s.insideBlock resolver = true) :
    s.run.exit ≠ none := by
  intro going
  unfold insideBlock at inside
  rw [going] at inside
  cases resolver <;> cases inside

/-- **One event** of a request, an answer of which is given. -/
theorem Sourced.step {resolver : Resolver} {event : ResolveEvent ρ ε}
    (sourced : Sourced clients given hasQuery s)
    (answer : ∀ idx response latencyUs, event = .forward (.answers idx response latencyUs) →
      given idx response)
    (stepped : s.step resolver event = some t) : Sourced clients given hasQuery t := by
  refine ⟨sourced.accounted.step stepped, fun query => ?_, fun noQuery => ?_⟩
  · have run := sourced.run query
    rcases step_cases stepped with ⟨-, inner, next, rfl, moved, rfl⟩ | ⟨n, -, -, rfl⟩ |
      ⟨n, delivered, sending, -, rfl⟩ | ⟨n, -, -, -, rfl⟩
    · refine run.step (fun idx response latencyUs same => ?_) moved
      exact answer idx response latencyUs (by rw [same])
    · exact run
    · exact
        { same := run.same
          inFlight := run.inFlight
          answers := run.answers
          unsent := run.unsent
          delivered := fun _ => sourced.accounted.sending n sending
          ends := run.ends }
    · have dropped : (s.run.send (fun _ => true) .servfail .timedOut).Sourced clients given :=
        run.servfail rfl
      exact dropped
  · obtain ⟨begun, going, sent⟩ := sourced.refused noQuery
    rcases step_cases stepped with ⟨waiting, -⟩ | ⟨n, -, -, rfl⟩ | ⟨n, delivered, -, -, rfl⟩ |
      ⟨n, -, -, inside, -⟩
    · exact absurd waiting begun
    · exact ⟨nofun, going, sent⟩
    · exact ⟨nofun, going, sent⟩
    · exact absurd going (insideBlock_exit inside)

end Resolution

section Runs

variable {R : Type} {rules : MessageRules} {request : ClientRequest}
  {forwarder : ParallelForwarder} {events : List (RelayEvent R)}
  {t : Resolution (WireMessage R) NetError}

/-- An upstream that was sent the question, and its answer, after a retry over TCP where there was
one. -/
def Answered (rules : MessageRules) (request : ClientRequest) (events : List (RelayEvent R))
    (idx : Nat) (answer : WireMessage R) : Prop :=
  ∃ upstream latencyUs query, .settles idx upstream latencyUs ∈ events ∧
    request.queries.head? = some query ∧
    (upstream (upstreamRequest rules request.metadata query request.edns)).query = .ok answer

/-- An event of the query that is an answer is an upstream that answered. -/
theorem RelayEvent.event_answers {event : RelayEvent R} {idx : Nat} {answer : WireMessage R}
    {latencyUs : UInt64}
    (same : event.event (askedOf rules request) =
      some (.forward (.answers idx answer latencyUs))) :
    ∃ upstream query, event = .settles idx upstream latencyUs ∧
      request.queries.head? = some query ∧
      (upstream (upstreamRequest rules request.metadata query request.edns)).query =
        .ok answer := by
  cases event with
  | settles idx' upstream latencyUs' =>
      obtain ⟨asked, sent, same⟩ := Option.map_eq_some_iff.mp same
      obtain ⟨query, first, rfl⟩ := Option.map_eq_some_iff.mp sent
      cases answered : (upstream (upstreamRequest rules request.metadata query
          request.edns)).query with
      | ok response =>
          rw [answered] at same
          cases same
          exact ⟨upstream, query, rfl, first, answered⟩
      | error error =>
          rw [answered] at same
          cases same
  | hedge => cases same
  | drained => cases same
  | deadline => cases same
  | suspends => cases same
  | completes delivered => cases same

/-- **Every run of a request** is in order, and its answers are those of its upstreams. -/
theorem sourced_of_exec
    (run : (relaying R rules request forwarder.resolver).exec
      (.resolve (!request.queries.isEmpty) forwarder) events = some t) :
    t.Sourced forwarder.clients (Answered rules request events) (!request.queries.isEmpty) := by
  have kept : ∀ (s : Resolution (WireMessage R) NetError) (event : RelayEvent R)
      (t : Resolution (WireMessage R) NetError),
      s.Sourced forwarder.clients (Answered rules request events) (!request.queries.isEmpty) →
      event ∈ events → (relaying R rules request forwarder.resolver).step s event = some t →
      t.Sourced forwarder.clients (Answered rules request events)
        (!request.queries.isEmpty) := by
    intro s event t sourced mem stepped
    obtain ⟨inner, made, stepped⟩ := Option.bind_eq_some_iff.mp stepped
    refine sourced.step (fun idx answer latencyUs same => ?_) stepped
    rw [same] at made
    obtain ⟨upstream, query, rfl, first, answered⟩ := RelayEvent.event_answers made
    exact ⟨upstream, latencyUs, query, mem, first, answered⟩
  have met : (relaying R rules request forwarder.resolver).StepsMeet
      (fun _ event => event ∈ events) (.resolve (!request.queries.isEmpty) forwarder) events :=
    (StateMachine.stepsMeet_const _ run).mpr fun _ mem => mem
  exact StateMachine.exec_invariant _ kept (Resolution.sourced_resolve forwarder) met run

/-! ## What a client is sent

From the answer of an upstream to the message of the client, field by field.  The size is the
smaller one of what both sides take, and the EDNS record is there only if the client sent one. -/

/-- `UpstreamClient::query` asks again over TCP exactly if the answer over UDP is truncated. -/
theorem UpstreamTalk.query_eq_ok {talk : UpstreamTalk R} {answer : WireMessage R} :
    talk.query = .ok answer ↔
      talk.udp = .ok answer ∧ answer.metadata.truncation = false ∨
        ∃ cut, talk.udp = .ok cut ∧ cut.metadata.truncation = true ∧ talk.connect = .ok () ∧
          talk.tcp = .ok answer := by
  unfold UpstreamTalk.query
  cases talk.udp with
  | error error => simp [bind, Except.bind]
  | ok first =>
      cases cut : first.metadata.truncation with
      | false => simp [bind, Except.bind, pure, Except.pure, cut]; grind
      | true =>
          cases connected : talk.connect with
          | error error => simp [bind, Except.bind, cut]; grind
          | ok connection => simp [bind, Except.bind, cut]; grind

/-- A message that answers a request: with its id and its questions, and in the size its client
takes. -/
structure Conforms (request : ClientRequest) (message : WireMessage R) : Prop where
  id : message.metadata.id = request.metadata.id
  queries : message.queries = request.queries
  edns : request.edns = none → message.edns = none
  size : ∀ client edns, request.edns = some client → message.edns = some edns →
    edns.maxPayload ≤ max client.maxPayload 512

/-- A message is the answer of an upstream, in all but the id and the size. -/
structure Carries (request : ClientRequest) (answer message : WireMessage R) : Prop where
  metadata : message.metadata = { answer.metadata with id := request.metadata.id }
  answers : message.answers = answer.answers
  authorities : message.authorities = answer.authorities
  additionals : message.additionals = answer.additionals
  edns : ∀ edns, message.edns = some edns → ∃ given, answer.edns = some given ∧
    { given with maxPayload := edns.maxPayload } = edns ∧
    edns.maxPayload ≤ max given.maxPayload 512

theorem conforms_servfailResponse :
    Conforms (R := R) request (servfailResponse rules request) where
  id := rules.id_responseFrom request.metadata
  queries := rfl
  edns _ := rfl
  size _ _ _ impossible := by cases impossible

/-- `downstream_message` changes the id and the EDNS record alone. -/
theorem downstreamMessage_eq (rules : MessageRules) (answer : WireMessage R) (requestId : UInt16)
    (client : Option WireEdns) :
    downstreamMessage rules answer requestId client =
      { answer with
        metadata := { answer.metadata with id := requestId }
        edns := (downstreamMessage rules answer requestId client).edns } := by
  unfold downstreamMessage
  rcases client with _ | client
  · rfl
  · cases upstream : answer.edns <;> rfl

/-- The EDNS record is that of the upstream, with a size that both of them take. -/
theorem edns_downstreamMessage {answer : WireMessage R} {requestId : UInt16}
    {client : Option WireEdns} {edns : WireEdns}
    (sent : (downstreamMessage rules answer requestId client).edns = some edns) :
    ∃ asked given, client = some asked ∧ answer.edns = some given ∧
      edns = { given with
        maxPayload := rules.setMaxPayload (min given.maxPayload asked.maxPayload) } := by
  unfold downstreamMessage at sent
  rcases client with _ | client
  · cases sent
  · cases upstream : answer.edns with
    | none =>
        simp only [upstream] at sent
        cases sent
    | some given =>
        simp only [upstream] at sent
        exact ⟨client, given, rfl, rfl, (Option.some.inj sent).symm⟩

theorem conforms_upstreamResponse (answer : WireMessage R) :
    Conforms request (upstreamResponse rules request answer) := by
  have message := downstreamMessage_eq rules answer request.metadata.id request.edns
  refine ⟨?_, rfl, fun unasked => ?_, fun client edns isClient sent => ?_⟩
  · change (downstreamMessage rules answer request.metadata.id request.edns).metadata.id = _
    rw [message]
  · refine Option.eq_none_iff_forall_ne_some.mpr fun edns sent => ?_
    obtain ⟨asked, -, present, -⟩ := edns_downstreamMessage sent
    cases unasked.symm.trans present
  · obtain ⟨asked, given, isAsked, -, rfl⟩ := edns_downstreamMessage sent
    cases isClient.symm.trans isAsked
    exact (rules.setMaxPayload_le _).trans (max_le_max_right 512 (min_le_right _ _))

theorem carries_upstreamResponse (answer : WireMessage R) :
    Carries request answer (upstreamResponse rules request answer) := by
  have message := downstreamMessage_eq rules answer request.metadata.id request.edns
  unfold upstreamResponse
  refine ⟨?_, ?_, ?_, ?_, fun edns sent => ?_⟩
  · rw [message]
  · rw [message]
  · rw [message]
  · rw [message]
  · obtain ⟨asked, given, -, here, rfl⟩ := edns_downstreamMessage sent
    exact ⟨given, here, rfl,
      (rules.setMaxPayload_le _).trans (max_le_max_right 512 (min_le_left _ _))⟩

/-- **Whatever a client is sent**, in any run, has the id and the questions of its request, no EDNS
record it did not ask for and no size above its own; and it is a SERVFAIL of this server or, in
all but the id and the size, the answer of an upstream to the first of these questions, which is
truncated only if it came over TCP. -/
theorem relayed_of_exec
    (run : (relaying R rules request forwarder.resolver).exec
      (.resolve (!request.queries.isEmpty) forwarder) events = some t)
    {message : WireMessage R} (sent : message ∈ t.run.sent.map (responseOf rules request)) :
    Conforms request message ∧
      (message = servfailResponse rules request ∨
        ∃ idx upstream latencyUs query answer, idx < forwarder.clients.length ∧
          .settles idx upstream latencyUs ∈ events ∧ request.queries.head? = some query ∧
          (upstream (upstreamRequest rules request.metadata query request.edns)).query =
            .ok answer ∧
          Carries request answer message ∧
          (message.metadata.truncation = true →
            (upstream (upstreamRequest rules request.metadata query request.edns)).tcp =
              .ok answer)) := by
  have sourced := sourced_of_exec run
  obtain ⟨response, mem, rfl⟩ := List.mem_map.mp sent
  cases response with
  | servfail => exact ⟨conforms_servfailResponse, Or.inl rfl⟩
  | forwarded idx answer =>
      have hasQuery : (!request.queries.isEmpty) = true := by
        by_contra noQuery
        have refused := (sourced.refused (Bool.eq_false_iff.mpr noQuery)).2.2
        rw [refused, List.mem_singleton] at mem
        cases mem
      obtain ⟨inRange, upstream, latencyUs, query, event, first, answered⟩ :=
        (sourced.run hasQuery).answers idx answer mem
      have carries : Carries request answer (upstreamResponse rules request answer) :=
        carries_upstreamResponse answer
      refine ⟨conforms_upstreamResponse answer, Or.inr ⟨idx, upstream, latencyUs, query, answer,
        inRange, event, first, answered, carries, fun cut => ?_⟩⟩
      have cutAnswer : answer.metadata.truncation = true := by
        change (upstreamResponse rules request answer).metadata.truncation = true at cut
        rw [carries.metadata] at cut
        exact cut
      rcases UpstreamTalk.query_eq_ok.mp answered with ⟨-, whole⟩ | ⟨-, -, -, -, tcp⟩
      · cases whole.symm.trans cutAnswer
      · exact tcp

/-- The sizes and the metadata of the DNS library. -/
def libraryRules : MessageRules where
  setMaxPayload size := max size 512
  setMaxPayload_le _ := le_rfl
  maxPayload edns := max ((edns.map fun edns => edns.maxPayload).getD 512) 512
  responseFrom metadata :=
    { id := metadata.id
      isResponse := true
      opCode := metadata.opCode
      recursionDesired := metadata.recursionDesired
      checkingDisabled := metadata.checkingDisabled }
  id_responseFrom _ := rfl

/-- A client that takes messages of 1232 bytes. -/
def textRequest : ClientRequest where
  metadata := { id := 7, recursionDesired := true }
  queries := [{ name := [[101, 103]], queryType := .other 16, queryClass := .IN }]
  edns := some { maxPayload := 1232 }

/-- The answer of an upstream, cut over UDP and whole over TCP. -/
def textTalk (asked : DnsRequest Str) : UpstreamTalk Str :=
  let cut : WireMessage Str :=
    { metadata := { asked.message.metadata with isResponse := true, truncation := true }
      queries := asked.message.queries
      edns := some { maxPayload := 4096 } }
  { udp := .ok cut
    connect := .ok ()
    tcp := .ok
      { cut with
        metadata := { cut.metadata with truncation := false }
        answers := ["text".toList] } }

/-- The whole answer. -/
def textAnswer : WireMessage Str where
  metadata := { id := 7, isResponse := true, recursionDesired := true }
  queries := textRequest.queries
  answers := ["text".toList]
  edns := some { maxPayload := 4096 }

def textEvents : List (RelayEvent Str) := [.settles 0 textTalk 40, .suspends, .completes true]

/-- What the client is sent. -/
def textResponse : WireMessage Str where
  metadata := { id := 7, isResponse := true, recursionDesired := true }
  queries := textRequest.queries
  answers := ["text".toList]
  edns := some { maxPayload := 1232 }

theorem relayed_of_exec_text :
    Conforms textRequest textResponse ∧
      (textResponse = servfailResponse libraryRules textRequest ∨
        ∃ idx upstream latencyUs query answer, idx < threeForwarder.clients.length ∧
          .settles idx upstream latencyUs ∈ textEvents ∧
          textRequest.queries.head? = some query ∧
          (upstream (upstreamRequest libraryRules textRequest.metadata query
            textRequest.edns)).query = .ok answer ∧
          Carries textRequest answer textResponse ∧
          (textResponse.metadata.truncation = true →
            (upstream (upstreamRequest libraryRules textRequest.metadata query
              textRequest.edns)).tcp = .ok answer)) := by
  obtain ⟨s, run, sent⟩ : ∃ s, (relaying Str libraryRules textRequest
      threeForwarder.resolver).exec (.resolve (!textRequest.queries.isEmpty) threeForwarder)
        textEvents = some s ∧
      s.run.sent.map (responseOf libraryRules textRequest) = [textResponse] := ⟨_, rfl, rfl⟩
  exact relayed_of_exec run (sent ▸ List.mem_singleton_self textResponse)

/-! ## What the log says

The labels are words and addresses, and are told apart: an address has a colon.  The label of a
query that is over is then compared with the last response. -/

/-- `to_string` of the address of a client, of any text for its IP address. -/
def socketText (ipText : IpAddr → Str) : IpAddr × Nat → Str
  | (.v4 addr, port) => ipText (.v4 addr) ++ ':' :: decimal port
  | (.v6 addr, port) => '[' :: ipText (.v6 addr) ++ "]:".toList ++ decimal port

/-- The text of an IPv4 address. -/
def dotted : IpAddr → Str
  | .v4 addr =>
      decimal (addr.toNat / 2 ^ 24) ++ '.' :: decimal (addr.toNat / 2 ^ 16 % 256) ++
        '.' :: decimal (addr.toNat / 2 ^ 8 % 256) ++ '.' :: decimal (addr.toNat % 256)
  | .v6 _ => []

/-- The kinds of labels in the log: an address, or one of two kinds of words. -/
inductive LabelKind where
  /-- No upstream answered in time. -/
  | failure
  /-- An upstream answered that there is nothing. -/
  | negative
  | upstream
deriving DecidableEq

/-- The labels where no upstream answered. -/
def failureLabels : List Str :=
  ["timeout".toList, "transport_error".toList, "protocol_error".toList, "upstream_error".toList,
    "no_upstream".toList, "invalid_query".toList]

def labelKind (label : Str) : LabelKind :=
  if ':' ∈ label then .upstream
  else if failureLabels.contains label then .failure
  else .negative

/-- The kind of a response. -/
def Sent.labelKind : Sent (WireMessage R) → LabelKind
  | .servfail => .failure
  | .forwarded _ answer =>
      if answer.metadata.responseCode = .noError ∧ answer.answers.isEmpty = false then .upstream
      else .negative

theorem colon_mem_socketText (ipText : IpAddr → Str) (client : IpAddr × Nat) :
    ':' ∈ socketText ipText client := by
  obtain ⟨addr | addr, port⟩ := client
  · exact List.mem_append_right _ List.mem_cons_self
  · refine List.mem_append_left _ (List.mem_append_right _ ?_)
    decide

theorem labelKind_of_mem_failureLabels {label : Str} (mem : label ∈ failureLabels) :
    labelKind label = .failure := by
  have word : ∀ label ∈ failureLabels, ':' ∉ label := by decide
  rw [labelKind, if_neg (word label mem), if_pos (List.contains_iff_mem.mpr mem)]

theorem classifyUpstreamFailure_mem (error : NetError) :
    classifyUpstreamFailure error ∈ failureLabels := by
  cases error with
  | io timedOut => cases timedOut <;> decide
  | timeout | noConnections | busy | proto | queryCaseMismatch | parseInt | other => decide

/-- The codes that have a name. -/
def namedCodes : List WireCode :=
  [.noError, .formErr, .servFail, .nxDomain, .notImp, .refused, .yxDomain, .yxRRSet, .nxRRSet,
    .notAuth, .notZone, .badVers, .badSig, .badKey, .badTime, .badMode, .badName, .badAlg,
    .badTrunc, .badCookie]

theorem mem_namedCodes_or (code : WireCode) : code ∈ namedCodes ∨ ∃ n, code = .unknown n := by
  cases code with
  | unknown n => exact Or.inr ⟨n, rfl⟩
  | _ => exact Or.inl (by decide)

theorem labelKind_responseCodeLabel (code : WireCode) :
    labelKind (responseCodeLabel code) = .negative := by
  rcases mem_namedCodes_or code with named | ⟨n, rfl⟩
  · have all : ∀ code ∈ namedCodes, labelKind (responseCodeLabel code) = .negative := by decide
    exact all code named
  · change labelKind "unknown_response".toList = .negative
    decide

/-- The labels tell the codes apart that have a name. -/
theorem responseCodeLabel_eq_iff {code named : WireCode} (mem : named ∈ namedCodes) :
    responseCodeLabel code = responseCodeLabel named ↔ code = named := by
  refine ⟨fun same => ?_, fun same => by rw [same]⟩
  rcases mem_namedCodes_or code with mem' | ⟨n, rfl⟩
  · have distinct : (namedCodes.map responseCodeLabel).Nodup := by decide
    exact List.inj_on_of_nodup_map distinct mem' mem same
  · have other : "unknown_response".toList ∉ namedCodes.map responseCodeLabel := by decide
    exact absurd (List.mem_map.mpr ⟨named, mem, same.symm⟩) other

theorem responseCodeLabel_ne_nodata (code : WireCode) :
    responseCodeLabel code ≠ "nodata".toList := by
  rcases mem_namedCodes_or code with named | ⟨n, rfl⟩
  · have all : ∀ code ∈ namedCodes, responseCodeLabel code ≠ "nodata".toList := by decide
    exact all code named
  · change "unknown_response".toList ≠ "nodata".toList
    decide

/-- The label of an answer. -/
theorem responseLabel_eq (answer : WireMessage R) (address : Str) :
    responseLabel answer (some address) =
      if answer.metadata.responseCode = .noError then
        if answer.answers.isEmpty then "nodata".toList else address
      else responseCodeLabel answer.metadata.responseCode := by
  unfold responseLabel
  split
  next code =>
    rw [if_pos code]
    rfl
  next code => rw [if_neg code]

theorem labelKind_responseLabel (ipText : IpAddr → Str) (client : IpAddr × Nat) (idx : Nat)
    (answer : WireMessage R) :
    labelKind (responseLabel answer (some (socketText ipText client))) =
      (Sent.forwarded idx answer).labelKind := by
  rw [responseLabel_eq, Sent.labelKind]
  by_cases ok : answer.metadata.responseCode = .noError
  · cases empty : answer.answers.isEmpty with
    | true =>
        rw [if_pos ok, if_pos rfl, if_neg (fun both => by cases both.2)]
        decide
    | false =>
        rw [if_pos ok, if_neg Bool.false_ne_true, if_pos ⟨ok, rfl⟩, labelKind,
          if_pos (colon_mem_socketText ipText client)]
  · rw [if_neg ok, if_neg (fun both => ok both.1)]
    exact labelKind_responseCodeLabel _

/-- A query that was delivered is over: it was refused, or its exit goes with the last response. -/
theorem Resolution.Sourced.last {given : Nat → WireMessage R → Prop}
    {clients : List (IpAddr × Nat)} {hasQuery : Bool} (sourced : t.Sourced clients given hasQuery)
    (delivered : t.run.delivered = true) :
    ∃ last, t.run.sent.getLast? = some last ∧
      ((t.run.exit = none ∧ last = .servfail) ∨
        ∃ exit, t.run.exit = some exit ∧ exit.response = some last) := by
  cases hasQuery with
  | false =>
      obtain ⟨-, going, sent⟩ := sourced.refused rfl
      exact ⟨.servfail, by rw [sent]; rfl, Or.inl ⟨going, rfl⟩⟩
  | true =>
      have run := sourced.run rfl
      cases ended : t.run.exit with
      | none => exact absurd (run.unsent ended) (run.delivered delivered)
      | some exit =>
          obtain ⟨last, isLast⟩ := Option.ne_none_iff_exists'.mp
            (mt List.getLast?_eq_none_iff.mp (run.delivered delivered))
          exact ⟨last, isLast, Or.inr ⟨exit, rfl, (run.ends exit ended).symm.trans isLast⟩⟩

/-- What a label tells of a response.  The two kinds of words never coincide with an address. -/
structure Tells (addresses : List Str) (label : Str) (response : Sent (WireMessage R)) : Prop where
  kind : labelKind label = response.labelKind
  upstream : ∀ idx answer, response = .forwarded idx answer → response.labelKind = .upstream →
    addresses[idx]? = some label
  nodata : ∀ idx answer, response = .forwarded idx answer → response.labelKind = .negative →
    (label = "nodata".toList ↔ answer.metadata.responseCode = .noError)
  code : ∀ idx answer, response = .forwarded idx answer → response.labelKind = .negative →
    ∀ code ∈ namedCodes, code ≠ .noError →
      (label = responseCodeLabel code ↔ answer.metadata.responseCode = code)

theorem tells_servfail {label : Str} (mem : label ∈ failureLabels) (addresses : List Str) :
    Tells (R := R) addresses label .servfail where
  kind := labelKind_of_mem_failureLabels mem
  upstream _ _ impossible := by cases impossible
  nodata _ _ impossible := by cases impossible
  code _ _ impossible := by cases impossible

/-- An answer without records and without an error. -/
theorem isEmpty_of_negative {answer : WireMessage R} {idx : Nat}
    (negative : (Sent.forwarded idx answer).labelKind = .negative)
    (ok : answer.metadata.responseCode = .noError) : answer.answers.isEmpty = true := by
  by_contra records
  rw [Sent.labelKind, if_pos ⟨ok, Bool.eq_false_iff.mpr records⟩] at negative
  cases negative

theorem tells_forwarded (ipText : IpAddr → Str) {clients : List (IpAddr × Nat)} {idx : Nat}
    {client : IpAddr × Nat} (here : clients[idx]? = some client) (answer : WireMessage R) :
    Tells (clients.map (socketText ipText))
      (responseLabel answer (some (socketText ipText client))) (.forwarded idx answer) := by
  refine ⟨labelKind_responseLabel ipText client idx answer, ?_, ?_, ?_⟩
  · rintro _ _ ⟨⟩ records
    have both : answer.metadata.responseCode = .noError ∧ answer.answers.isEmpty = false := by
      by_contra other
      rw [Sent.labelKind, if_neg other] at records
      cases records
    rw [responseLabel_eq, if_pos both.1, both.2, if_neg Bool.false_ne_true, List.getElem?_map, here]
    rfl
  · rintro _ _ ⟨⟩ negative
    rw [responseLabel_eq]
    by_cases ok : answer.metadata.responseCode = .noError
    · rw [if_pos ok, if_pos (isEmpty_of_negative negative ok)]
      exact iff_of_true rfl ok
    · rw [if_neg ok]
      exact iff_of_false (responseCodeLabel_ne_nodata _) ok
  · rintro _ _ ⟨⟩ negative code named error
    rw [responseLabel_eq]
    by_cases ok : answer.metadata.responseCode = .noError
    · rw [if_pos ok, if_pos (isEmpty_of_negative negative ok)]
      refine iff_of_false (fun same => ?_) fun same => error (same.symm.trans ok)
      exact responseCodeLabel_ne_nodata code same.symm
    · rw [if_neg ok]
      exact responseCodeLabel_eq_iff named

/-- Where this server refuses, the label is one of a failure. -/
theorem resolverLabel_mem_failureLabels (addresses : List Str)
    {exit : ForwardExit (WireMessage R) NetError} (refuses : exit.response = some .servfail) :
    resolverLabel addresses (some exit) ∈ failureLabels := by
  cases exit with
  | answered => cases refuses
  | failed error =>
      cases error with
      | none =>
          change "upstream_error".toList ∈ failureLabels
          decide
      | some error => exact classifyUpstreamFailure_mem error
  | timedOut =>
      change "timeout".toList ∈ failureLabels
      decide
  | noUpstream =>
      change "no_upstream".toList ∈ failureLabels
      decide
  | outOfRange => cases refuses

/-- **What the log says of a query that was delivered** tells what the client was sent last: the
address of an upstream exactly for an answer with records, and then of the upstream that gave it;
the label of a failure exactly for a SERVFAIL of this server; and the code of the answer, if it
has a name, otherwise. -/
theorem labelled_of_exec (ipText : IpAddr → Str)
    (run : (relaying R rules request forwarder.resolver).exec
      (.resolve (!request.queries.isEmpty) forwarder) events = some t)
    (delivered : t.run.delivered = true) :
    ∃ last, t.run.sent.getLast? = some last ∧
      Tells (forwarder.clients.map (socketText ipText))
        (resolverLabel (forwarder.clients.map (socketText ipText)) t.run.exit) last := by
  have sourced := sourced_of_exec run
  obtain ⟨last, isLast, ends⟩ := sourced.last delivered
  refine ⟨last, isLast, ?_⟩
  rcases ends with ⟨going, rfl⟩ | ⟨exit, ended, pair⟩
  · rw [going]
    refine tells_servfail ?_ _
    change "invalid_query".toList ∈ failureLabels
    decide
  · rw [ended]
    cases last with
    | servfail => exact tells_servfail (resolverLabel_mem_failureLabels _ pair) _
    | forwarded idx answer =>
        have answered : exit = .answered idx answer := ForwardExit.response_eq_forwarded.mp pair
        have hasQuery : (!request.queries.isEmpty) = true := by
          by_contra noQuery
          have refused := (sourced.refused (Bool.eq_false_iff.mpr noQuery)).2.1
          cases refused.symm.trans ended
        obtain ⟨inRange, -⟩ :=
          (sourced.run hasQuery).answers idx answer (List.mem_of_getLast? isLast)
        have here := List.getElem?_eq_getElem inRange
        have address : (forwarder.clients.map (socketText ipText))[idx]? =
            some (socketText ipText forwarder.clients[idx]) := by
          rw [List.getElem?_map, here, Option.map_some]
        have label : resolverLabel (forwarder.clients.map (socketText ipText))
            (some (.answered idx answer)) =
              responseLabel answer (some (socketText ipText forwarder.clients[idx])) :=
          congrArg (responseLabel answer) address
        rw [answered, label]
        exact tells_forwarded ipText here answer

theorem labelled_of_exec_text :
    ∃ last, [Sent.forwarded 0 (textAnswer : WireMessage Str)].getLast? = some last ∧
      Tells ["192.0.2.1:53".toList, "192.0.2.2:53".toList, "192.0.2.3:53".toList]
        "192.0.2.1:53".toList last := by
  obtain ⟨s, run, sent, exit, delivered⟩ : ∃ s, (relaying Str libraryRules textRequest
      threeForwarder.resolver).exec (.resolve (!textRequest.queries.isEmpty) threeForwarder)
        textEvents = some s ∧ s.run.sent = [.forwarded 0 textAnswer] ∧
      s.run.exit = some (.answered 0 textAnswer) ∧ s.run.delivered = true :=
    ⟨_, rfl, rfl, rfl, rfl⟩
  have told := labelled_of_exec dotted run delivered
  rw [sent, exit] at told
  exact told

end Runs

end RustBlocker
