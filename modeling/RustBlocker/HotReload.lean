import RustBlocker.Upstreams

/-!
# Live changes of the forwarder

`set_timeout`, `set_strategy`, `set_hedge_delay_ms` and `reload` change a forwarder that runs. The
timeout is kept in three places: the deadline of a whole query, the UDP stream of every client,
and the retry of every client over TCP.

* **The limits of a client** are set when it is built, and `set_timeout` builds none: it moves the
  deadline alone.
* **An attempt** that begins when some of the query is over may take what its client allows, and
  no more than what is left of the deadline.
* **The latest parameters** are the values that were set last, and next to them stands the timeout
  of the last reload.

`rebuilt_iff` says for which sequences of calls the forwarder treats requests as one that is built
anew.  The text of an address, the label of a resolver, is left out; it is made from the address.

## How requests are compared

Two forwarders are compared by what a request can notice: who is asked, in which order and how
many at a time, how long each may take over either transport when it is asked at any moment of the
query, and when the whole query ends.  The limits of an attempt are functions of the time that has
passed, and it is these functions that are compared, not the numbers that are stored.  A client's
longer timeout behind a shorter deadline is no difference, and the theorem says so:
`DeadlineFirst` is a condition on the two timeouts, and the case without upstreams belongs to it.

The scores of health are left out, since a reload forgets them on purpose and a change of a
setting keeps them.

`Shows` connects this forwarder with the one of the query strategies, which has no clients, and
`liveCall` with the handler of the web API: every call on the forwarder that a saved setting leads
to is one of the four here.
-/

namespace RustBlocker

/-! ## Forwarders with the limits of their clients

The forwarder as it is built, with the timeout in three places, and the four calls that change it.
Only one of these builds clients. -/

/-- `Duration`, in nanoseconds. -/
abbrev Duration := Nat

namespace Duration

/-- `from_secs` -/
def fromSecs (secs : Nat) : Duration := secs * 1000000000

/-- `from_millis` -/
def fromMillis (millis : Nat) : Duration := millis * 1000000

theorem fromSecs_le_fromSecs {a b : Nat} : fromSecs a ≤ fromSecs b ↔ a ≤ b := by
  exact Nat.mul_le_mul_right_iff (by decide)

end Duration

/-- `UpstreamClient`, by the two timeouts it was built with and the address it asks. -/
structure UpstreamClient where
  /-- The timeout the UDP stream was built with. -/
  udp : Duration
  address : IpAddr × Nat
  /-- The timeout of the exchange over TCP. -/
  timeout : Duration
deriving DecidableEq, Repr

/-- `ParallelForwarder`, with the timeouts of its clients.  The number of upstreams asked at once
is no parameter, and never changes. -/
structure TimedForwarder where
  clients : List UpstreamClient
  health : List UpstreamHealth
  timeout : Duration
  strategy : ForwardStrategy
  hedgeDelay : Duration
  maxAdaptiveParallel : Nat
deriving DecidableEq, Repr

/-- The client of an upstream, its UDP stream and its timeout. -/
def UpstreamConfig.clientWithin (timeout : Duration) (upstream : UpstreamConfig) :
    Except Str UpstreamClient :=
  match IpAddr.parse upstream.address with
  | some ip => .ok { udp := timeout, address := (ip, upstream.port.getD 53), timeout }
  | none => .error ("Invalid upstream IP: ".toList ++ upstream.address)

namespace TimedForwarder

/-- `new_with_options` -/
def newWithOptions (upstreams : List UpstreamConfig) (timeoutSecs : Nat)
    (strategy : ForwardStrategy) (hedgeDelayMs : Nat) : Except Str TimedForwarder := do
  let timeout := Duration.fromSecs timeoutSecs
  let clients ← upstreams.mapM (UpstreamConfig.clientWithin timeout)
  return {
    clients
    health := clients.map fun _ => {}
    timeout
    strategy
    hedgeDelay := Duration.fromMillis hedgeDelayMs
    maxAdaptiveParallel := defaultMaxAdaptiveParallel }

section Calls

variable (forwarder : TimedForwarder)

/-- `reload`: the new forwarder is built before anything is written. -/
def reload (upstreams : List UpstreamConfig) (timeoutSecs : Nat) (strategy : ForwardStrategy)
    (hedgeDelayMs : Nat) : Except Str Unit × TimedForwarder :=
  match newWithOptions upstreams timeoutSecs strategy hedgeDelayMs with
  | .error error => (.error error, forwarder)
  | .ok fresh =>
      (.ok (), { forwarder with
        clients := fresh.clients
        health := fresh.health
        timeout := Duration.fromSecs timeoutSecs
        strategy
        hedgeDelay := fresh.hedgeDelay })

/-- `set_timeout` -/
def setTimeout (timeoutSecs : Nat) : TimedForwarder :=
  { forwarder with timeout := Duration.fromSecs timeoutSecs }

/-- `set_strategy` -/
def setStrategy (strategy : ForwardStrategy) : TimedForwarder := { forwarder with strategy }

/-- `set_hedge_delay_ms` -/
def setHedgeDelayMs (hedgeDelayMs : Nat) : TimedForwarder :=
  { forwarder with hedgeDelay := Duration.fromMillis hedgeDelayMs }

/-! ### The limits of an attempt -/

/-- How long an upstream may take to answer over UDP, when it is asked `elapsed` after the
query began. -/
def udpLimit (idx : Nat) (elapsed : Duration) : Option Duration :=
  forwarder.clients[idx]?.map fun client => min client.udp (forwarder.timeout - elapsed)

/-- How long the retry over TCP may take that begins `elapsed` after the query did. -/
def tcpLimit (idx : Nat) (elapsed : Duration) : Option Duration :=
  forwarder.clients[idx]?.map fun client => min client.timeout (forwarder.timeout - elapsed)

end Calls

/-- Two forwarders treat every request alike, their scores of health apart.  The last two fields
compare the limits of an attempt at every moment of the query. -/
structure TreatsAlike (f g : TimedForwarder) : Prop where
  addresses : f.clients.map UpstreamClient.address = g.clients.map UpstreamClient.address
  strategy : f.strategy = g.strategy
  hedgeDelay : f.hedgeDelay = g.hedgeDelay
  parallel : f.maxAdaptiveParallel = g.maxAdaptiveParallel
  deadline : f.timeout = g.timeout
  udp : ∀ idx elapsed, f.udpLimit idx elapsed = g.udpLimit idx elapsed
  tcp : ∀ idx elapsed, f.tcpLimit idx elapsed = g.tcpLimit idx elapsed

end TimedForwarder

/-! ## Calls and parameters

The parameters are folded along the calls as a user would keep them in mind, with one addition:
what the timeout was when the clients were last built. -/

/-- A call on a forwarder that runs.  The web server makes them under no common lock, so that
their order is free. -/
inductive ForwarderCall where
  | setTimeout (timeoutSecs : Nat)
  | setStrategy (strategy : ForwardStrategy)
  | setHedgeDelayMs (hedgeDelayMs : Nat)
  | reload (upstreams : List UpstreamConfig) (timeoutSecs : Nat) (strategy : ForwardStrategy)
      (hedgeDelayMs : Nat)

def TimedForwarder.call (forwarder : TimedForwarder) : ForwarderCall → TimedForwarder
  | .setTimeout timeoutSecs => forwarder.setTimeout timeoutSecs
  | .setStrategy strategy => forwarder.setStrategy strategy
  | .setHedgeDelayMs hedgeDelayMs => forwarder.setHedgeDelayMs hedgeDelayMs
  | .reload upstreams timeoutSecs strategy hedgeDelayMs =>
      (forwarder.reload upstreams timeoutSecs strategy hedgeDelayMs).2

def TimedForwarder.calls (forwarder : TimedForwarder) (calls : List ForwarderCall) :
    TimedForwarder :=
  calls.foldl TimedForwarder.call forwarder

/-- The parameters of `new_with_options`. -/
structure ForwarderParams where
  upstreams : List UpstreamConfig
  timeoutSecs : Nat
  strategy : ForwardStrategy
  hedgeDelayMs : Nat

def ForwarderParams.build (params : ForwarderParams) : Except Str TimedForwarder :=
  TimedForwarder.newWithOptions params.upstreams params.timeoutSecs params.strategy
    params.hedgeDelayMs

/-- A reload with these upstreams succeeds.  An address that does not parse is the one error of
`new_with_options`. -/
def AllParse (upstreams : List UpstreamConfig) : Prop :=
  ∀ upstream ∈ upstreams, (IpAddr.parse upstream.address).isSome

instance (upstreams : List UpstreamConfig) : Decidable (AllParse upstreams) :=
  inferInstanceAs (Decidable (∀ upstream ∈ upstreams, (IpAddr.parse upstream.address).isSome))

/-- The last value of each parameter, and the timeout of the last reload, which is the one the
clients have. -/
structure LatestParams extends ForwarderParams where
  loadedSecs : Nat

namespace LatestParams

/-- Nothing was called yet. -/
def ofStart (start : ForwarderParams) : LatestParams :=
  { start with loadedSecs := start.timeoutSecs }

def call (latest : LatestParams) : ForwarderCall → LatestParams
  | .setTimeout timeoutSecs => { latest with timeoutSecs }
  | .setStrategy strategy => { latest with strategy }
  | .setHedgeDelayMs hedgeDelayMs => { latest with hedgeDelayMs }
  | .reload upstreams timeoutSecs strategy hedgeDelayMs =>
      if AllParse upstreams then
        { upstreams, timeoutSecs, strategy, hedgeDelayMs, loadedSecs := timeoutSecs }
      else latest

/-- The parameters after some calls. -/
def afterCalls (start : ForwarderParams) (calls : List ForwarderCall) : LatestParams :=
  calls.foldl call (ofStart start)

end LatestParams

/-! ## What a forwarder is built from

Building succeeds exactly if all addresses parse, and then one timeout is everywhere. -/

/-- The client at an address, with one timeout everywhere. -/
def clientAt (timeoutSecs : Nat) (address : IpAddr × Nat) : UpstreamClient where
  udp := .fromSecs timeoutSecs
  address
  timeout := .fromSecs timeoutSecs

theorem map_address_clientAt (timeoutSecs : Nat) (addresses : List (IpAddr × Nat)) :
    (addresses.map (clientAt timeoutSecs)).map UpstreamClient.address = addresses := by
  rw [List.map_map]
  exact List.map_id _

theorem mapM_client_isSome {upstreams : List UpstreamConfig} :
    (upstreams.mapM UpstreamConfig.client).isSome ↔ AllParse upstreams := by
  unfold AllParse
  rw [Traversal.isSome_mapM]
  refine forall₂_congr fun upstream _ => ?_
  rw [UpstreamConfig.client, Option.isSome_map]

theorem mapM_clientWithin (timeoutSecs : Nat) (upstreams : List UpstreamConfig) :
    (upstreams.mapM (UpstreamConfig.clientWithin (.fromSecs timeoutSecs))).toOption =
      (upstreams.mapM UpstreamConfig.client).map (List.map (clientAt timeoutSecs)) := by
  have one (upstream : UpstreamConfig) :
      (upstream.clientWithin (.fromSecs timeoutSecs)).toOption =
        upstream.client.map (clientAt timeoutSecs) := by
    unfold UpstreamConfig.clientWithin UpstreamConfig.client
    rcases IpAddr.parse upstream.address with _ | ip <;> rfl
  rw [Traversal.toOption_mapM one, Traversal.mapM_option_map]

/-- The forwarder with these parameters and the clients of these addresses. -/
def ForwarderParams.forwarder (params : ForwarderParams) (addresses : List (IpAddr × Nat)) :
    TimedForwarder where
  clients := addresses.map (clientAt params.timeoutSecs)
  health := (addresses.map (clientAt params.timeoutSecs)).map fun _ => {}
  timeout := .fromSecs params.timeoutSecs
  strategy := params.strategy
  hedgeDelay := .fromMillis params.hedgeDelayMs
  maxAdaptiveParallel := defaultMaxAdaptiveParallel

/-- **A forwarder is built exactly if the addresses parse**, and its three timeouts are one. -/
theorem ForwarderParams.toOption_build (params : ForwarderParams) :
    params.build.toOption =
      (params.upstreams.mapM UpstreamConfig.client).map params.forwarder := by
  have clients := mapM_clientWithin params.timeoutSecs params.upstreams
  unfold build TimedForwarder.newWithOptions
  rcases built : params.upstreams.mapM (UpstreamConfig.clientWithin (.fromSecs params.timeoutSecs))
    with error | made
  · rw [built] at clients
    rw [Option.map_eq_none_iff.mp clients.symm]
    show (Except.bind (params.upstreams.mapM _) _).toOption = none
    rw [built]
    rfl
  · rw [built] at clients
    obtain ⟨addresses, parsed, rfl⟩ := Option.map_eq_some_iff.mp clients.symm
    rw [parsed]
    show (Except.bind (params.upstreams.mapM _) _).toOption = _
    rw [built]
    rfl

theorem ForwarderParams.build_eq_ok {params : ForwarderParams} {built : TimedForwarder} :
    params.build = .ok built ↔
      ∃ addresses, params.upstreams.mapM UpstreamConfig.client = some addresses ∧
        params.forwarder addresses = built := by
  rw [← Option.map_eq_some_iff, ← params.toOption_build]
  rcases params.build with error | made
  · simp [Except.toOption]
  · simp [Except.toOption]

/-! ## What the calls keep

The forwarder is determined by the parameters, the timeout of the last reload and the scores of
health.  This is the invariant, and each call keeps it. -/

/-- **What stands in a forwarder**: the latest parameters, but for its clients, which have the
timeout of the last reload. -/
structure Stands (latest : LatestParams) (forwarder : TimedForwarder) : Prop where
  clients : ∃ addresses, latest.upstreams.mapM UpstreamConfig.client = some addresses ∧
    forwarder.clients = addresses.map (clientAt latest.loadedSecs)
  timeout : forwarder.timeout = .fromSecs latest.timeoutSecs
  strategy : forwarder.strategy = latest.strategy
  hedgeDelay : forwarder.hedgeDelay = .fromMillis latest.hedgeDelayMs
  parallel : forwarder.maxAdaptiveParallel = defaultMaxAdaptiveParallel

theorem stands_build {start : ForwarderParams} {built : TimedForwarder}
    (new : start.build = .ok built) : Stands (.ofStart start) built := by
  obtain ⟨addresses, parsed, rfl⟩ := ForwarderParams.build_eq_ok.mp new
  exact ⟨⟨addresses, parsed, rfl⟩, rfl, rfl, rfl, rfl⟩

namespace TimedForwarder

/-- A reload takes the parameters over if the addresses parse, and is refused otherwise. -/
theorem reload_eq (forwarder : TimedForwarder) (params : ForwarderParams) :
    (∃ addresses, params.upstreams.mapM UpstreamConfig.client = some addresses ∧
      forwarder.reload params.upstreams params.timeoutSecs params.strategy params.hedgeDelayMs =
        (.ok (), { params.forwarder addresses with
          maxAdaptiveParallel := forwarder.maxAdaptiveParallel })) ∨
    params.upstreams.mapM UpstreamConfig.client = none ∧
      ∃ error, forwarder.reload params.upstreams params.timeoutSecs params.strategy
        params.hedgeDelayMs = (.error error, forwarder) := by
  have made := params.toOption_build
  have same : newWithOptions params.upstreams params.timeoutSecs params.strategy
    params.hedgeDelayMs = params.build := rfl
  unfold reload
  rw [same]
  rcases built : params.build with error | fresh
  · rw [built] at made
    exact Or.inr ⟨Option.map_eq_none_iff.mp made.symm, error, rfl⟩
  · rw [built] at made
    obtain ⟨addresses, parsed, rfl⟩ := Option.map_eq_some_iff.mp made.symm
    exact Or.inl ⟨addresses, parsed, rfl⟩

/-- A reload that fails changes nothing. -/
theorem reload_of_error {forwarder : TimedForwarder} {upstreams : List UpstreamConfig}
    {timeoutSecs hedgeDelayMs : Nat} {strategy : ForwardStrategy} {error : Str}
    (failed : (forwarder.reload upstreams timeoutSecs strategy hedgeDelayMs).1 = .error error) :
    (forwarder.reload upstreams timeoutSecs strategy hedgeDelayMs).2 = forwarder := by
  rcases forwarder.reload_eq { upstreams, timeoutSecs, strategy, hedgeDelayMs } with
    ⟨addresses, -, same⟩ | ⟨-, other, same⟩
  · rw [same] at failed
    cases failed
  · rw [same]

end TimedForwarder

/-- **Every call keeps what stands in the forwarder.** -/
theorem Stands.call {latest : LatestParams} {forwarder : TimedForwarder}
    (stands : Stands latest forwarder) (call : ForwarderCall) :
    Stands (latest.call call) (forwarder.call call) := by
  cases call with
  | setTimeout timeoutSecs => exact { stands with timeout := rfl }
  | setStrategy strategy => exact { stands with strategy := rfl }
  | setHedgeDelayMs hedgeDelayMs => exact { stands with hedgeDelay := rfl }
  | reload upstreams timeoutSecs strategy hedgeDelayMs =>
      rw [LatestParams.call, TimedForwarder.call]
      rcases forwarder.reload_eq { upstreams, timeoutSecs, strategy, hedgeDelayMs } with
        ⟨addresses, parsed, same⟩ | ⟨bad, error, same⟩
      · have parse : AllParse upstreams := by
          rw [← mapM_client_isSome, parsed]
          rfl
        rw [if_pos parse, same]
        exact ⟨⟨addresses, parsed, rfl⟩, rfl, rfl, rfl, stands.parallel⟩
      · have parse : ¬ AllParse upstreams := by
          rw [← mapM_client_isSome, bad]
          exact Bool.false_ne_true
        rw [if_neg parse, same]
        exact stands

theorem Stands.calls {latest : LatestParams} {forwarder : TimedForwarder}
    (stands : Stands latest forwarder) (calls : List ForwarderCall) :
    Stands (calls.foldl LatestParams.call latest) (forwarder.calls calls) := by
  induction calls generalizing latest forwarder with
  | nil => exact stands
  | cons call rest ih => exact ih (stands.call call)

/-! ## Rebuilding

A forwarder that stands by its parameters is compared with the one that is built from them.  They
differ in the limits of the clients only, and these limits matter only below the deadline. -/

/-- A forwarder treats requests as one that is built anew from these parameters. -/
def Rebuilt (params : ForwarderParams) (forwarder : TimedForwarder) : Prop :=
  ∃ fresh, params.build = .ok fresh ∧ forwarder.TreatsAlike fresh

/-- The clients' own timeout does not show: there are none, or the deadline comes first. -/
def LatestParams.DeadlineFirst (latest : LatestParams) : Prop :=
  latest.upstreams = [] ∨ latest.timeoutSecs ≤ latest.loadedSecs

theorem mapM_client_eq_nil {upstreams : List UpstreamConfig}
    (built : upstreams.mapM UpstreamConfig.client = some []) : upstreams = [] := by
  cases upstreams with
  | nil => rfl
  | cons upstream rest =>
      rw [Traversal.mapM_cons, Option.bind_eq_some_iff] at built
      obtain ⟨client, -, others⟩ := built
      obtain ⟨clients, -, same⟩ := Option.map_eq_some_iff.mp others
      cases same

section Limits

variable {forwarder : TimedForwarder} {addresses : List (IpAddr × Nat)} {secs : Nat}

/-- The limits over UDP of clients with one timeout. -/
theorem udpLimit_clientAt (clients : forwarder.clients = addresses.map (clientAt secs)) (idx : Nat)
    (elapsed : Duration) :
    forwarder.udpLimit idx elapsed =
      addresses[idx]?.map fun _ => min (.fromSecs secs) (forwarder.timeout - elapsed) := by
  rw [TimedForwarder.udpLimit, clients, List.getElem?_map, Option.map_map]
  rfl

theorem tcpLimit_clientAt (clients : forwarder.clients = addresses.map (clientAt secs)) (idx : Nat)
    (elapsed : Duration) :
    forwarder.tcpLimit idx elapsed =
      addresses[idx]?.map fun _ => min (.fromSecs secs) (forwarder.timeout - elapsed) := by
  rw [TimedForwarder.tcpLimit, clients, List.getElem?_map, Option.map_map]
  rfl

end Limits

theorem Stands.deadlineFirst_iff {latest : LatestParams} {forwarder : TimedForwarder}
    (stands : Stands latest forwarder) :
    Rebuilt latest.toForwarderParams forwarder ↔ latest.DeadlineFirst := by
  obtain ⟨addresses, parsed, clients⟩ := stands.clients
  constructor
  · rintro ⟨built, new, alike⟩
    obtain ⟨again, parsed', rfl⟩ := ForwarderParams.build_eq_ok.mp new
    obtain rfl := Option.some.inj (parsed.symm.trans parsed')
    cases addresses with
    | nil => exact Or.inl (mapM_client_eq_nil parsed)
    | cons address rest =>
        -- the first upstream is asked when the query begins
        have first := alike.udp 0 0
        rw [udpLimit_clientAt clients, udpLimit_clientAt rfl, stands.timeout] at first
        have limit : min (Duration.fromSecs latest.loadedSecs) (.fromSecs latest.timeoutSecs - 0) =
            min (.fromSecs latest.timeoutSecs) (.fromSecs latest.timeoutSecs - 0) :=
          Option.some.inj first
        rw [Nat.sub_zero, min_self, min_eq_right_iff] at limit
        exact Or.inr (Duration.fromSecs_le_fromSecs.mp limit)
  · intro first
    refine ⟨_, ForwarderParams.build_eq_ok.mpr ⟨addresses, parsed, rfl⟩, ?_⟩
    have same (idx : Nat) (elapsed : Duration) :
        (addresses[idx]?.map fun _ =>
          min (Duration.fromSecs latest.loadedSecs) (.fromSecs latest.timeoutSecs - elapsed)) =
        addresses[idx]?.map fun _ =>
          min (Duration.fromSecs latest.timeoutSecs) (.fromSecs latest.timeoutSecs - elapsed) := by
      rcases first with unchanged | le
      · rw [unchanged, List.mapM_nil] at parsed
        obtain rfl : [] = addresses := Option.some.inj parsed
        simp only [List.getElem?_nil, Option.map_none]
      · have le := Duration.fromSecs_le_fromSecs.mpr le
        rw [min_eq_right ((Nat.sub_le _ _).trans le), min_eq_right (Nat.sub_le _ _)]
    have fresh : (latest.toForwarderParams.forwarder addresses).clients =
        addresses.map (clientAt latest.timeoutSecs) := rfl
    refine
      { addresses := ?_
        strategy := stands.strategy
        hedgeDelay := stands.hedgeDelay
        parallel := stands.parallel
        deadline := stands.timeout
        udp := fun idx elapsed => ?_
        tcp := fun idx elapsed => ?_ }
    · rw [clients, map_address_clientAt]
      exact (map_address_clientAt latest.timeoutSecs addresses).symm
    · rw [udpLimit_clientAt clients, udpLimit_clientAt fresh, stands.timeout]
      exact same idx elapsed
    · rw [tcpLimit_clientAt clients, tcpLimit_clientAt fresh, stands.timeout]
      exact same idx elapsed

/-- **A forwarder that runs is as one that is rebuilt** exactly if it has no upstreams or the
latest timeout is at most that of the last reload, whatever was called and in which order; and
a reload that fails changes nothing. -/
theorem rebuilt_iff {start : ForwarderParams} {built : TimedForwarder}
    (new : start.build = .ok built) (calls : List ForwarderCall) :
    (Rebuilt (LatestParams.afterCalls start calls).toForwarderParams (built.calls calls) ↔
      (LatestParams.afterCalls start calls).DeadlineFirst) ∧
    ∀ upstreams timeoutSecs strategy hedgeDelayMs error,
      ((built.calls calls).reload upstreams timeoutSecs strategy hedgeDelayMs).1 = .error error →
      ((built.calls calls).reload upstreams timeoutSecs strategy hedgeDelayMs).2 =
        built.calls calls :=
  ⟨((stands_build new).calls calls).deadlineFirst_iff, fun _ _ _ _ _ failed =>
    TimedForwarder.reload_of_error failed⟩

/-- One upstream and five seconds. -/
def fiveSeconds : ForwarderParams where
  upstreams := [{ address := "192.0.2.1".toList, port := none }]
  timeoutSecs := 5
  strategy := .adaptive
  hedgeDelayMs := defaultHedgeDelayMs

/-- The forwarder of these. -/
def fiveSecondsForwarder : TimedForwarder := fiveSeconds.forwarder [(.v4 0xC0000201#32, 53)]

theorem build_fiveSeconds : fiveSeconds.build = .ok fiveSecondsForwarder := by decide +kernel

theorem rebuilt_iff_fiveSeconds :
    (Rebuilt (LatestParams.afterCalls fiveSeconds [.setTimeout 30]).toForwarderParams
        (fiveSecondsForwarder.calls [.setTimeout 30]) ↔
      (LatestParams.afterCalls fiveSeconds [.setTimeout 30]).DeadlineFirst) ∧
    ∀ upstreams timeoutSecs strategy hedgeDelayMs error,
      ((fiveSecondsForwarder.calls [.setTimeout 30]).reload upstreams timeoutSecs strategy
        hedgeDelayMs).1 = .error error →
      ((fiveSecondsForwarder.calls [.setTimeout 30]).reload upstreams timeoutSecs strategy
        hedgeDelayMs).2 = fiveSecondsForwarder.calls [.setTimeout 30] :=
  rebuilt_iff build_fiveSeconds [.setTimeout 30]

/-- **A longer timeout is not taken over**: after a change from five seconds to thirty an upstream
still has five seconds, over UDP and over TCP, and thirty after a rebuild. -/
theorem not_rebuilt_longer :
    ¬ Rebuilt (LatestParams.afterCalls fiveSeconds [.setTimeout 30]).toForwarderParams
        (fiveSecondsForwarder.calls [.setTimeout 30]) ∧
      (fiveSecondsForwarder.calls [.setTimeout 30]).udpLimit 0 0 = some (.fromSecs 5) ∧
      (fiveSecondsForwarder.calls [.setTimeout 30]).tcpLimit 0 0 = some (.fromSecs 5) ∧
      (({ fiveSeconds with timeoutSecs := 30 } : ForwarderParams).forwarder
        [(.v4 0xC0000201#32, 53)]).udpLimit 0 0 = some (.fromSecs 30) := by
  refine ⟨fun rebuilt => ?_, by decide +kernel, by decide +kernel, by decide +kernel⟩
  have stands := (stands_build build_fiveSeconds).calls [.setTimeout 30]
  have first := stands.deadlineFirst_iff.mp rebuilt
  revert first
  unfold LatestParams.DeadlineFirst
  decide +kernel

/-! ## The forwarder of the server

The forwarder of the other modules has no clients, since a query in them takes no time.  It is a
part of this one, and the handler of the settings changes both in the same way. -/

/-- The forwarder of a server, which has no timeouts of clients, is this one.  A query of the
server takes no time, so it cannot notice them. -/
structure Shows (plain : ParallelForwarder) (forwarder : TimedForwarder) : Prop where
  clients : plain.clients = forwarder.clients.map UpstreamClient.address
  health : plain.health = forwarder.health
  timeout : forwarder.timeout = .fromSecs plain.timeoutSecs
  strategy : plain.strategy = forwarder.strategy
  hedgeDelay : forwarder.hedgeDelay = .fromMillis plain.hedgeDelayMs
  parallel : plain.maxAdaptiveParallel = forwarder.maxAdaptiveParallel

namespace Shows

variable {plain other : ParallelForwarder} {f g : TimedForwarder}

/-- What treats every request alike is one forwarder, the health apart. -/
theorem eq_of_treatsAlike (here : Shows plain f) (there : Shows other g) (alike : f.TreatsAlike g) :
    { plain with health := other.health } = other := by
  have secs : plain.timeoutSecs = other.timeoutSecs := by
    have same := here.timeout.symm.trans (alike.deadline.trans there.timeout)
    exact Nat.eq_of_mul_eq_mul_right (by decide) same
  have millis : plain.hedgeDelayMs = other.hedgeDelayMs := by
    have same := here.hedgeDelay.symm.trans (alike.hedgeDelay.trans there.hedgeDelay)
    exact Nat.eq_of_mul_eq_mul_right (by decide) same
  obtain ⟨clients, health, timeoutSecs, strategy, hedgeDelayMs, parallel⟩ := other
  show ParallelForwarder.mk _ _ _ _ _ _ = _
  rw [secs, millis, here.clients, alike.addresses, ← there.clients, here.strategy, alike.strategy,
    ← there.strategy, here.parallel, alike.parallel, ← there.parallel]

/-- What is built from the same addresses. -/
theorem shows_forwarder (params : ForwarderParams) (addresses : List (IpAddr × Nat)) :
    Shows
      { clients := addresses
        health := addresses.map fun _ => {}
        timeoutSecs := params.timeoutSecs
        strategy := params.strategy
        hedgeDelayMs := params.hedgeDelayMs }
      (params.forwarder addresses) := by
  refine ⟨(map_address_clientAt _ _).symm, ?_, rfl, rfl, rfl, rfl⟩
  show addresses.map (fun _ => ({} : UpstreamHealth)) =
    (addresses.map (clientAt params.timeoutSecs)).map fun _ => {}
  rw [List.map_map]
  rfl

/-- **A reload of the server's forwarder** is a reload of the one with timeouts. -/
theorem reload (here : Shows plain f) (params : ForwarderParams) :
    Shows
      (plain.reload params.upstreams params.timeoutSecs params.strategy params.hedgeDelayMs)
      (f.reload params.upstreams params.timeoutSecs params.strategy params.hedgeDelayMs).2 := by
  have built := ParallelForwarder.toOption_newWithOptions params.upstreams params.timeoutSecs
    params.strategy params.hedgeDelayMs
  unfold ParallelForwarder.reload
  rcases f.reload_eq params with ⟨addresses, parsed, same⟩ | ⟨bad, error, same⟩
  · rw [parsed] at built
    rcases result : ParallelForwarder.newWithOptions params.upstreams params.timeoutSecs
      params.strategy params.hedgeDelayMs with error | fresh
    · rw [result] at built
      cases built
    · rw [result] at built
      obtain rfl := Option.some.inj built
      rw [same]
      exact { shows_forwarder params addresses with parallel := here.parallel }
  · rw [bad] at built
    rcases result : ParallelForwarder.newWithOptions params.upstreams params.timeoutSecs
      params.strategy params.hedgeDelayMs with error | fresh
    · rw [same]
      exact here
    · rw [result] at built
      cases built

end Shows

/-- The call on the forwarder by which a running server takes a setting over. -/
def liveCall {Net : Type} (key value : Str) :
    WebServer.SettingValue Net → Option ForwarderCall
  | .strategy strategy => some (.setStrategy strategy)
  | .hedgeDelay ms => some (.setHedgeDelayMs ms.toNat)
  | .other =>
      if key = "upstream_timeout_secs".toList then
        (Str.parseU64 value).map fun secs => .setTimeout secs.toNat
      else none
  | _ => none

/-- **A setting that is taken over** is a call on the forwarder, or leaves it as it is. -/
theorem shows_takeOver {Net : Type} {s : WebServer Net} {f : TimedForwarder}
    (here : Shows s.forwarder f) (key value : Str) (setting : WebServer.SettingValue Net) :
    Shows (s.takeOver key value setting).forwarder
      ((liveCall key value setting).elim f f.call) := by
  cases setting with
  | strategy strategy => exact { here with strategy := rfl }
  | responseMode mode => exact here
  | hedgeDelay ms => exact { here with hedgeDelay := rfl }
  | acl acl => exact here
  | restart => exact here
  | other =>
      simp only [WebServer.takeOver, liveCall]
      by_cases timeout : key = "upstream_timeout_secs".toList
      · rw [if_pos timeout, if_neg (by rw [timeout]; decide), if_neg (by rw [timeout]; decide),
          if_pos timeout]
        rcases Str.parseU64 value with _ | secs
        · exact here
        · exact { here with timeout := rfl }
      · rw [if_neg timeout, if_neg timeout]
        -- no other setting is one of the forwarder
        split
        · rcases IpAddr.parseIpv4 value with _ | _ <;> exact here
        · split
          · rcases IpAddr.parseIpv6 value with _ | _ <;> exact here
          · split
            · rcases Str.parseU64 value with _ | _ <;> exact here
            · exact here

end RustBlocker
