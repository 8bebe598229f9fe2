import RustBlocker.IpAddr
import RustBlocker.Lists

/-!
# The forwarder

The upstream servers, and the account of their health by which the adaptive strategy orders them:
a latency score that follows the answers, and a number of failures, each of which counts half a
second.

Scores are `u64` in microseconds and their arithmetic saturates.

The functions that record an outcome take the two numbers together here, as one step.  In the
program they are two atomics, each loaded and stored apart; what is left of the account when
several queries record at once is the subject of `RustBlocker.HealthRaces`, which also shows that
calls that do not overlap are these steps.  A client is the address that it talks to.  The socket,
the timeout with which it was built, and what becomes of both when the upstreams are exchanged
while queries are in flight, are in `RustBlocker.HotReload`.
-/

namespace RustBlocker

def defaultHedgeDelayMs : Nat := 75

def defaultMaxAdaptiveParallel : Nat := 2

def defaultLatencyScoreUs : Nat := 50000

def failurePenaltyUs : Nat := 500000

inductive ForwardStrategy where
  | adaptive
  | parallel
deriving DecidableEq, Repr

namespace ForwardStrategy

def asStr : ForwardStrategy → Str
  | adaptive => "adaptive".toList
  | parallel => "parallel".toList

/-- `from_str` -/
def parse (value : Str) : Option ForwardStrategy :=
  let value := Str.toAsciiLowercase (Str.trim value)
  if value = "adaptive".toList then some adaptive
  else if value = "parallel".toList then some parallel
  else none

end ForwardStrategy

/-- `UpstreamHealth`: a score of the latency, and a count of failures with a cap. -/
structure UpstreamHealth where
  latencyScoreUs : Nat := defaultLatencyScoreUs
  failures : Nat := 0
deriving DecidableEq, Repr

namespace UpstreamHealth

/-- `rank_score` -/
def rankScore (health : UpstreamHealth) : Nat :=
  saturatingAdd health.latencyScoreUs (saturatingMul health.failures failurePenaltyUs)

/-- `record_success` -/
def recordSuccess (health : UpstreamHealth) (latencyUs : Nat) : UpstreamHealth where
  latencyScoreUs := max (saturatingAdd (saturatingMul health.latencyScoreUs 7) latencyUs / 8) 1
  failures := health.failures - 1

/-- `record_hedged_miss` -/
def recordHedgedMiss (health : UpstreamHealth) (elapsedUs : Nat) : UpstreamHealth :=
  { health with latencyScoreUs := max health.latencyScoreUs elapsedUs }

/-- `record_failure` -/
def recordFailure (health : UpstreamHealth) : UpstreamHealth :=
  { health with failures := min (saturatingAdd health.failures 1) 16 }

end UpstreamHealth

/-- `ParallelForwarder`; a client is the address it talks to. -/
structure ParallelForwarder where
  clients : List (IpAddr × Nat) := []
  health : List UpstreamHealth := []
  timeoutSecs : Nat := 5
  strategy : ForwardStrategy := .adaptive
  hedgeDelayMs : Nat := defaultHedgeDelayMs
  maxAdaptiveParallel : Nat := defaultMaxAdaptiveParallel
deriving DecidableEq, Repr

/-- `UpstreamConfig` -/
structure UpstreamConfig where
  address : Str
  port : Option Nat

namespace ParallelForwarder

/-- `new_with_options`: one address that does not parse rejects the upstreams. -/
def newWithOptions (upstreams : List UpstreamConfig) (timeoutSecs : Nat)
    (strategy : ForwardStrategy) (hedgeDelayMs : Nat) : Except Str ParallelForwarder := do
  let clients ← upstreams.mapM fun upstream =>
    match IpAddr.parse upstream.address with
    | some ip => Except.ok (ip, upstream.port.getD 53)
    | none => .error ("Invalid upstream IP: ".toList ++ upstream.address)
  return { clients, health := clients.map fun _ => {}, timeoutSecs, strategy, hedgeDelayMs }

/-- `reload` keeps what there is when an address is bad. -/
def reload (forwarder : ParallelForwarder) (upstreams : List UpstreamConfig)
    (timeoutSecs : Nat) (strategy : ForwardStrategy) (hedgeDelayMs : Nat) :
    ParallelForwarder :=
  match newWithOptions upstreams timeoutSecs strategy hedgeDelayMs with
  | .error _ => forwarder
  | .ok fresh => { fresh with maxAdaptiveParallel := forwarder.maxAdaptiveParallel }

/-- The score of a client. -/
def score (forwarder : ParallelForwarder) (idx : Nat) : Nat :=
  match forwarder.health[idx]? with
  | some health => health.rankScore
  | none => usizeMax

/-- `adaptive_order`: a stable sort by score. -/
def adaptiveOrder (forwarder : ParallelForwarder) : List Nat :=
  (List.range forwarder.clients.length).insertionSort fun i j =>
    forwarder.score i ≤ forwarder.score j

end ParallelForwarder

end RustBlocker
