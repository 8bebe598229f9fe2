import RustBlocker.Forwarder
import RustBlocker.Library.StateMachine

/-!
# Forwarding a query

`resolve_one`, `resolve_parallel` and `resolve_adaptive`: a query goes to some upstreams, and the
client is sent the first answer, or a failure.

* **Events.**  An upstream in flight answers or fails, the hedge timer fires, or the deadline of
  the whole query expires, in any order.  Between two events nothing else happens, and sending a
  response is one step.
* **The loop of `resolve_adaptive`** launches upstreams in four places, all of them by
  `launchNext`: at the start, at the top of the loop, after a failure and when the timer fires.
  An index past the end of the order panics, which is an exit here.
* **The account.**  `settled` records which upstreams answered or failed, in order.  No step reads
  it.
* **A response that cannot be sent** ends the query as well; `sends` says which of the sends of a
  run succeed.

`queryForwarding` is the machine of one query.

The results of an upstream are of two arbitrary types, of answers and of errors, so that nothing
of the control flow depends on what a message is; `RustBlocker.Relaying` puts DNS messages in
their place.  The order of the upstreams is computed once, at the start, from their health as it
is then. What the query records of the health while it runs does not reorder it.

Time is in the events only.  That a hedge timer fires is an event that may come at any moment
after it was set, and a schedule in which it comes early is one of the schedules; what is proved
for all schedules needs no clock.  Where times matter, in what is recorded of a latency, they are
in `RustBlocker.Latencies`.
-/

namespace RustBlocker

/-! ## The account of the health -/

namespace ParallelForwarder

/-- `record_success` -/
def recordSuccess (forwarder : ParallelForwarder) (idx latencyUs : Nat) : ParallelForwarder :=
  { forwarder with health := forwarder.health.modify idx fun h => h.recordSuccess latencyUs }

/-- `record_hedged_misses` -/
def recordHedgedMisses (forwarder : ParallelForwarder) (launched : List Nat)
    (winner elapsedUs : Nat) : ParallelForwarder :=
  { forwarder with
    health := launched.foldl
      (fun health idx =>
        if idx = winner then health else health.modify idx fun h => h.recordHedgedMiss elapsedUs)
      forwarder.health }

/-- `record_failure` -/
def recordFailure (forwarder : ParallelForwarder) (idx : Nat) : ParallelForwarder :=
  { forwarder with health := forwarder.health.modify idx UpstreamHealth.recordFailure }

/-- The order is an order of all upstreams. -/
theorem adaptiveOrder_perm (forwarder : ParallelForwarder) :
    forwarder.adaptiveOrder.Perm (List.range forwarder.clients.length) :=
  List.perm_insertionSort _ _

theorem length_adaptiveOrder (forwarder : ParallelForwarder) :
    forwarder.adaptiveOrder.length = forwarder.clients.length := by
  rw [forwarder.adaptiveOrder_perm.length_eq, List.length_range]

theorem nodup_adaptiveOrder (forwarder : ParallelForwarder) : forwarder.adaptiveOrder.Nodup :=
  forwarder.adaptiveOrder_perm.nodup_iff.mpr List.nodup_range

/-- Every index of the order is that of a client. -/
theorem lt_of_mem_adaptiveOrder {forwarder : ParallelForwarder} {idx : Nat}
    (mem : idx ∈ forwarder.adaptiveOrder) : idx < forwarder.clients.length :=
  List.mem_range.mp (forwarder.adaptiveOrder_perm.mem_iff.mp mem)

end ParallelForwarder

/-! ## One query

The three resolvers as one machine.  The events are what arrives: an answer, a failure, the hedge
timer, the deadline; in between the loop of the resolver runs without interruption, and so it
belongs to the step. -/

/-- The function that forwards the query. -/
inductive Resolver where
  | one
  | parallel
  | adaptive
deriving DecidableEq, Repr

/-- `resolve` -/
def ParallelForwarder.resolver (forwarder : ParallelForwarder) : Resolver :=
  if forwarder.clients.length = 1 then .one
  else
    match forwarder.strategy with
    | .adaptive => .adaptive
    | .parallel => .parallel

/-- A response to the client. -/
inductive Sent (ρ : Type) where
  | forwarded (idx : Nat) (response : ρ)
  | servfail
deriving DecidableEq

/-- Why a query is over.  The last two cannot occur, which is proved; they are here because the
source would panic or stop there. -/
inductive ForwardExit (ρ ε : Type) where
  | answered (idx : Nat) (response : ρ)
  /-- All upstreams that were asked failed; without an error in the branch "without a captured
  error". -/
  | failed (error : Option ε)
  | timedOut
  | noUpstream
  /-- `order[next]` is out of range. -/
  | outOfRange
deriving DecidableEq

/-- What can happen to a query: an upstream is done, a timer runs out, or nothing is in flight any
more. -/
inductive ForwardEvent (ρ ε : Type) where
  | answers (idx : Nat) (response : ρ) (latencyUs : UInt64)
  | fails (idx : Nat) (error : ε)
  | hedge
  /-- `in_flight.next()` of an empty set. -/
  | drained
  | deadline

/-- A query that is being forwarded, with the forwarder whose health it changes.  The last three
fields say what has come of it. -/
structure ForwardRun (ρ ε : Type) where
  forwarder : ParallelForwarder
  order : List Nat := []
  maxParallel : Nat := 0
  inFlight : List Nat := []
  next : Nat := 0
  launched : List Nat := []
  lastErr : Option ε := none
  /-- The responses whose sending was attempted. -/
  sent : List (Sent ρ) := []
  exit : Option (ForwardExit ρ ε) := none
  /-- The result is not an error. -/
  delivered : Bool := false
  /-- The upstreams that answered or failed. -/
  settled : List (Nat × Except ε ρ) := []

namespace ForwardRun

variable {ρ ε : Type}

section Step

variable (sends : Nat → Bool) (s : ForwardRun ρ ε)

/-- The response is sent, and the query is over. -/
def send (response : Sent ρ) (exit : ForwardExit ρ ε) : ForwardRun ρ ε :=
  { s with
    sent := s.sent ++ [response]
    exit := some exit
    delivered := sends s.sent.length }

/-- `launch` -/
def launch (idx : Nat) : ForwardRun ρ ε :=
  match s.forwarder.clients[idx]? with
  | some _ => { s with inFlight := s.inFlight ++ [idx], launched := s.launched ++ [idx] }
  | none => s

/-- `launch(order[next])` and `next += 1` -/
def launchNext : ForwardRun ρ ε :=
  match s.order[s.next]? with
  | some idx => { s.launch idx with next := s.next + 1 }
  | none => { s with exit := some .outOfRange }

/-- The top of the loop of `resolve_adaptive`. -/
def loopTop : ForwardRun ρ ε :=
  if s.exit.isNone && s.inFlight.isEmpty then
    if s.order.length ≤ s.next then s.send sends .servfail (.failed s.lastErr)
    else s.launchNext
  else s

/-- What a resolver does before the first event: it asks the first upstream, all of them, or as
many as it may. -/
def start (forwarder : ParallelForwarder) : Resolver → ForwardRun ρ ε
  | .one =>
      let run : ForwardRun ρ ε := { forwarder }
      if forwarder.clients.isEmpty then run.send sends .servfail .noUpstream else run.launch 0
  | .parallel =>
      let all := List.range forwarder.clients.length
      let run : ForwardRun ρ ε := { forwarder, inFlight := all, launched := all }
      if all.isEmpty then run.send sends .servfail (.failed none) else run
  | .adaptive =>
      let order := forwarder.adaptiveOrder
      let run : ForwardRun ρ ε :=
        { forwarder, order, maxParallel := min (max forwarder.maxAdaptiveParallel 1) order.length }
      if order.isEmpty then run.send sends .servfail .noUpstream
      else run.launchNext.loopTop sends

/-- An upstream is no longer in flight. -/
def settle (idx : Nat) (result : Except ε ρ) : ForwardRun ρ ε :=
  { s with inFlight := s.inFlight.erase idx, settled := s.settled ++ [(idx, result)] }

/-- An upstream answered. -/
def succeed (resolver : Resolver) (idx : Nat) (response : ρ) (latencyUs : Nat) :
    ForwardRun ρ ε :=
  let recorded := s.forwarder.recordSuccess idx latencyUs
  { s.settle idx (.ok response) with
    forwarder :=
      match resolver with
      | .adaptive => recorded.recordHedgedMisses s.launched idx latencyUs
      | _ => recorded }

/-- An upstream failed. -/
def fail (idx : Nat) (error : ε) : ForwardRun ρ ε :=
  { s.settle idx (.error error) with
    forwarder := s.forwarder.recordFailure idx
    lastErr := some error }

/-- The timer may launch another upstream, and so may a failure. -/
def mayLaunch : Bool := s.inFlight.length < s.maxParallel && s.next < s.order.length

/-- What a resolver does after a failure. -/
def carryOn : Resolver → ForwardRun ρ ε
  | .one => s.send sends .servfail (.failed s.lastErr)
  | .parallel => if s.inFlight.isEmpty then s.send sends .servfail (.failed s.lastErr) else s
  | .adaptive => (if s.mayLaunch then s.launchNext else s).loopTop sends

def step (resolver : Resolver) (event : ForwardEvent ρ ε) : Option (ForwardRun ρ ε) :=
  match s.exit, event with
  | some _, _ => none
  | none, .answers idx response latencyUs =>
      if idx ∈ s.inFlight then
        some ((s.succeed resolver idx response latencyUs.toNat).send sends
          (.forwarded idx response) (.answered idx response))
      else none
  | none, .fails idx error =>
      if idx ∈ s.inFlight then some ((s.fail idx error).carryOn sends resolver) else none
  | none, .hedge =>
      if resolver = .adaptive ∧ s.mayLaunch then some (s.launchNext.loopTop sends) else none
  | none, .drained =>
      if resolver = .adaptive ∧ s.inFlight = [] then some (s.loopTop sends) else none
  | none, .deadline => some (s.send sends .servfail .timedOut)

end Step

end ForwardRun

/-- A query and its events. -/
def queryForwarding (ρ ε : Type) (sends : Nat → Bool) (resolver : Resolver) :
    StateMachine (ForwardRun ρ ε) (ForwardEvent ρ ε) where
  init s := ∃ forwarder, s = .start sends forwarder resolver
  step s event := s.step sends resolver event

end RustBlocker
