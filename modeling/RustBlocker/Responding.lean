import RustBlocker.AdaptiveForwarding

/-!
# One response for a request

`send_response` may suspend, any number of times, before it returns.  The machine of `Forwarding`
sends in one step; here a send begins, is suspended and returns.

* **The block under the deadline** sends the answer itself in `resolve_parallel` and in
  `resolve_adaptive`.  When the deadline expires at a suspension of that send, the send is dropped
  and the branch of the deadline begins another one.
* **Outside of it** are the sends of `resolve_one`, whose block only asks the upstream, and every
  SERVFAIL.
* **A send that fails** returns too, and nothing else is sent.

`always_oneResponse_iff` is the account of all runs; `exec_queryForwarding` says that those which
meet its condition are the runs of `Forwarding`.

A send is counted when it begins.  What a dropped send has put on the wire is not known: over UDP
a datagram goes out whole or not at all, over TCP a client may have read a part of the message.
To count the sends that begin is the safe reading, and the one under which the property can be
decided by the server alone.

The second result is the reason why the other modules may use the simpler machine: it loses no run
in which the deadline keeps out of a send, and what the two machines do to the health of the
upstreams is the same in all of them.
-/

namespace RustBlocker

/-- Where `resolve` stands. -/
inductive SendStage where
  /-- An upstream, the hedge timer or the deadline is awaited. -/
  | waiting
  /-- `send_response` began, and has been suspended so many times. -/
  | sending (suspensions : Nat)
  | returned
deriving DecidableEq

/-- A request that is being resolved: the query, the sends so far, and where the last of them
stands. -/
structure Resolution (ρ ε : Type) where
  /-- What was asked and answered, and the sends that began. -/
  run : ForwardRun ρ ε
  stage : SendStage

inductive ResolveEvent (ρ ε : Type) where
  | forward (event : ForwardEvent ρ ε)
  | suspends
  /-- `send_response` returns, with an error or without. -/
  | completes (delivered : Bool)

namespace Resolution

variable {ρ ε : Type}

/-- A query that is over has begun to send, but for a panic. -/
def reached (run : ForwardRun ρ ε) : Resolution ρ ε where
  run
  stage :=
    match run.exit with
    | none => .waiting
    | some .outOfRange => .returned
    | some _ => .sending 0

/-- `resolve` up to its first suspension; a request without a query is refused. -/
def resolve (hasQuery : Bool) (forwarder : ParallelForwarder) : Resolution ρ ε :=
  if hasQuery then reached (.start (fun _ => true) forwarder forwarder.resolver)
  else { run := { forwarder, sent := [.servfail] }, stage := .sending 0 }

/-- The send is one of an answer, inside the block under the deadline. -/
def insideBlock (resolver : Resolver) (s : Resolution ρ ε) : Bool :=
  match resolver, s.run.exit with
  | .one, _ => false
  | _, some (.answered _ _) => true
  | _, _ => false

def step (resolver : Resolver) (s : Resolution ρ ε) (event : ResolveEvent ρ ε) :
    Option (Resolution ρ ε) :=
  match s.stage, event with
  | .waiting, .forward event => (s.run.step (fun _ => true) resolver event).map reached
  | .sending suspensions, .suspends => some { s with stage := .sending (suspensions + 1) }
  | .sending _, .completes delivered =>
      some { run := { s.run with delivered }, stage := .returned }
  -- the deadline is looked at after the block was polled and has suspended
  | .sending (_ + 1), .forward .deadline =>
      if s.insideBlock resolver then
        some (reached (s.run.send (fun _ => true) .servfail .timedOut))
      else none
  | _, _ => none

end Resolution

/-- A request and its events. -/
def requestResolving (ρ ε : Type) (resolver : Resolver) :
    StateMachine (Resolution ρ ε) (ResolveEvent ρ ε) where
  init s := ∃ hasQuery forwarder, forwarder.resolver = resolver ∧ s = .resolve hasQuery forwarder
  step s event := s.step resolver event

/-! ## What one event of a query sends

A query sends nothing until its last step, and that step sends one response, unless it panics.
This is said for all three resolvers at once. -/

namespace ForwardRun

variable {ρ ε : Type} {sends : Nat → Bool} {s t : ForwardRun ρ ε}

/-- The query goes on and nothing was sent. -/
def Unsent (s : ForwardRun ρ ε) : Prop := s.exit = none ∧ s.sent = []

/-- The query is over: by a panic, or with the one send that has begun. -/
def Ended (s : ForwardRun ρ ε) : Prop :=
  s.exit = some .outOfRange ∧ s.sent = [] ∨
    ∃ exit response, s.exit = some exit ∧ exit ≠ .outOfRange ∧ s.sent = [response]

theorem Unsent.send (unsent : Unsent s) (response : Sent ρ) {exit : ForwardExit ρ ε}
    (inRange : exit ≠ .outOfRange) : Ended (s.send sends response exit) := by
  refine Or.inr ⟨exit, response, rfl, inRange, ?_⟩
  show s.sent ++ [response] = [response]
  rw [unsent.2]
  rfl

theorem Unsent.launch (unsent : Unsent s) (idx : Nat) : Unsent (s.launch idx) := by
  unfold ForwardRun.launch
  split
  · exact unsent
  · exact unsent

theorem Unsent.launchNext (unsent : Unsent s) : Unsent s.launchNext ∨ Ended s.launchNext := by
  unfold ForwardRun.launchNext
  split
  · exact Or.inl (unsent.launch _)
  · exact Or.inr (Or.inl ⟨rfl, unsent.2⟩)

theorem Ended.loopTop (ended : Ended s) : Ended (s.loopTop sends) := by
  have exits : s.exit.isNone = false := by
    rcases ended with ⟨exits, -⟩ | ⟨exit, -, exits, -⟩ <;> rw [exits] <;> rfl
  unfold ForwardRun.loopTop
  rw [exits, Bool.false_and, if_neg Bool.false_ne_true]
  exact ended

theorem Unsent.loopTop (unsent : Unsent s) :
    Unsent (s.loopTop sends) ∨ Ended (s.loopTop sends) := by
  unfold ForwardRun.loopTop
  split
  · split
    · exact Or.inr (unsent.send _ (by simp))
    · exact unsent.launchNext
  · exact Or.inl unsent

/-- A launch and the top of the loop after it. -/
theorem Unsent.launchNext_loopTop (unsent : Unsent s) :
    Unsent (s.launchNext.loopTop sends) ∨ Ended (s.launchNext.loopTop sends) := by
  rcases unsent.launchNext with on | ended
  · exact on.loopTop
  · exact Or.inr ended.loopTop

theorem Unsent.carryOn (unsent : Unsent s) (resolver : Resolver) :
    Unsent (s.carryOn sends resolver) ∨ Ended (s.carryOn sends resolver) := by
  cases resolver with
  | one => exact Or.inr (unsent.send _ (by simp))
  | parallel =>
      show Unsent (if s.inFlight.isEmpty then _ else s) ∨
        Ended (if s.inFlight.isEmpty then _ else s)
      split
      · exact Or.inr (unsent.send _ (by simp))
      · exact Or.inl unsent
  | adaptive =>
      show Unsent ((if s.mayLaunch then s.launchNext else s).loopTop sends) ∨
        Ended ((if s.mayLaunch then s.launchNext else s).loopTop sends)
      split
      · exact unsent.launchNext_loopTop
      · exact unsent.loopTop

/-- **Before the first event** nothing was sent, or the query is over. -/
theorem unsent_start (sends : Nat → Bool) (forwarder : ParallelForwarder) (resolver : Resolver) :
    Unsent (ρ := ρ) (ε := ε) (start sends forwarder resolver) ∨
      Ended (ρ := ρ) (ε := ε) (start sends forwarder resolver) := by
  have nothing (run : ForwardRun ρ ε) (exit : run.exit = none) (sent : run.sent = []) :
      Unsent run := ⟨exit, sent⟩
  cases resolver with
  | one =>
      simp only [start]
      split
      · exact Or.inr ((nothing _ rfl rfl).send _ (by simp))
      · exact Or.inl ((nothing _ rfl rfl).launch 0)
  | parallel =>
      simp only [start]
      split
      · exact Or.inr ((nothing _ rfl rfl).send _ (by simp))
      · exact Or.inl (nothing _ rfl rfl)
  | adaptive =>
      simp only [start]
      split
      · exact Or.inr ((nothing _ rfl rfl).send _ (by simp))
      · exact (nothing _ rfl rfl).launchNext_loopTop

/-- **An event** sends nothing, or one response and the query is over. -/
theorem Unsent.step (unsent : Unsent s) {resolver : Resolver} {event : ForwardEvent ρ ε}
    (one : s.step sends resolver event = some t) : Unsent t ∨ Ended t := by
  cases event with
  | answers idx response latencyUs =>
      simp only [ForwardRun.step, unsent.1] at one
      split at one
      · cases one
        have settled : (s.succeed resolver idx response latencyUs.toNat).Unsent := unsent
        exact Or.inr (settled.send _ (by simp))
      · cases one
  | fails idx error =>
      simp only [ForwardRun.step, unsent.1] at one
      split at one
      · cases one
        have settled : (s.fail idx error).Unsent := unsent
        exact settled.carryOn resolver
      · cases one
  | hedge =>
      simp only [ForwardRun.step, unsent.1] at one
      split at one
      · cases one
        exact unsent.launchNext_loopTop
      · cases one
  | drained =>
      simp only [ForwardRun.step, unsent.1] at one
      split at one
      · cases one
        exact unsent.loopTop
      · cases one
  | deadline =>
      simp only [ForwardRun.step, unsent.1] at one
      cases one
      exact Or.inr (unsent.send _ (by simp))

end ForwardRun

/-! ## The sends of a request

A send that is dropped by the deadline stays on record.  The step lemma is an equivalence: a
second send begins exactly if the deadline drops an answer. -/

namespace Resolution

variable {ρ ε : Type} {resolver : Resolver} {s t : Resolution ρ ε}

/-- **At most one response**: no second send has begun, and no SERVFAIL after an answer. -/
structure OneResponse (s : Resolution ρ ε) : Prop where
  once : s.run.sent.length ≤ 1
  answer : ∀ idx response, .forwarded idx response ∈ s.run.sent → .servfail ∉ s.run.sent

/-- While something is awaited nothing was sent, and a send in progress is on record. -/
structure Accounted (s : Resolution ρ ε) : Prop where
  waiting : s.stage = .waiting → s.run.Unsent
  sending : ∀ suspensions, s.stage = .sending suspensions → s.run.sent ≠ []

/-- The deadline does not expire while an answer is being sent inside its block.  It is a
condition on the event and the state before it. -/
def NotWhileAnswering (resolver : Resolver) (s : Resolution ρ ε) (event : ResolveEvent ρ ε) :
    Prop :=
  ∀ suspensions, s.stage = .sending suspensions → s.insideBlock resolver = true →
    event ≠ .forward .deadline

theorem oneResponse_of_length (once : s.run.sent.length ≤ 1) : OneResponse s := by
  refine ⟨once, fun idx response answer refused => ?_⟩
  obtain ⟨only, sent⟩ : ∃ only, s.run.sent = [only] :=
    List.length_eq_one_iff.mp (le_antisymm once (List.length_pos_of_mem answer))
  rw [sent, List.mem_singleton] at answer refused
  cases answer.trans refused.symm

theorem accounted_reached {run : ForwardRun ρ ε} (stands : run.Unsent ∨ run.Ended) :
    Accounted (reached run) ∧ OneResponse (reached run) := by
  rcases stands with unsent | ⟨panic, sent⟩ | ⟨exit, response, exits, inRange, sent⟩
  · have stage : (reached run).stage = .waiting := by
      rw [reached, unsent.1]
    refine ⟨⟨fun _ => unsent, fun n sending => ?_⟩, oneResponse_of_length ?_⟩
    · cases stage.symm.trans sending
    · show run.sent.length ≤ 1
      rw [unsent.2]
      exact Nat.zero_le 1
  · have stage : (reached run).stage = .returned := by
      rw [reached, panic]
    refine ⟨⟨fun waiting => ?_, fun n sending => ?_⟩, oneResponse_of_length ?_⟩
    · cases stage.symm.trans waiting
    · cases stage.symm.trans sending
    · show run.sent.length ≤ 1
      rw [sent]
      exact Nat.zero_le 1
  · have stage : (reached run).stage = .sending 0 := by
      rw [reached, exits]
      cases exit with
      | outOfRange => exact absurd rfl inRange
      | answered | failed | timedOut | noUpstream => rfl
    refine ⟨⟨fun waiting => ?_, fun _ _ => ?_⟩, oneResponse_of_length ?_⟩
    · cases stage.symm.trans waiting
    · show run.sent ≠ []
      rw [sent]
      exact List.cons_ne_nil _ _
    · show run.sent.length ≤ 1
      rw [sent]
      exact le_rfl

theorem accounted_resolve (hasQuery : Bool) (forwarder : ParallelForwarder) :
    Accounted (ρ := ρ) (ε := ε) (resolve hasQuery forwarder) ∧
      OneResponse (ρ := ρ) (ε := ε) (resolve hasQuery forwarder) := by
  cases hasQuery with
  | true => exact accounted_reached (ForwardRun.unsent_start _ forwarder forwarder.resolver)
  | false =>
      refine ⟨⟨fun waiting => ?_, fun _ _ => ?_⟩, oneResponse_of_length le_rfl⟩
      · cases waiting
      · exact List.cons_ne_nil _ _

/-- **What a step can do**: an event that was awaited happens, a send is suspended, it returns,
or it is dropped and a SERVFAIL begun. -/
theorem step_cases {event : ResolveEvent ρ ε} (one : s.step resolver event = some t) :
    (s.stage = .waiting ∧ ∃ inner run, event = .forward inner ∧
      s.run.step (fun _ => true) resolver inner = some run ∧ t = reached run) ∨
    (∃ suspensions, s.stage = .sending suspensions ∧ event = .suspends ∧
      t = { s with stage := .sending (suspensions + 1) }) ∨
    (∃ suspensions delivered, s.stage = .sending suspensions ∧ event = .completes delivered ∧
      t = { run := { s.run with delivered }, stage := .returned }) ∨
    (∃ suspensions, s.stage = .sending (suspensions + 1) ∧ event = .forward .deadline ∧
      s.insideBlock resolver = true ∧
      t = reached (s.run.send (fun _ => true) .servfail .timedOut)) := by
  unfold step at one
  split at one
  next inner waiting =>
    obtain ⟨run, moved, rfl⟩ := Option.map_eq_some_iff.mp one
    exact Or.inl ⟨waiting, inner, run, rfl, moved, rfl⟩
  next suspensions sending =>
    cases one
    exact Or.inr (Or.inl ⟨suspensions, sending, rfl, rfl⟩)
  next suspensions delivered sending =>
    cases one
    exact Or.inr (Or.inr (Or.inl ⟨suspensions, delivered, sending, rfl, rfl⟩))
  next suspensions sending =>
    split at one
    next inside =>
      cases one
      exact Or.inr (Or.inr (Or.inr ⟨suspensions, sending, rfl, inside, rfl⟩))
    next => cases one
  next => cases one

/-- A send that is dropped stays on record, and the SERVFAIL is put behind it. -/
theorem length_dropped (accounted : Accounted s) {suspensions : Nat}
    (sending : s.stage = .sending suspensions) :
    2 ≤ (reached (s.run.send (fun _ => true) .servfail .timedOut)).run.sent.length := by
  show 2 ≤ (s.run.sent ++ [Sent.servfail]).length
  have begun := List.length_pos_iff.mpr (accounted.sending suspensions sending)
  rw [List.length_append, List.length_singleton]
  omega

theorem Accounted.step (accounted : Accounted s) {event : ResolveEvent ρ ε}
    (one : s.step resolver event = some t) : Accounted t := by
  rcases step_cases one with ⟨waiting, inner, run, -, moved, rfl⟩ | ⟨n, sending, -, rfl⟩ |
    ⟨n, delivered, sending, -, rfl⟩ | ⟨n, sending, -, -, rfl⟩
  · exact (accounted_reached ((accounted.waiting waiting).step moved)).1
  · refine ⟨fun waiting => ?_, fun _ _ => accounted.sending n sending⟩
    cases waiting
  · refine ⟨fun waiting => ?_, fun _ _ => accounted.sending n sending⟩
    cases waiting
  · refine ⟨fun waiting => ?_, fun _ _ waiting => ?_⟩
    · cases waiting
    · have two := length_dropped accounted sending
      rw [waiting] at two
      exact absurd two (Nat.not_succ_le_zero 1)

/-- **A step begins no second send** exactly if the deadline does not drop an answer. -/
theorem OneResponse.step_iff (accounted : Accounted s) (good : OneResponse s)
    {event : ResolveEvent ρ ε} (one : s.step resolver event = some t) :
    OneResponse t ↔ NotWhileAnswering resolver s event := by
  rcases step_cases one with ⟨waiting, inner, run, rfl, moved, rfl⟩ | ⟨n, sending, rfl, rfl⟩ |
    ⟨n, delivered, sending, rfl, rfl⟩ | ⟨n, sending, rfl, inside, rfl⟩
  · refine iff_of_true (accounted_reached ((accounted.waiting waiting).step moved)).2 ?_
    intro suspensions sending
    cases waiting.symm.trans sending
  · refine iff_of_true ⟨good.once, good.answer⟩ fun _ _ _ same => ?_
    cases same
  · refine iff_of_true ⟨good.once, good.answer⟩ fun _ _ _ same => ?_
    cases same
  · refine iff_of_false (fun once => ?_) fun met => met _ sending inside rfl
    have two := length_dropped accounted sending
    exact absurd (two.trans once.once) (by decide)

end Resolution

section Runs

variable {ρ ε : Type} {events : List (ResolveEvent ρ ε)} {t : Resolution ρ ε}

/-- **At most one response for a request**, in every state of a run, exactly if the deadline
never expires while the answer is being sent inside the block it ends. -/
theorem always_oneResponse_iff (hasQuery : Bool) (forwarder : ParallelForwarder)
    (run : (requestResolving ρ ε forwarder.resolver).exec (.resolve hasQuery forwarder) events =
      some t) :
    (requestResolving ρ ε forwarder.resolver).Always Resolution.OneResponse
        (.resolve hasQuery forwarder) events ↔
      (requestResolving ρ ε forwarder.resolver).StepsMeet
        (Resolution.NotWhileAnswering forwarder.resolver) (.resolve hasQuery forwarder) events := by
  obtain ⟨accounted, once⟩ := Resolution.accounted_resolve (ρ := ρ) (ε := ε) hasQuery forwarder
  exact (requestResolving ρ ε forwarder.resolver).always_iff_stepsMeet_of_invariant
    (fun _ _ _ accounted one => accounted.step one)
    (fun _ _ _ accounted good one => Resolution.OneResponse.step_iff accounted good one)
    accounted once run

/-- Three upstreams; the first one answers, and the client is slow to take the answer. -/
def slowClientEvents : List (ResolveEvent Str Str) :=
  [.forward (.answers 0 "answer".toList 40), .suspends, .forward .deadline]

/-- The request after these. -/
def slowClientEnd : Resolution Str Str where
  run :=
    { forwarder := { threeForwarder with health := [{ latencyScoreUs := 43755 }, {}, {}] }
      order := [0, 1, 2]
      maxParallel := 2
      inFlight := []
      next := 1
      launched := [0]
      sent := [.forwarded 0 "answer".toList, .servfail]
      exit := some .timedOut
      delivered := true
      settled := [(0, .ok "answer".toList)] }
  stage := .sending 0

theorem exec_slowClientEvents :
    (requestResolving Str Str threeForwarder.resolver).exec (.resolve true threeForwarder)
      slowClientEvents = some slowClientEnd := rfl

theorem always_oneResponse_iff_slowClient :
    (requestResolving Str Str threeForwarder.resolver).Always Resolution.OneResponse
        (.resolve true threeForwarder) slowClientEvents ↔
      (requestResolving Str Str threeForwarder.resolver).StepsMeet
        (Resolution.NotWhileAnswering threeForwarder.resolver) (.resolve true threeForwarder)
        slowClientEvents :=
  always_oneResponse_iff true threeForwarder exec_slowClientEvents

/-- **A SERVFAIL after an answer**: the send of the answer is dropped by the deadline, and a
second send begins. -/
theorem not_oneResponse_slowClient :
    (requestResolving Str Str threeForwarder.resolver).exec (.resolve true threeForwarder)
        slowClientEvents = some slowClientEnd ∧
      slowClientEnd.run.sent = [.forwarded 0 "answer".toList, .servfail] ∧
      ¬ slowClientEnd.OneResponse ∧
      ¬ (requestResolving Str Str threeForwarder.resolver).Always Resolution.OneResponse
          (.resolve true threeForwarder) slowClientEvents := by
  have twice : ¬ slowClientEnd.OneResponse := fun one => absurd one.once (by decide)
  refine ⟨rfl, rfl, twice, fun always => twice ?_⟩
  exact always.last exec_slowClientEvents

/-! ## One upstream -/

/-- **With a single upstream** there is no answer inside the block, and at most one response in
every run. -/
theorem always_oneResponse_of_one (hasQuery : Bool) {forwarder : ParallelForwarder}
    (one : forwarder.clients.length = 1) (events : List (ResolveEvent ρ ε)) :
    (requestResolving ρ ε forwarder.resolver).Always Resolution.OneResponse
      (.resolve hasQuery forwarder) events := by
  have resolver : forwarder.resolver = .one := if_pos one
  have outside (s : Resolution ρ ε) (event : ResolveEvent ρ ε) :
      Resolution.NotWhileAnswering forwarder.resolver s event := by
    intro _ _ inside
    rw [resolver] at inside
    cases inside
  have preserved : ∀ s event t, s.Accounted ∧ s.OneResponse → True →
      (requestResolving ρ ε forwarder.resolver).step s event = some t →
      t.Accounted ∧ t.OneResponse :=
    fun s event _ good _ moved =>
      ⟨good.1.step moved, (good.2.step_iff good.1 moved).mpr (outside s event)⟩
  exact (requestResolving ρ ε forwarder.resolver).always_of_stepsMeet preserved
    (fun _ good => good.2) (Resolution.accounted_resolve hasQuery forwarder)
    ((requestResolving ρ ε forwarder.resolver).stepsMeet_true events _)

/-! ## The runs of `Forwarding`

Where no answer is dropped, the sends of a request can be taken for single steps, which is what
the other modules do. -/

/-- What happens to the query, without the account of its send. -/
def ResolveEvent.inner : ResolveEvent ρ ε → Option (ForwardEvent ρ ε)
  | .forward event => some event
  | _ => none

namespace Resolution

/-- A request stands as a query does, but for whether the response arrived, which the query has
decided as soon as it sends. -/
structure Follows (s : Resolution ρ ε) (query : ForwardRun ρ ε) : Prop where
  same : { s.run with delivered := query.delivered } = query
  waiting : s.stage = .waiting → s.run = query

theorem follows_reached (run : ForwardRun ρ ε) : Follows (reached run) run := ⟨rfl, fun _ => rfl⟩

/-- A step is one of the query, or none. -/
theorem Follows.step {resolver : Resolver} {s t : Resolution ρ ε} {query : ForwardRun ρ ε}
    (follows : Follows s query) {event : ResolveEvent ρ ε}
    (met : NotWhileAnswering resolver s event) (one : s.step resolver event = some t) :
    ∃ next, (queryForwarding ρ ε (fun _ => true) resolver).exec query event.inner.toList =
      some next ∧ Follows t next := by
  rcases step_cases one with ⟨waiting, inner, run, rfl, moved, rfl⟩ | ⟨n, sending, rfl, rfl⟩ |
    ⟨n, delivered, sending, rfl, rfl⟩ | ⟨n, sending, rfl, inside, rfl⟩
  · refine ⟨run, ?_, follows_reached run⟩
    obtain rfl := follows.waiting waiting
    show (s.run.step (fun _ => true) resolver inner).bind some = some run
    rw [moved]
    rfl
  · exact ⟨query, rfl, follows.same, fun waiting => by cases waiting⟩
  · exact ⟨query, rfl, follows.same, fun waiting => by cases waiting⟩
  · exact absurd rfl (met _ sending inside)

/-- **A request whose answer is not dropped** is a query of `Forwarding`, whose sends are one
step each. -/
theorem exec_queryForwarding {resolver : Resolver} {s t : Resolution ρ ε}
    {query : ForwardRun ρ ε} {events : List (ResolveEvent ρ ε)} (follows : Follows s query)
    (met : (requestResolving ρ ε resolver).StepsMeet (NotWhileAnswering resolver) s events)
    (run : (requestResolving ρ ε resolver).exec s events = some t) :
    ∃ last, (queryForwarding ρ ε (fun _ => true) resolver).exec query
      (events.filterMap ResolveEvent.inner) = some last ∧ Follows t last := by
  induction events generalizing s query with
  | nil =>
      cases run
      exact ⟨query, rfl, follows⟩
  | cons event rest ih =>
      obtain ⟨m, one, later⟩ := (requestResolving ρ ε resolver).exec_cons_eq_some.mp run
      obtain ⟨next, moved, follows⟩ := follows.step met.1 one
      obtain ⟨last, ran, follows⟩ := ih follows (met.2 m one) later
      refine ⟨last, ?_, follows⟩
      have split : (event :: rest).filterMap ResolveEvent.inner =
          event.inner.toList ++ rest.filterMap ResolveEvent.inner := by
        rw [List.filterMap_cons]
        rcases event.inner with _ | inner <;> rfl
      rw [split, (queryForwarding ρ ε _ resolver).exec_append_of_eq_some _ moved]
      exact ran

end Resolution

end Runs

end RustBlocker
