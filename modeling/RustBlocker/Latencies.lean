import RustBlocker.AdaptiveForwarding

/-!
# Latencies of upstreams

`resolve` takes one `Instant`, `start`, before any upstream is asked, and `resolve_adaptive`
launches its upstreams one after the other.  When an answer arrives, `start.elapsed()` is what the
health of the winner is told, and of every other upstream that was launched.

* **Times** are nanoseconds after `start`.  An event is handled at some time, and the upstream it
  launches, if it launches one, is launched at that time or later.
* **A charge** is a call of `record_success` or `record_hedged_miss`, and the record of launch
  times stands beside the run; no step reads either.
* **Microseconds** are whole ones and a `u64`, `as_micros() as u64`.

`always_charged_iff` says which runs charge each upstream with the time since its own launch.

## The clock

Without its times, a run of this machine is a run of the adaptive strategy in which the latency of
an answer is read off the clock, and the machine accepts any times that do not go back.
`start.elapsed()` is monotonic, as `Instant` promises, and nothing else is assumed of it: in
particular nothing about how long a launch takes, nor about the delay of the hedge.

The record of launch times is what the code does not have.  With it the charge that would be right
can be named, and `OwnTime` compares it with the one that is made.  `record_answerCharges` ties
the charges to the health: folding them over the forwarder is what the answer does to it.

Since both times are cut to whole microseconds, a launch that is late by less than one may or may
not show.  `hiddenMicros` is the exact number that such a launch hides, and the condition of the
theorem is that a `u64` does not notice it, for whatever is in flight at an answer.
-/

namespace RustBlocker

/-- `elapsed().as_micros() as u64` -/
def microsU64 (nanos : Nat) : UInt64 := UInt64.ofNat (nanos / 1000)

/-! ## Charges

What is told to the health of the upstreams when an answer arrives, as a list, and that folding
this list is what the code does to the health. -/

/-- The function of `UpstreamHealth` that is told a time. -/
inductive ChargeKind where
  | success
  | hedgedMiss
deriving DecidableEq, Repr

/-- What the health of one upstream is told, and when. -/
structure Charge where
  kind : ChargeKind
  idx : Nat
  us : UInt64
  /-- When it was made. -/
  time : Nat
deriving DecidableEq, Repr

/-- What is recorded of an upstream. -/
def Charge.record (forwarder : ParallelForwarder) (charge : Charge) : ParallelForwarder :=
  { forwarder with
    health := forwarder.health.modify charge.idx fun health =>
      match charge.kind with
      | .success => health.recordSuccess charge.us.toNat
      | .hedgedMiss => health.recordHedgedMiss charge.us.toNat }

/-- The calls of `record_hedged_misses`. -/
def hedgedMisses (launched : List Nat) (winner : Nat) (us : UInt64) (time : Nat) : List Charge :=
  (launched.filter (· ≠ winner)).map fun idx => { kind := .hedgedMiss, idx, us, time }

/-- The charges of an answer: the winner, and the others that were launched. -/
def answerCharges (launched : List Nat) (winner time : Nat) : List Charge :=
  let us := microsU64 time
  { kind := .success, idx := winner, us, time } :: hedgedMisses launched winner us time

theorem record_hedgedMisses (forwarder : ParallelForwarder) (launched : List Nat) (winner : Nat)
    (us : UInt64) (time : Nat) :
    (hedgedMisses launched winner us time).foldl Charge.record forwarder =
      forwarder.recordHedgedMisses launched winner us.toNat := by
  unfold hedgedMisses
  induction launched generalizing forwarder with
  | nil => rfl
  | cons idx rest ih =>
      by_cases same : idx = winner
      · rw [List.filter_cons_of_neg (by simpa using same), ih]
        show _ = ParallelForwarder.mk _ (List.foldl _ (if idx = winner then _ else _) rest) _ _ _ _
        rw [if_pos same]
        rfl
      · rw [List.filter_cons_of_pos (by simpa using same), List.map_cons, List.foldl_cons, ih]
        show _ = ParallelForwarder.mk _ (List.foldl _ (if idx = winner then _ else _) rest) _ _ _ _
        rw [if_neg same]
        rfl

/-- **The charges are what the health is told.** -/
theorem record_answerCharges {ρ ε : Type} (s : ForwardRun ρ ε) (winner : Nat) (response : ρ)
    (time : Nat) :
    (answerCharges s.launched winner time).foldl Charge.record s.forwarder =
      (s.succeed .adaptive winner response (microsU64 time).toNat).forwarder := by
  rw [answerCharges, List.foldl_cons, record_hedgedMisses]
  rfl

/-! ## A query with times

The machine of the adaptive strategy on a clock.  An event has the time at which it is handled and
the time at which it launches; the record of launches and charges is only written. -/

/-- What happens to a query; an answer comes with no latency, since that is read off the clock. -/
inductive Happening (ρ ε : Type) where
  | answers (idx : Nat) (response : ρ)
  | fails (idx : Nat) (error : ε)
  | hedge
  | drained
  | deadline

namespace Happening

variable {ρ ε : Type}

/-- The event, with the latency that is read off the clock. -/
def event (time : Nat) : Happening ρ ε → ForwardEvent ρ ε
  | answers idx response => .answers idx response (microsU64 time)
  | fails idx error => .fails idx error
  | hedge => .hedge
  | drained => .drained
  | deadline => .deadline

/-- The charges that are made. -/
def charges (launched : List Nat) (time : Nat) : Happening ρ ε → List Charge
  | answers idx _ => answerCharges launched idx time
  | _ => []

end Happening

/-- An event of a query with the time at which it is handled. -/
structure TimedEvent (ρ ε : Type) where
  /-- When it is handled. -/
  time : Nat
  /-- When the upstream is launched that it launches. -/
  launchTime : Nat
  happening : Happening ρ ε

/-- A query on a clock, with the times of its launches and the charges it has made, which no step
reads. -/
structure TimedRun (ρ ε : Type) where
  run : ForwardRun ρ ε
  /-- No event is handled earlier. -/
  clock : Nat
  launchTimes : List (Nat × Nat)
  charges : List Charge := []

namespace TimedRun

variable {ρ ε : Type}

/-- The first upstream is launched at some time after `start`. -/
def start (sends : Nat → Bool) (forwarder : ParallelForwarder) (launchTime : Nat) :
    TimedRun ρ ε :=
  let run : ForwardRun ρ ε := .start sends forwarder .adaptive
  { run, clock := launchTime, launchTimes := run.launched.map fun idx => (idx, launchTime) }

def step (sends : Nat → Bool) (s : TimedRun ρ ε) (event : TimedEvent ρ ε) :
    Option (TimedRun ρ ε) :=
  if s.clock ≤ event.time ∧ event.time ≤ event.launchTime then
    (s.run.step sends .adaptive (event.happening.event event.time)).map fun run =>
      { run
        clock := event.launchTime
        launchTimes := s.launchTimes ++
          (run.launched.drop s.run.launched.length).map fun idx => (idx, event.launchTime)
        charges := s.charges ++ event.happening.charges s.run.launched event.time }
  else none

end TimedRun

/-- A query of `resolve_adaptive` on a clock. -/
def timedForwarding (ρ ε : Type) (sends : Nat → Bool) :
    StateMachine (TimedRun ρ ε) (TimedEvent ρ ε) where
  init s := ∃ forwarder launchTime, s = .start sends forwarder launchTime
  step s event := s.step sends event

/-! ## Microseconds -/

/-- The microseconds that a launch after `launch` nanoseconds hides from a time of `elapsed`:
the whole ones of `elapsed` that are not whole ones since the launch. -/
def hiddenMicros (launch elapsed : Nat) : Nat := (launch + 999 - elapsed % 1000) / 1000

theorem hiddenMicros_eq {launch elapsed : Nat} (after : launch ≤ elapsed) :
    hiddenMicros launch elapsed = elapsed / 1000 - (elapsed - launch) / 1000 := by
  unfold hiddenMicros
  omega

/-- A launch in the first microsecond that has passed hides nothing. -/
theorem hiddenMicros_eq_zero {launch elapsed : Nat} :
    hiddenMicros launch elapsed = 0 ↔ launch ≤ elapsed % 1000 := by
  unfold hiddenMicros
  omega

/-- **Two times are one `u64`** exactly if what lies between them is a multiple of 2 to the 64. -/
theorem microsU64_sub_eq_iff {launch elapsed : Nat} (after : launch ≤ elapsed) :
    microsU64 elapsed = microsU64 (elapsed - launch) ↔
      hiddenMicros launch elapsed % 2 ^ 64 = 0 := by
  have le : (elapsed - launch) / 1000 ≤ elapsed / 1000 := Nat.div_le_div_right (Nat.sub_le ..)
  rw [hiddenMicros_eq after, microsU64, microsU64, ← UInt64.toNat_inj, UInt64.toNat_ofNat',
    UInt64.toNat_ofNat']
  omega

/-! ## Launch times

What was launched stays launched, in one order, so that the record has one time for each upstream.
The property and the condition are both stated with this record. -/

namespace ForwardRun

variable {ρ ε : Type} {sends : Nat → Bool} {s t : ForwardRun ρ ε} {forwarder : ParallelForwarder}

/-- What was launched stays launched. -/
theorem launched_prefix_launchNext (s : ForwardRun ρ ε) : s.launched <+: s.launchNext.launched := by
  unfold launchNext
  split
  · show s.launched <+: (s.launch _).launched
    unfold launch
    split
    · exact List.prefix_append ..
    · exact List.prefix_rfl
  · exact List.prefix_rfl

theorem launched_prefix_loopTop (sends : Nat → Bool) (s : ForwardRun ρ ε) :
    s.launched <+: (s.loopTop sends).launched := by
  unfold loopTop
  split
  · split
    · exact List.prefix_rfl
    · exact launched_prefix_launchNext s
  · exact List.prefix_rfl

theorem launched_prefix_step {event : ForwardEvent ρ ε}
    (one : s.step sends .adaptive event = some t) : s.launched <+: t.launched := by
  unfold step at one
  split at one
  · cases one
  · split at one
    · cases one
      exact List.prefix_rfl
    · cases one
  · split at one
    next idx error _ mem =>
      cases one
      show s.launched <+: ((if (s.fail idx error).mayLaunch then (s.fail idx error).launchNext
        else s.fail idx error).loopTop sends).launched
      split
      · exact (launched_prefix_launchNext (s.fail idx error)).trans
          (launched_prefix_loopTop sends _)
      · exact launched_prefix_loopTop sends (s.fail idx error)
    next => cases one
  · split at one
    · cases one
      exact (launched_prefix_launchNext s).trans (launched_prefix_loopTop sends _)
    · cases one
  · split at one
    · cases one
      exact launched_prefix_loopTop sends s
    · cases one
  · cases one
    exact List.prefix_rfl

end ForwardRun

namespace TimedRun

variable {ρ ε : Type} {sends : Nat → Bool} {s t : TimedRun ρ ε} {forwarder : ParallelForwarder}

/-- The charge is the time from the launch of its upstream, in whole microseconds, as far as a
`u64` holds them. -/
def OwnTime (s : TimedRun ρ ε) (charge : Charge) : Prop :=
  ∃ launch, (charge.idx, launch) ∈ s.launchTimes ∧ charge.us = microsU64 (charge.time - launch)

/-- **Latency is charged to the upstream that caused it**: the winner, and whoever else has not
answered, is charged the time since its own launch. -/
structure Charged (s : TimedRun ρ ε) : Prop where
  winner : ∀ charge ∈ s.charges, charge.kind = .success → s.OwnTime charge
  unanswered : ∀ charge ∈ s.charges, charge.kind = .hedgedMiss → charge.idx ∈ s.run.inFlight →
    s.OwnTime charge

/-- Nothing is charged wrongly when nothing is charged. -/
theorem charged_of_nil (uncharged : s.charges = []) : s.Charged := by
  refine ⟨fun charge mem => ?_, fun charge mem => ?_⟩
  · cases uncharged ▸ mem
  · cases uncharged ▸ mem

/-- Whatever is in flight when an answer arrives was launched so early that no microsecond of the
time since `start` is hidden.  It is a condition on the event and the state before it. -/
def LaunchedAtStart (s : TimedRun ρ ε) (event : TimedEvent ρ ε) : Prop :=
  ∀ idx response, event.happening = .answers idx response →
    ∀ other ∈ s.run.inFlight, ∀ launch, (other, launch) ∈ s.launchTimes →
      hiddenMicros launch event.time % 2 ^ 64 = 0

/-- What holds of the record: it has the time of each launch, no time is of the future, and
nothing is charged before the query is over. -/
structure Recorded (forwarder : ParallelForwarder) (s : TimedRun ρ ε) : Prop where
  loop : s.run.Loop forwarder
  launched : s.launchTimes.map Prod.fst = s.run.launched
  past : ∀ entry ∈ s.launchTimes, entry.2 ≤ s.clock
  charges : s.run.exit = none → s.charges = []

theorem recorded_start (sends : Nat → Bool) (forwarder : ParallelForwarder) (launchTime : Nat) :
    Recorded (ρ := ρ) (ε := ε) forwarder (start sends forwarder launchTime) := by
  refine
    { loop := ForwardRun.loop_start ρ ε sends forwarder
      launched := ?_
      past := ?_
      charges := fun _ => rfl }
  · show (List.map _ _).map Prod.fst = _
    rw [List.map_map]
    exact List.map_id _
  · intro entry mem
    obtain ⟨idx, -, rfl⟩ := List.mem_map.mp mem
    exact le_rfl

/-- **What a step can do**: time goes on, and the query takes its step. -/
theorem step_eq_some {event : TimedEvent ρ ε} :
    s.step sends event = some t ↔
      (s.clock ≤ event.time ∧ event.time ≤ event.launchTime) ∧
        ∃ run, s.run.step sends .adaptive (event.happening.event event.time) = some run ∧
          { run
            clock := event.launchTime
            launchTimes := s.launchTimes ++
              (run.launched.drop s.run.launched.length).map fun idx => (idx, event.launchTime)
            charges := s.charges ++ event.happening.charges s.run.launched event.time } = t := by
  unfold step
  split
  next times => simp only [times, Option.map_eq_some_iff, true_and, and_self]
  next times => simp only [times, false_and, reduceCtorEq]

theorem exit_of_step {event : ForwardEvent ρ ε} {r r' : ForwardRun ρ ε}
    (one : r.step sends .adaptive event = some r') : r.exit = none := by
  by_contra ended
  cases (ForwardRun.step_eq_none sends ended .adaptive event).symm.trans one

theorem Recorded.step (recorded : Recorded forwarder s) {event : TimedEvent ρ ε}
    (one : s.step sends event = some t) : Recorded forwarder t := by
  obtain ⟨⟨later, launches⟩, run, moved, rfl⟩ := step_eq_some.mp one
  obtain ⟨rest, split⟩ := ForwardRun.launched_prefix_step moved
  have fresh : run.launched.drop s.run.launched.length = rest := by
    rw [← split, List.drop_left]
  refine
    { loop := recorded.loop.step moved
      launched := ?_
      past := ?_
      charges := ?_ }
  · show (s.launchTimes ++ List.map _ _).map Prod.fst = run.launched
    rw [List.map_append, recorded.launched, fresh, List.map_map, ← split]
    exact congrArg _ (List.map_id _)
  · intro entry mem
    rcases List.mem_append.mp mem with before | here
    · exact (recorded.past entry before).trans (later.trans launches)
    · obtain ⟨idx, -, rfl⟩ := List.mem_map.mp here
      exact le_rfl
  · intro going
    show s.charges ++ event.happening.charges s.run.launched event.time = []
    rw [recorded.charges (exit_of_step moved), List.nil_append]
    -- an answer ends the query, and nothing else is charged
    cases happens : event.happening with
    | answers idx response =>
        rw [happens] at moved
        simp only [Happening.event, ForwardRun.step, exit_of_step moved] at moved
        split at moved
        · cases moved
          cases going
        · cases moved
    | fails | hedge | drained | deadline => rfl

/-! ## An answer

Charges are only made by an answer, and an answer ends the query.  It is therefore enough to look
at this one step, where the charges of all upstreams in flight are known. -/

theorem Recorded.nodup (recorded : Recorded forwarder s) : s.run.launched.Nodup := by
  rw [recorded.loop.counts.launched, recorded.loop.counts.order]
  exact (List.take_sublist _ _).nodup (ParallelForwarder.nodup_adaptiveOrder forwarder)

/-- An upstream is launched once. -/
theorem Recorded.launch_unique (recorded : Recorded forwarder s) {idx a b : Nat}
    (first : (idx, a) ∈ s.launchTimes) (second : (idx, b) ∈ s.launchTimes) : a = b := by
  have once : (s.launchTimes.map Prod.fst).Nodup := recorded.launched ▸ recorded.nodup
  have same := List.inj_on_of_nodup_map once first second rfl
  exact congrArg Prod.snd same

theorem Recorded.exists_launch (recorded : Recorded forwarder s) {idx : Nat}
    (mem : idx ∈ s.run.launched) : ∃ launch, (idx, launch) ∈ s.launchTimes := by
  rw [← recorded.launched] at mem
  obtain ⟨⟨idx, launch⟩, inside, rfl⟩ := List.mem_map.mp mem
  exact ⟨launch, inside⟩

theorem Recorded.launched_of_inFlight (recorded : Recorded forwarder s) {idx : Nat}
    (mem : idx ∈ s.run.inFlight) : idx ∈ s.run.launched :=
  recorded.loop.counts.split.mem_iff.mpr (List.mem_append_right _ mem)

/-- **A charge of `start.elapsed()` is the own time** of an upstream exactly if its launch hides
no microsecond. -/
theorem Recorded.ownTime_iff (recorded : Recorded forwarder s) {charge : Charge}
    (mem : charge.idx ∈ s.run.launched) (later : s.clock ≤ charge.time)
    (us : charge.us = microsU64 charge.time) :
    s.OwnTime charge ↔ ∀ launch, (charge.idx, launch) ∈ s.launchTimes →
      hiddenMicros launch charge.time % 2 ^ 64 = 0 := by
  obtain ⟨launch, inside⟩ := recorded.exists_launch mem
  have after : launch ≤ charge.time := (recorded.past _ inside).trans later
  constructor
  · rintro ⟨own, there, same⟩ other here
    rw [recorded.launch_unique here there]
    have after : own ≤ charge.time := (recorded.past _ there).trans later
    exact (microsU64_sub_eq_iff after).mp (us.symm.trans same)
  · intro exactly
    exact ⟨launch, inside, us.trans ((microsU64_sub_eq_iff after).mpr (exactly launch inside))⟩

theorem mem_hedgedMisses {launched : List Nat} {winner time : Nat} {us : UInt64} {charge : Charge} :
    charge ∈ hedgedMisses launched winner us time ↔
      charge.idx ∈ launched ∧ charge.idx ≠ winner ∧
        charge = { kind := .hedgedMiss, idx := charge.idx, us, time } := by
  unfold hedgedMisses
  rw [List.mem_map]
  constructor
  · rintro ⟨idx, mem, rfl⟩
    have mem := List.mem_filter.mp mem
    exact ⟨mem.1, of_decide_eq_true mem.2, rfl⟩
  · rintro ⟨mem, other, same⟩
    exact ⟨charge.idx, List.mem_filter.mpr ⟨mem, decide_eq_true other⟩, same.symm⟩

theorem Recorded.nodup_inFlight (recorded : Recorded forwarder s) : s.run.inFlight.Nodup :=
  ((recorded.loop.counts.split.nodup_iff.mp recorded.nodup).sublist
    (List.sublist_append_right _ _))

/-- What an answer leaves. -/
theorem Recorded.answer (recorded : Recorded forwarder s) {idx : Nat} {response : ρ}
    {event : TimedEvent ρ ε} (answers : event.happening = .answers idx response)
    (one : s.step sends event = some t) :
    s.clock ≤ event.time ∧ idx ∈ s.run.inFlight ∧
      t.charges = answerCharges s.run.launched idx event.time ∧
      t.launchTimes = s.launchTimes ∧ t.run.inFlight = s.run.inFlight.erase idx := by
  obtain ⟨⟨later, -⟩, run, moved, rfl⟩ := step_eq_some.mp one
  have going := exit_of_step moved
  rw [answers] at moved
  simp only [Happening.event, ForwardRun.step, going] at moved
  split at moved
  next mem =>
    cases moved
    refine ⟨later, mem, ?_, ?_, rfl⟩
    · show s.charges ++ event.happening.charges s.run.launched event.time = _
      rw [recorded.charges going, answers]
      rfl
    · show s.launchTimes ++ List.map _ (s.run.launched.drop s.run.launched.length) = _
      rw [List.drop_length, List.map_nil, List.append_nil]
  next => cases moved

/-- **An answer charges own times** exactly if everything in flight was launched at the start. -/
theorem charged_answer_iff (recorded : Recorded forwarder s) {idx : Nat} {response : ρ}
    {event : TimedEvent ρ ε} (answers : event.happening = .answers idx response)
    (one : s.step sends event = some t) : t.Charged ↔ s.LaunchedAtStart event := by
  obtain ⟨later, mem, charges, launchTimes, inFlight⟩ := recorded.answer answers one
  have own (charge : Charge) : t.OwnTime charge ↔ s.OwnTime charge := by
    unfold OwnTime
    rw [launchTimes]
  -- what is told of an upstream in flight is `start.elapsed()`
  have told (kind : ChargeKind) {other : Nat} (flying : other ∈ s.run.inFlight) :
      s.OwnTime { kind, idx := other, us := microsU64 event.time, time := event.time } ↔
        ∀ launch, (other, launch) ∈ s.launchTimes →
          hiddenMicros launch event.time % 2 ^ 64 = 0 :=
    recorded.ownTime_iff (recorded.launched_of_inFlight flying) later rfl
  constructor
  · intro charged winner response' answers' other flying
    obtain ⟨rfl, -⟩ := Happening.answers.inj (answers.symm.trans answers')
    by_cases won : other = idx
    · have here := charged.winner
        { kind := .success, idx, us := microsU64 event.time, time := event.time }
        (charges ▸ List.mem_cons_self) rfl
      rw [won]
      exact (told .success mem).mp ((own _).mp here)
    · have charge :
          Charge.mk .hedgedMiss other (microsU64 event.time) event.time ∈ t.charges := by
        rw [charges]
        exact List.mem_cons_of_mem _
          (mem_hedgedMisses.mpr ⟨recorded.launched_of_inFlight flying, won, rfl⟩)
      have here := charged.unanswered _ charge rfl
        (inFlight ▸ (recorded.nodup_inFlight.mem_erase_iff).mpr ⟨won, flying⟩)
      exact (told .hedgedMiss flying).mp ((own _).mp here)
  · intro early
    have early := early idx response answers
    refine ⟨fun charge inside kind => ?_, fun charge inside kind flying => ?_⟩
    · rw [charges] at inside
      rcases List.mem_cons.mp inside with rfl | miss
      · exact (own _).mpr ((told .success mem).mpr (early idx mem))
      · rw [(mem_hedgedMisses.mp miss).2.2] at kind
        cases kind
    · rw [charges] at inside
      rcases List.mem_cons.mp inside with rfl | miss
      · cases kind
      · obtain ⟨-, -, same⟩ := mem_hedgedMisses.mp miss
        have flying : charge.idx ∈ s.run.inFlight := List.mem_of_mem_erase (inFlight ▸ flying)
        rw [same]
        exact (own _).mpr ((told .hedgedMiss flying).mpr (early charge.idx flying))

/-- **A step charges own times** exactly if it is not the answer of a late launch. -/
theorem charged_step_iff (recorded : Recorded forwarder s) {event : TimedEvent ρ ε}
    (one : s.step sends event = some t) : t.Charged ↔ s.LaunchedAtStart event := by
  cases happens : event.happening with
  | answers idx response => exact charged_answer_iff recorded happens one
  | fails | hedge | drained | deadline =>
      obtain ⟨-, run, moved, rfl⟩ := step_eq_some.mp one
      have nothing : s.charges ++ event.happening.charges s.run.launched event.time = [] := by
        rw [recorded.charges (exit_of_step moved), happens]
        rfl
      refine iff_of_true (charged_of_nil nothing) fun idx response answers => ?_
      cases happens.symm.trans answers

end TimedRun

section Runs

variable {ρ ε : Type} {sends : Nat → Bool} {events : List (TimedEvent ρ ε)} {t : TimedRun ρ ε}

/-- **Latency is charged to the upstream that caused it**, in every state of a run, exactly if
whatever is in flight when an answer arrives was launched at the start, as far as the
microseconds of that answer show. -/
theorem always_charged_iff (forwarder : ParallelForwarder) (launchTime : Nat)
    (run : (timedForwarding ρ ε sends).exec (.start sends forwarder launchTime) events = some t) :
    (timedForwarding ρ ε sends).Always TimedRun.Charged (.start sends forwarder launchTime)
        events ↔
      (timedForwarding ρ ε sends).StepsMeet TimedRun.LaunchedAtStart
        (.start sends forwarder launchTime) events :=
  (timedForwarding ρ ε sends).always_iff_stepsMeet_of_invariant
    (fun _ _ _ recorded one => recorded.step one)
    (fun _ _ _ recorded _ one => TimedRun.charged_step_iff recorded one)
    (TimedRun.recorded_start sends forwarder launchTime)
    (TimedRun.charged_of_nil rfl) run

/-- Three upstreams; the second is asked after 75 ms and answers 20 ms later. -/
def lateWinnerEvents : List (TimedEvent Str Str) :=
  [{ time := 75000000, launchTime := 75000000, happening := .hedge },
    { time := 95000000, launchTime := 95000000, happening := .answers 1 "answer".toList }]

/-- The query after these. -/
def lateWinnerEnd : TimedRun Str Str where
  run :=
    { forwarder :=
        { threeForwarder with
          health := [{ latencyScoreUs := 95000 }, { latencyScoreUs := 55625 }, {}] }
      order := [0, 1, 2]
      maxParallel := 2
      inFlight := [0]
      next := 2
      launched := [0, 1]
      sent := [.forwarded 1 "answer".toList]
      exit := some (.answered 1 "answer".toList)
      delivered := true
      settled := [(1, .ok "answer".toList)] }
  clock := 95000000
  launchTimes := [(0, 0), (1, 75000000)]
  charges :=
    [{ kind := .success, idx := 1, us := 95000, time := 95000000 },
      { kind := .hedgedMiss, idx := 0, us := 95000, time := 95000000 }]

theorem exec_lateWinnerEvents :
    (timedForwarding Str Str fun _ => true).exec (.start (fun _ => true) threeForwarder 0)
      lateWinnerEvents = some lateWinnerEnd := rfl

theorem always_charged_iff_lateWinner :
    (timedForwarding Str Str fun _ => true).Always TimedRun.Charged
        (.start (fun _ => true) threeForwarder 0) lateWinnerEvents ↔
      (timedForwarding Str Str fun _ => true).StepsMeet TimedRun.LaunchedAtStart
        (.start (fun _ => true) threeForwarder 0) lateWinnerEvents :=
  always_charged_iff threeForwarder 0 exec_lateWinnerEvents

/-- **The delay of the hedge is charged to the winner**: it answered 20 ms after it was asked, and
is told 95. -/
theorem not_charged_lateWinner :
    (timedForwarding Str Str fun _ => true).exec (.start (fun _ => true) threeForwarder 0)
        lateWinnerEvents = some lateWinnerEnd ∧
      ¬ lateWinnerEnd.Charged ∧
      ¬ (timedForwarding Str Str fun _ => true).Always TimedRun.Charged
          (.start (fun _ => true) threeForwarder 0) lateWinnerEvents := by
  have wrong : ¬ lateWinnerEnd.Charged := by
    intro charged
    obtain ⟨launch, mem, own⟩ := charged.winner _ List.mem_cons_self rfl
    rcases List.mem_cons.mp mem with first | mem
    · cases first
    · obtain ⟨-, rfl⟩ := Prod.mk.inj (List.mem_singleton.mp mem)
      revert own
      decide
  exact ⟨rfl, wrong, fun always => wrong (always.last exec_lateWinnerEvents)⟩

end Runs

end RustBlocker
