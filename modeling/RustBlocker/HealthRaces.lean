import RustBlocker.Forwarder
import RustBlocker.Library.RelaxedCell

/-!
# Queries that record the health of an upstream at once

The two numbers of `UpstreamHealth` are atomics that are loaded and stored apart, all with
`Ordering::Relaxed`: two queries that record at the same time may undo what the other one did.

* **A call** of `record_success`, `record_hedged_miss` or `record_failure` loads and stores the
  score, and loads and stores the failures, where it has something to do with them.  The two cells
  are in no order.
* **The functions of `Forwarder`** take a call for one step.  `record_eq` splits them into the two
  cells, and `last_oneByOne` says that calls which do not overlap are these steps.

`healthLaw_of_exec` is what is left of the account when they do: it never holds more than the
calls can have made of it.

A load returns any value that the cell has held, which is weaker than what any memory model
promises and so covers all of them.  What remains true under it is about the calls as a multiset:
every value is what some of the calls, each at most once, would have made one after the other.
Bounds follow from it, for the score by what every call keeps, and for the failures by what a call
can add.  What does not remain true is the exact account.  Two failures at once may be counted as
one (`failTogether`), and a score may forget an answer, so nothing here says that a failing
upstream is ever ranked behind a good one.

The law is stated of any two values that the two cells have held at any time.  They need not have
been held together: a reader who loads both sees some such pair.
-/

namespace RustBlocker

/-! ## Calls

Each function is split into what it does to the score and what it does to the failures.  Either
part loads its cell, and stores a value that depends on what was loaded and on nothing else. -/

/-- A call that records something of an upstream.  Calls of different queries may overlap. -/
inductive HealthCall where
  | success (latencyUs : UInt64)
  | hedgedMiss (elapsedUs : UInt64)
  | failure
deriving DecidableEq

namespace HealthCall

/-- What is stored in `latency_score_us` after `previous` was loaded, if something is. -/
def score (call : HealthCall) (previous : Nat) : Option Nat :=
  match call with
  | success latencyUs =>
      some (max (saturatingAdd (saturatingMul previous 7) latencyUs.toNat / 8) 1)
  | hedgedMiss elapsedUs =>
      if previous < elapsedUs.toNat then some elapsedUs.toNat else none
  | failure => none

/-- What is stored in `failures` after `failures` was loaded, if something is. -/
def failures (call : HealthCall) (failures : Nat) : Option Nat :=
  match call with
  | success _ => if 0 < failures then some (failures - 1) else none
  | hedgedMiss _ => none
  | failure => some (min (saturatingAdd failures 1) 16)

/-- The call as one step. -/
def record (health : UpstreamHealth) : HealthCall → UpstreamHealth
  | success latencyUs => health.recordSuccess latencyUs.toNat
  | hedgedMiss elapsedUs => health.recordHedgedMiss elapsedUs.toNat
  | failure => health.recordFailure

/-- The time that it reports. -/
def timeUs : HealthCall → Nat
  | success latencyUs => latencyUs.toNat
  | hedgedMiss elapsedUs => elapsedUs.toNat
  | failure => 0

def isFailure : HealthCall → Bool
  | failure => true
  | _ => false

@[simp] theorem applied_score_success (latencyUs : UInt64) (previous : Nat) :
    RelaxedCell.applied score (success latencyUs) previous =
      max (saturatingAdd (saturatingMul previous 7) latencyUs.toNat / 8) 1 := rfl

@[simp] theorem applied_score_hedgedMiss (elapsedUs : UInt64) (previous : Nat) :
    RelaxedCell.applied score (hedgedMiss elapsedUs) previous = max previous elapsedUs.toNat := by
  change (if previous < elapsedUs.toNat then some elapsedUs.toNat else none).getD previous = _
  split
  next later => exact (max_eq_right later.le).symm
  next earlier => exact (max_eq_left (Nat.le_of_not_lt earlier)).symm

@[simp] theorem applied_score_failure (previous : Nat) :
    RelaxedCell.applied score failure previous = previous := rfl

@[simp] theorem applied_failures_success (latencyUs : UInt64) (before : Nat) :
    RelaxedCell.applied failures (success latencyUs) before = before - 1 := by
  change (if 0 < before then some (before - 1) else none).getD before = _
  split
  next => rfl
  next zero =>
    obtain rfl : before = 0 := Nat.eq_zero_of_not_pos zero
    rfl

@[simp] theorem applied_failures_hedgedMiss (elapsedUs : UInt64) (before : Nat) :
    RelaxedCell.applied failures (hedgedMiss elapsedUs) before = before := rfl

@[simp] theorem applied_failures_failure (before : Nat) :
    RelaxedCell.applied failures failure before = min (saturatingAdd before 1) 16 := rfl

/-- **A call as one step** is what it makes of either cell. -/
theorem record_eq (health : UpstreamHealth) (call : HealthCall) :
    record health call =
      { latencyScoreUs := RelaxedCell.applied score call health.latencyScoreUs
        failures := RelaxedCell.applied failures call health.failures } := by
  cases call with
  | success latencyUs => rw [applied_failures_success]; rfl
  | hedgedMiss elapsedUs => rw [applied_score_hedgedMiss]; rfl
  | failure => rfl

/-- The same of calls one after the other. -/
theorem foldl_record (calls : List HealthCall) (health : UpstreamHealth) :
    calls.foldl record health =
      { latencyScoreUs :=
          calls.foldl (fun value call => RelaxedCell.applied score call value)
            health.latencyScoreUs
        failures :=
          calls.foldl (fun value call => RelaxedCell.applied failures call value)
            health.failures } := by
  induction calls generalizing health with
  | nil => rfl
  | cons call rest ih => rw [List.foldl_cons, ih, record_eq]; rfl

/-! ## What a call adds -/

theorem one_le_score {call : HealthCall} {previous : Nat} (positive : 1 ≤ previous) :
    1 ≤ RelaxedCell.applied score call previous := by
  cases call with
  | success latencyUs => exact le_max_right _ _
  | hedgedMiss elapsedUs =>
      rw [applied_score_hedgedMiss]
      exact positive.trans (le_max_left _ _)
  | failure => exact positive

/-- A score stays below every bound of the times. -/
theorem score_le {call : HealthCall} {previous bound : Nat} (positive : 1 ≤ bound)
    (before : previous ≤ bound) (time : call.timeUs ≤ bound) :
    RelaxedCell.applied score call previous ≤ bound := by
  cases call with
  | success latencyUs =>
      change latencyUs.toNat ≤ bound at time
      refine max_le ?_ positive
      have sum : saturatingAdd (saturatingMul previous 7) latencyUs.toNat ≤ 8 * bound := by
        unfold saturatingAdd saturatingMul
        omega
      exact Nat.div_le_of_le_mul sum
  | hedgedMiss elapsedUs =>
      rw [applied_score_hedgedMiss]
      exact max_le before time
  | failure => exact before

theorem failures_le_cap {call : HealthCall} {before : Nat} (capped : before ≤ 16) :
    RelaxedCell.applied failures call before ≤ 16 := by
  cases call with
  | success latencyUs =>
      rw [applied_failures_success]
      exact (Nat.sub_le _ _).trans capped
  | hedgedMiss elapsedUs => exact capped
  | failure => exact min_le_right _ _

/-- Only a failure adds to the failures, and it adds one. -/
theorem failures_le_add (call : HealthCall) (before : Nat) :
    RelaxedCell.applied failures call before ≤ before + call.isFailure.toNat := by
  cases call with
  | success latencyUs =>
      rw [applied_failures_success]
      exact (Nat.sub_le _ _).trans (Nat.le_add_right _ _)
  | hedgedMiss elapsedUs => exact Nat.le_add_right _ _
  | failure => exact (min_le_left _ _).trans (min_le_left _ _)

end HealthCall

/-! ## Queries at once

The cells are those of the library, with their histories.  A call that begins is noted for both of
them, and from then on the two know nothing of each other. -/

/-- The two atomics of an `UpstreamHealth`, each with its history and the calls that are at it. -/
structure RacyHealth where
  score : RelaxedCell HealthCall Nat := { values := [defaultLatencyScoreUs] }
  failures : RelaxedCell HealthCall Nat := { values := [0] }

inductive HealthEvent where
  | begins (call : HealthCall)
  | loadsScore (index value : Nat)
  | storesScore (index : Nat)
  | loadsFailures (index value : Nat)
  | storesFailures (index : Nat)
deriving DecidableEq

namespace HealthEvent

def onScore : HealthEvent → Option (CellEvent HealthCall Nat)
  | begins call => some (.begins call)
  | loadsScore index value => some (.reads index value)
  | storesScore index => some (.writes index)
  | _ => none

def onFailures : HealthEvent → Option (CellEvent HealthCall Nat)
  | begins call => some (.begins call)
  | loadsFailures index value => some (.reads index value)
  | storesFailures index => some (.writes index)
  | _ => none

/-- The call that begins. -/
def call : HealthEvent → Option HealthCall
  | begins call => some call
  | _ => none

end HealthEvent

/-- **The calls of all queries** on the health of an upstream. -/
def healthRace : StateMachine RacyHealth HealthEvent where
  init s := s = {}
  step s event := do
    let score ← s.score.stepIf HealthCall.score event.onScore
    let failures ← s.failures.stepIf HealthCall.failures event.onFailures
    return { score, failures }

/-- A run of both cells is one of either. -/
theorem exec_cells {events : List HealthEvent} {s t : RacyHealth}
    (run : healthRace.exec s events = some t) :
    (RelaxedCell.machine HealthCall.score defaultLatencyScoreUs).exec s.score
        (events.filterMap HealthEvent.onScore) = some t.score ∧
      (RelaxedCell.machine HealthCall.failures 0).exec s.failures
        (events.filterMap HealthEvent.onFailures) = some t.failures := by
  induction events generalizing s with
  | nil =>
      cases run
      exact ⟨rfl, rfl⟩
  | cons event rest ih =>
      obtain ⟨m, one, later⟩ := healthRace.exec_cons_eq_some.mp run
      obtain ⟨score, scored, one⟩ := Option.bind_eq_some_iff.mp one
      obtain ⟨failures, failed, one⟩ := Option.bind_eq_some_iff.mp one
      obtain rfl := Option.some.inj one
      obtain ⟨onScore, onFailures⟩ := ih later
      exact ⟨RelaxedCell.exec_filterMap_cons scored onScore,
        RelaxedCell.exec_filterMap_cons failed onFailures⟩

/-- The calls that began in a run. -/
def healthCalls (events : List HealthEvent) : List HealthCall := events.filterMap HealthEvent.call

theorem filterMap_call_onScore (events : List HealthEvent) :
    (events.filterMap HealthEvent.onScore).filterMap CellEvent.call = healthCalls events := by
  rw [List.filterMap_filterMap, healthCalls]
  refine congrArg (fun f => events.filterMap f) (funext fun event => ?_)
  cases event <;> rfl

theorem filterMap_call_onFailures (events : List HealthEvent) :
    (events.filterMap HealthEvent.onFailures).filterMap CellEvent.call = healthCalls events := by
  rw [List.filterMap_filterMap, healthCalls]
  refine congrArg (fun f => events.filterMap f) (funext fun event => ?_)
  cases event <;> rfl

/-! ## What is left of the account

Every store of a failure more goes back to a call, and so does every score.  That is all that can
be said when calls overlap, and the example shows that one of two failures may be gone. -/

/-- **The law of the account** of an upstream, of any two values that its cells have held. -/
structure HealthLaw (calls : List HealthCall) (score failures : Nat) : Prop where
  /-- Some calls, each of them once, would have made the score. -/
  scoreMade : ∃ part : List HealthCall, part.Subperm calls ∧
    (part.foldl HealthCall.record {}).latencyScoreUs = score
  /-- Some calls, each of them once, would have made the failures. -/
  failuresMade : ∃ part : List HealthCall, part.Subperm calls ∧
    (part.foldl HealthCall.record {}).failures = failures
  positive : 1 ≤ score
  /-- The score is none but the default and the times that were reported allow. -/
  bounded : ∀ bound, defaultLatencyScoreUs ≤ bound → (∀ call ∈ calls, call.timeUs ≤ bound) →
    score ≤ bound
  /-- There are at most the failures that were recorded, and at most 16. -/
  counted : failures ≤ min 16 (calls.countP HealthCall.isFailure)
  /-- The rank saturates only if the times do. -/
  rank : ∀ bound, defaultLatencyScoreUs ≤ bound → (∀ call ∈ calls, call.timeUs ≤ bound) →
    bound + 16 * failurePenaltyUs ≤ usizeMax →
    ({ latencyScoreUs := score, failures } : UpstreamHealth).rankScore =
      score + failures * failurePenaltyUs

variable {events : List HealthEvent} {s : RacyHealth} {score failures : Nat}

theorem traced_score (run : healthRace.exec {} events = some s) :
    RelaxedCell.Traced HealthCall.score defaultLatencyScoreUs s.score ∧
      s.score.begun = healthCalls events := by
  have cell := (exec_cells run).1
  refine ⟨RelaxedCell.traced_of_exec cell, ?_⟩
  rw [RelaxedCell.begun_of_exec cell, filterMap_call_onScore]
  rfl

theorem traced_failures (run : healthRace.exec {} events = some s) :
    RelaxedCell.Traced HealthCall.failures 0 s.failures ∧
      s.failures.begun = healthCalls events := by
  have cell := (exec_cells run).2
  refine ⟨RelaxedCell.traced_of_exec cell, ?_⟩
  rw [RelaxedCell.begun_of_exec cell, filterMap_call_onFailures]
  rfl

theorem score_le_of_exec (run : healthRace.exec {} events = some s) (mem : score ∈ s.score.values)
    {bound : Nat} (start : defaultLatencyScoreUs ≤ bound)
    (times : ∀ call ∈ healthCalls events, call.timeUs ≤ bound) : score ≤ bound := by
  obtain ⟨traced, begun⟩ := traced_score run
  refine traced.forall_values (· ≤ bound) start (fun call began previous before => ?_) mem
  rw [begun] at began
  exact HealthCall.score_le ((by decide : 1 ≤ defaultLatencyScoreUs).trans start) before
    (times call began)

theorem failures_le_of_exec (run : healthRace.exec {} events = some s)
    (mem : failures ∈ s.failures.values) :
    failures ≤ min 16 ((healthCalls events).countP HealthCall.isFailure) := by
  obtain ⟨traced, begun⟩ := traced_failures run
  refine le_min ?_ ?_
  · exact traced.forall_values (· ≤ 16) (Nat.zero_le 16)
      (fun _ _ _ capped => HealthCall.failures_le_cap capped) mem
  · have size := traced.size_le id HealthCall.isFailure HealthCall.failures_le_add mem
    rw [begun] at size
    exact size.trans_eq (Nat.zero_add _)

/-- **Whatever queries record at once**, and whatever their loads return of what was stored
before, the account of an upstream is one that some of the calls would have made one after the
other: updates are lost, but none is done twice. -/
theorem healthLaw_of_exec (run : healthRace.exec {} events = some s)
    (hasScore : score ∈ s.score.values) (hasFailures : failures ∈ s.failures.values) :
    HealthLaw (healthCalls events) score failures := by
  obtain ⟨traced, begun⟩ := traced_score run
  obtain ⟨traced', begun'⟩ := traced_failures run
  have counted := failures_le_of_exec run hasFailures
  refine ⟨?_, ?_, ?_, fun bound => score_le_of_exec run hasScore, counted, ?_⟩
  · obtain ⟨part, chosen, made⟩ := traced.values score hasScore
    refine ⟨part, begun ▸ chosen.trans s.score.written_sublist.subperm, ?_⟩
    rw [HealthCall.foldl_record]
    exact made
  · obtain ⟨part, chosen, made⟩ := traced'.values failures hasFailures
    refine ⟨part, begun' ▸ chosen.trans s.failures.written_sublist.subperm, ?_⟩
    rw [HealthCall.foldl_record]
    exact made
  · exact traced.forall_values (1 ≤ ·) (by decide)
      (fun _ _ _ positive => HealthCall.one_le_score positive) hasScore
  · intro bound start times small
    have below := score_le_of_exec run hasScore start times
    have capped := counted.trans (min_le_left _ _)
    have penalty : failures * failurePenaltyUs ≤ 16 * failurePenaltyUs :=
      Nat.mul_le_mul_right _ capped
    change min (score + min (failures * failurePenaltyUs) usizeMax) usizeMax = _
    rw [min_eq_left (by omega), min_eq_left (by omega)]

/-- Two queries fail at once; both load no failure, and both store one. -/
def failTogether : List HealthEvent :=
  [.begins .failure, .begins .failure, .loadsFailures 0 0, .loadsFailures 1 0, .storesFailures 0,
    .storesFailures 1]

theorem healthLaw_of_exec_failTogether :
    HealthLaw (healthCalls failTogether) defaultLatencyScoreUs 1 := by
  obtain ⟨s, run, score, failures⟩ : ∃ s, healthRace.exec {} failTogether = some s ∧
      s.score.values = [defaultLatencyScoreUs] ∧ s.failures.values = [0, 1, 1] :=
    ⟨_, rfl, rfl, rfl⟩
  exact healthLaw_of_exec run (by rw [score]; decide) (by rw [failures]; decide)

/-! ## Calls that do not overlap -/

/-- **Calls one by one** are the steps of `Forwarder`, on either cell. -/
theorem last_oneByOne (calls : List HealthCall) :
    (∃ cell, (RelaxedCell.machine HealthCall.score defaultLatencyScoreUs).exec
        { values := [defaultLatencyScoreUs] }
        (RelaxedCell.oneByOne HealthCall.score 0 defaultLatencyScoreUs calls) = some cell ∧
      cell.values.getLast? = some (calls.foldl HealthCall.record {}).latencyScoreUs) ∧
    ∃ cell, (RelaxedCell.machine HealthCall.failures 0).exec { values := [0] }
        (RelaxedCell.oneByOne HealthCall.failures 0 0 calls) = some cell ∧
      cell.values.getLast? = some (calls.foldl HealthCall.record {}).failures := by
  rw [HealthCall.foldl_record]
  exact ⟨RelaxedCell.exec_oneByOne HealthCall.score rfl calls,
    RelaxedCell.exec_oneByOne HealthCall.failures rfl calls⟩

end RustBlocker
