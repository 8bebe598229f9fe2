import RustBlocker.AdaptiveForwarding

/-!
# Upstreams that never answer

A failure is recorded when an upstream answers with one.  When the deadline of a query expires,
the future in which the records are made is dropped: none of the three resolvers records anything
of an upstream that was asked and is silent.

`penalized_iff` says so of every run that the deadline ends: the silent upstreams have one failure
more afterwards exactly if none could be added to any of them.

The counter of failures has a cap, and at the cap one failure more is no change.  This is the only
way in which the property can hold of an upstream, and the theorem has it as its condition, on the
health before the run.  A query in which no upstream is silent at the deadline satisfies both
sides.

The health of an upstream that has not settled is untouched as long as the query goes on
(`Untouched`); this is the invariant, over all events and for all three resolvers, and the
deadline itself changes no health at all.
-/

namespace RustBlocker

/-- The failures of an upstream are one more than before, up to the cap, as after an answer that
is a failure. -/
def Penalized (before after : ParallelForwarder) (idx : Nat) : Prop :=
  after.health[idx]?.map UpstreamHealth.failures =
    before.health[idx]?.map fun health => min (health.failures + 1) 16

/-- No failure can be added to the upstream. -/
def AtCap (forwarder : ParallelForwarder) (idx : Nat) : Prop :=
  ∀ health, forwarder.health[idx]? = some health → health.failures = 16

namespace ForwardRun

variable {ρ ε : Type} {sends : Nat → Bool} {s t : ForwardRun ρ ε} {forwarder : ParallelForwarder}

/-- An upstream was launched and has not answered, neither with a response nor with a failure. -/
def Silent (s : ForwardRun ρ ε) (idx : Nat) : Prop :=
  idx ∈ s.launched ∧ idx ∉ s.settled.map Prod.fst

/-! ## What a launch and a failure change

The health of an upstream is written when it settles, and only then.  So what has not settled has
the health that it had before the query. -/

theorem forwarder_launchNext (s : ForwardRun ρ ε) : s.launchNext.forwarder = s.forwarder := by
  unfold launchNext launch
  split
  · simp only
    split <;> rfl
  · rfl

theorem settled_launchNext (s : ForwardRun ρ ε) : s.launchNext.settled = s.settled := by
  unfold launchNext launch
  split
  · simp only
    split <;> rfl
  · rfl

theorem forwarder_loopTop (sends : Nat → Bool) (s : ForwardRun ρ ε) :
    (s.loopTop sends).forwarder = s.forwarder ∧ (s.loopTop sends).settled = s.settled := by
  unfold loopTop
  split
  · split
    · exact ⟨rfl, rfl⟩
    · exact ⟨forwarder_launchNext s, settled_launchNext s⟩
  · exact ⟨rfl, rfl⟩

/-- Going on after a failure changes no health. -/
theorem forwarder_carryOn (sends : Nat → Bool) (s : ForwardRun ρ ε) (resolver : Resolver) :
    (s.carryOn sends resolver).forwarder = s.forwarder ∧
      (s.carryOn sends resolver).settled = s.settled := by
  cases resolver with
  | one => exact ⟨rfl, rfl⟩
  | parallel =>
      show (if s.inFlight.isEmpty then _ else s : ForwardRun ρ ε).forwarder = _ ∧
        (if s.inFlight.isEmpty then _ else s : ForwardRun ρ ε).settled = _
      split <;> exact ⟨rfl, rfl⟩
  | adaptive =>
      have top := forwarder_loopTop sends (if s.mayLaunch then s.launchNext else s)
      refine ⟨top.1.trans ?_, top.2.trans ?_⟩
      · split
        · exact forwarder_launchNext s
        · rfl
      · split
        · exact settled_launchNext s
        · rfl

/-- While the query goes on, the health of what has not settled is as it was. -/
def Untouched (forwarder : ParallelForwarder) (s : ForwardRun ρ ε) : Prop :=
  s.exit = none → ∀ idx, idx ∉ s.settled.map Prod.fst →
    s.forwarder.health[idx]? = forwarder.health[idx]?

theorem untouched_start (forwarder : ParallelForwarder) (resolver : Resolver) :
    Untouched (ρ := ρ) (ε := ε) forwarder (.start sends forwarder resolver) := by
  have same : (start (ρ := ρ) (ε := ε) sends forwarder resolver).forwarder = forwarder := by
    cases resolver with
    | one =>
        unfold start
        simp only
        split
        · rfl
        · unfold launch
          split <;> rfl
    | parallel =>
        unfold start
        simp only
        split <;> rfl
    | adaptive =>
        unfold start
        simp only
        split
        · rfl
        · rw [(forwarder_loopTop sends _).1, forwarder_launchNext]
  intro _ idx _
  rw [same]

theorem Untouched.step (untouched : Untouched forwarder s) {resolver : Resolver}
    {event : ForwardEvent ρ ε} (one : s.step sends resolver event = some t) :
    Untouched forwarder t := by
  intro going
  have before : s.exit = none := by
    by_contra ended
    cases (step_eq_none sends ended resolver event).symm.trans one
  have kept := untouched before
  cases event with
  | answers idx response latencyUs =>
      simp only [ForwardRun.step, before] at one
      split at one
      · cases one
        cases going
      · cases one
  | fails idx error =>
      simp only [ForwardRun.step, before] at one
      split at one
      · cases one
        intro other silent
        obtain ⟨health, settled⟩ := forwarder_carryOn sends (s.fail idx error) resolver
        rw [settled] at silent
        simp only [fail, settle, List.map_append, List.mem_append, not_or] at silent
        -- only the health of the upstream that failed is written
        have apart : idx ≠ other := fun same => silent.2 (same ▸ List.mem_singleton_self idx)
        rw [health]
        show (s.forwarder.health.modify idx _)[other]? = _
        rw [List.getElem?_modify_ne _ _ apart]
        exact kept other silent.1
      · cases one
  | hedge =>
      simp only [ForwardRun.step, before] at one
      split at one
      · cases one
        intro other silent
        obtain ⟨health, settled⟩ := forwarder_loopTop sends s.launchNext
        rw [settled, settled_launchNext] at silent
        rw [health, forwarder_launchNext]
        exact kept other silent
      · cases one
  | drained =>
      simp only [ForwardRun.step, before] at one
      split at one
      · cases one
        intro other silent
        obtain ⟨health, settled⟩ := forwarder_loopTop sends s
        rw [settled] at silent
        rw [health]
        exact kept other silent
      · cases one
  | deadline =>
      simp only [ForwardRun.step, before] at one
      cases one
      cases going

theorem untouched_of_exec {resolver : Resolver} {events : List (ForwardEvent ρ ε)}
    (run : (queryForwarding ρ ε sends resolver).exec (.start sends forwarder resolver) events =
      some s) : Untouched forwarder s := by
  have preserved : ∀ s event t, Untouched forwarder s → True →
      (queryForwarding ρ ε sends resolver).step s event = some t → Untouched forwarder t :=
    fun s event t untouched _ one => untouched.step one
  exact (queryForwarding ρ ε sends resolver).exec_invariant preserved
    (untouched_start forwarder resolver)
    ((queryForwarding ρ ε sends resolver).stepsMeet_true events _) run

end ForwardRun

/-! ## Deadlines

At the deadline the silent upstreams are those that have not settled.  Their health is as before
the query, which is a failure more only where the counter could not go higher. -/

section Deadline

variable {ρ ε : Type} {sends : Nat → Bool} {resolver : Resolver} {s t : ForwardRun ρ ε}
  {forwarder : ParallelForwarder} {events : List (ForwardEvent ρ ε)}

/-- A failure more is no change exactly at the cap. -/
theorem penalized_of_same_iff {after : ParallelForwarder} {idx : Nat}
    (same : after.health[idx]? = forwarder.health[idx]?) :
    Penalized forwarder after idx ↔ AtCap forwarder idx := by
  unfold Penalized AtCap
  rw [same]
  rcases forwarder.health[idx]? with _ | health
  · simp
  · simp only [Option.map_some, Option.some.injEq, forall_eq']
    omega

/-- **A silent upstream is penalized exactly if it cannot be**: when the deadline ends a query,
of any resolver and after any events, each upstream that was launched and has not answered
has one failure more iff its failures were at the cap already. -/
theorem penalized_iff
    (run : (queryForwarding ρ ε sends resolver).exec (.start sends forwarder resolver) events =
      some s) (expires : s.step sends resolver .deadline = some t) :
    (∀ idx, t.Silent idx → Penalized forwarder t.forwarder idx) ↔
      ∀ idx, s.Silent idx → AtCap forwarder idx := by
  have going : s.exit = none := by
    by_contra ended
    cases (ForwardRun.step_eq_none sends ended resolver .deadline).symm.trans expires
  have untouched := ForwardRun.untouched_of_exec run going
  simp only [ForwardRun.step, going] at expires
  cases expires
  -- the deadline changes neither the health nor who is silent
  refine forall_congr' fun idx => ?_
  show (s.Silent idx → Penalized forwarder s.forwarder idx) ↔ _
  refine imp_congr_right fun silent => ?_
  exact penalized_of_same_iff (untouched idx silent.2)

/-- The first two of three upstreams are asked, and neither answers. -/
def silentRun : ForwardRun Str Str where
  forwarder := threeForwarder
  order := [0, 1, 2]
  maxParallel := 2
  inFlight := [0, 1]
  next := 2
  launched := [0, 1]

theorem exec_silentRun :
    (queryForwarding Str Str (fun _ => true) .adaptive).exec
      (.start (fun _ => true) threeForwarder .adaptive) [.hedge] = some silentRun := rfl

theorem penalized_iff_silentRun :
    (∀ idx, (silentRun.send (fun _ => true) .servfail .timedOut).Silent idx →
      Penalized threeForwarder (silentRun.send (fun _ => true) .servfail .timedOut).forwarder
        idx) ↔
      ∀ idx, silentRun.Silent idx → AtCap threeForwarder idx :=
  penalized_iff exec_silentRun rfl

/-- **Silent upstreams stay ahead**: of the two that were asked and did not answer none has a
failure after the deadline, and the next query asks them first again, before the third. -/
theorem not_penalized_silentRun :
    let after := silentRun.send (fun _ => true) .servfail .timedOut
    (queryForwarding Str Str (fun _ => true) .adaptive).exec
        (.start (fun _ => true) threeForwarder .adaptive) [.hedge, .deadline] = some after ∧
      after.Silent 0 ∧ after.Silent 1 ∧
      ¬ Penalized threeForwarder after.forwarder 0 ∧
      ¬ Penalized threeForwarder after.forwarder 1 ∧
      after.forwarder = threeForwarder ∧ after.forwarder.adaptiveOrder = [0, 1, 2] := by
  refine ⟨rfl, ?_, ?_, ?_, ?_, rfl, rfl⟩
  · exact ⟨by decide, List.not_mem_nil⟩
  · exact ⟨by decide, List.not_mem_nil⟩
  · unfold Penalized
    decide
  · unfold Penalized
    decide

end Deadline

end RustBlocker
