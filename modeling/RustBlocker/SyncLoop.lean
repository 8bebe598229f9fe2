import RustBlocker.Library.StateMachine
import RustBlocker.SyncApply

/-!
# The sync loop of a replica

`run` of `sync.rs`: log in, then poll the manifest of the master, fetch the snapshot of each
category whose hash is not the known one, apply it, and record the hash.  A manifest that cannot
be fetched sends the loop back to the login, which forgets all hashes.

* **One action is one step of the loop** together with the answer it gets; an action list is one
  run.  `elsewhere` stands for what the other requests of the replica do to its database and its
  stores in the meantime.
* **The ghost of an apply.**  `apply_snapshot` returns nothing.  Here the loop remembers until the
  hash is recorded whether the apply wrote its snapshot, and `committed` keeps the hash of each
  category whose last recorded apply did.

A hash is recorded after every apply, so the property that a recorded hash was applied is lost by
the first apply that writes nothing, and by nothing else: `upToDate_iff_commits`.

The property has three parts.  A hash that is recorded is one whose snapshot was written; a hash
that is about to be recorded is one as well, which makes the first part an invariant; and a
category that has not been written for the hash of the manifest is not skipped, which is what the
hashes are for.

The ghosts are read by no step.  They are set from the outcome of the apply, and what that outcome
means for the tables is said in `SyncApply`; the two together tie the hashes to the rows.  Neither
the manifest nor the snapshots need come from one database, or from any.
-/

namespace RustBlocker

/-- Where `run` stands, with what it holds in its hands at that point. -/
inductive LoopPoint where
  /-- At the top of the outer loop. -/
  | login
  /-- Before the next manifest. -/
  | poll
  /-- In the loop over the hashes of the manifest. -/
  | diff (rest : List (Str × Str))
  /-- With a fetched snapshot in hand. -/
  | apply (category hash : Str) (data : Json) (rest : List (Str × Str))
  /-- After the apply; `written` is whether it wrote the snapshot. -/
  | record (category hash : Str) (written : Bool) (rest : List (Str × Str))

/-- `SyncState`, without the address of the master. -/
structure SyncState where
  status : Str := "disabled".toList
  lastSync : Option Nat := none
  error : Option Str := none

/-- A replica in its sync loop.  All but `committed` is what the code has; `committed` is only
written. -/
structure Replica where
  site : Site := {}
  /-- `known_hashes` -/
  known : Str → Option Str := fun _ => none
  point : LoopPoint := .login
  state : SyncState := {}
  /-- The hash of a category whose last recorded apply wrote its snapshot. -/
  committed : Str → Option Str := fun _ => none

/-- A step of the loop and the answer it gets.  The answers are free; a master need not be
honest. -/
inductive LoopAction where
  | login (accepted : Bool)
  /-- The hashes in the order in which the map is iterated. -/
  | manifest (hashes : Option (List (Str × Str)))
  /-- The hash is the known one. -/
  | skip
  | snapshot (data : Option Json)
  | apply (weather : ApplyWeather)
  | record
  | finish (now : Nat)
  | elsewhere (site : Site)

section Loop

variable (u : CaseTables) (hash : Bytes → UInt64)

/-- One step of `run`. -/
def Replica.step (r : Replica) : LoopAction → Option Replica
  | .login accepted =>
      match r.point with
      | .login =>
          let connecting : Replica :=
            { r with
              known := fun _ => none
              state := { r.state with status := "connecting".toList, error := none } }
          if accepted then some { connecting with point := .poll }
          else
            some
              { connecting with
                state :=
                  { connecting.state with
                    status := "error".toList
                    error := some "Login to master failed".toList } }
      | _ => none
  | .manifest hashes =>
      match r.point, hashes with
      | .poll, some hashes => some { r with point := .diff hashes }
      | .poll, none =>
          some
            { r with
              point := .login
              state :=
                { r.state with
                  status := "error".toList
                  error := some "Failed to fetch manifest".toList } }
      | _, _ => none
  | .skip =>
      match r.point with
      | .diff ((category, hash) :: rest) =>
          if r.known category = some hash then some { r with point := .diff rest } else none
      | _ => none
  | .snapshot data =>
      match r.point with
      | .diff ((category, hash) :: rest) =>
          if r.known category = some hash then none
          else
            match data with
            -- a snapshot that could not be fetched leaves the hash unrecorded
            | none => some { r with point := .diff rest }
            | some data => some { r with point := .apply category hash data rest }
      | _ => none
  | .apply weather =>
      match r.point with
      | .apply category hash' data rest =>
          let out := applySnapshotBlocking u hash weather category data r.site
          some
            { r with site := out.site, point := .record category hash' out.committed rest }
      | _ => none
  | .record =>
      match r.point with
      -- whether the apply wrote anything is not asked
      | .record category hash' written rest =>
          some
            { r with
              known := Function.update r.known category (some hash')
              point := .diff rest
              committed := Function.update r.committed category
                (if written then some hash' else none) }
      | _ => none
  | .finish now =>
      match r.point with
      | .diff [] =>
          some
            { r with
              point := .poll
              state := { status := "ok".toList, lastSync := some now, error := none } }
      | _ => none
  | .elsewhere site => some { r with site := site }

/-- **The sync loop.** -/
def syncLoop : StateMachine Replica LoopAction where
  init r := r.point = .login ∧ ∀ category, r.known category = none
  step := Replica.step u hash

/-! ## A recorded hash was applied

Only two steps matter, an apply and the record after it.  An apply keeps the property exactly if
it writes its snapshot, and a record does what the apply before it has made of it. -/

/-- **The hashes tell the truth**: a hash that is recorded, or is about to be, is
one whose snapshot was written, and a category whose last apply wrote nothing for
the hash of the manifest is not skipped. -/
structure UpToDate (r : Replica) : Prop where
  recorded : ∀ category hash', r.known category = some hash' →
    r.committed category = some hash'
  recording : ∀ category hash' written rest,
    r.point = .record category hash' written rest → written = true
  retried : ∀ category hash' rest, r.point = .diff ((category, hash') :: rest) →
    r.committed category ≠ some hash' → r.step u hash .skip = none

/-- An apply, if the step is one, writes its snapshot.  It is a condition on the payload that was
fetched and on the calls that fail. -/
def AppliesCommit (r : Replica) : LoopAction → Prop
  | .apply weather => ∀ category hash data rest,
      r.point = .apply category hash data rest → ApplyCommits weather category data
  | _ => True

/-- What is not skipped follows from what is recorded. -/
theorem upToDate_iff (r : Replica) :
    UpToDate u hash r ↔
      (∀ category hash', r.known category = some hash' → r.committed category = some hash') ∧
        ∀ category hash' written rest,
          r.point = .record category hash' written rest → written = true := by
  constructor
  · exact fun good => ⟨good.recorded, good.recording⟩
  · rintro ⟨recorded, recording⟩
    refine ⟨recorded, recording, fun category hash' rest here lost => ?_⟩
    have unknown : ¬ r.known category = some hash' := fun known => lost (recorded _ _ known)
    simp only [Replica.step, here, if_neg unknown]

/-- Every step but an apply and its record keeps the known hashes or forgets them
all, and does not lead to a record. -/
theorem Replica.step_hashes {r t : Replica} {a : LoopAction}
    (other : (∀ weather, a ≠ .apply weather) ∧ a ≠ .record) (step : r.step u hash a = some t) :
    (t.known = r.known ∨ t.known = fun _ => none) ∧ t.committed = r.committed ∧
      ∀ category hash' written rest, t.point = .record category hash' written rest →
        r.point = .record category hash' written rest := by
  have quiet : ∀ {known : Str → Option Str} {point : LoopPoint},
      (known = r.known ∨ known = fun _ => none) →
      (∀ category hash' written rest, point ≠ .record category hash' written rest) →
      (known = r.known ∨ known = fun _ => none) ∧ r.committed = r.committed ∧
        ∀ category hash' written rest, point = .record category hash' written rest →
          r.point = .record category hash' written rest :=
    fun same away => ⟨same, rfl, fun _ _ _ _ here => absurd here (away _ _ _ _)⟩
  cases a with
  | apply weather => exact absurd rfl (other.1 weather)
  | record => exact absurd rfl other.2
  | elsewhere site =>
      cases step
      exact ⟨Or.inl rfl, rfl, fun _ _ _ _ here => here⟩
  | login accepted =>
      simp only [Replica.step] at step
      split at step
      next here =>
        split at step
        · cases step
          exact quiet (Or.inr rfl) (by simp)
        · cases step
          exact quiet (Or.inr rfl) (by simp [here])
      next => cases step
  | snapshot data =>
      simp only [Replica.step] at step
      split at step
      · split at step
        · cases step
        · split at step <;>
          · cases step
            exact quiet (Or.inl rfl) (by simp)
      · cases step
  | manifest hashes =>
      simp only [Replica.step] at step
      split at step
      · cases step
        exact quiet (Or.inl rfl) (by simp)
      · cases step
        exact quiet (Or.inl rfl) (by simp)
      · cases step
  | skip =>
      simp only [Replica.step] at step
      split at step
      · split at step
        · cases step
          exact quiet (Or.inl rfl) (by simp)
        · cases step
      · cases step
  | finish now =>
      simp only [Replica.step] at step
      split at step
      · cases step
        exact quiet (Or.inl rfl) (by simp)
      · cases step

/-- An apply leaves everything but the database and the stores. -/
theorem Replica.step_apply {r t : Replica} {weather : ApplyWeather}
    (step : r.step u hash (.apply weather) = some t) :
    ∃ category hash' data rest, r.point = .apply category hash' data rest ∧
      t = { r with
        site := (applySnapshotBlocking u hash weather category data r.site).site
        point := .record category hash'
          (applySnapshotBlocking u hash weather category data r.site).committed rest } := by
  simp only [Replica.step] at step
  split at step
  next category hash' data rest here =>
    cases step
    exact ⟨category, hash', data, rest, here, rfl⟩
  next => cases step

/-- A record stores the hash, whatever the apply did. -/
theorem Replica.step_record {r t : Replica} (step : r.step u hash .record = some t) :
    ∃ category hash' written rest, r.point = .record category hash' written rest ∧
      t = { r with
        known := Function.update r.known category (some hash')
        point := .diff rest
        committed := Function.update r.committed category
          (if written then some hash' else none) } := by
  simp only [Replica.step] at step
  split at step
  next category hash' written rest here =>
    cases step
    exact ⟨category, hash', written, rest, here, rfl⟩
  next => cases step

/-- **An apply** keeps the property exactly if it writes its snapshot. -/
theorem upToDate_apply_iff {r t : Replica} {weather : ApplyWeather} (good : UpToDate u hash r)
    (step : r.step u hash (.apply weather) = some t) :
    UpToDate u hash t ↔ AppliesCommit r (.apply weather) := by
  obtain ⟨category, hash', data, rest, here, rfl⟩ := Replica.step_apply u hash step
  have commits := applySnapshot_committed_iff u hash weather category data r.site
  rw [upToDate_iff]
  constructor
  · rintro ⟨-, recording⟩ category' hash'' data' rest' here'
    rw [here] at here'
    cases here'
    exact commits.mp (recording _ _ _ _ rfl)
  · intro written
    refine ⟨good.recorded, fun category' hash'' written' rest' there => ?_⟩
    cases there
    exact commits.mpr (written category hash' data rest here)

/-- A record keeps the property: what is about to be recorded was written. -/
theorem UpToDate.record {r t : Replica} (good : UpToDate u hash r)
    (step : r.step u hash .record = some t) : UpToDate u hash t := by
  obtain ⟨category, hash', written, rest, here, rfl⟩ := Replica.step_record u hash step
  rw [upToDate_iff]
  refine ⟨fun category' hash'' recorded => ?_, fun _ _ _ _ there => (by cases there)⟩
  have wrote := good.recording _ _ _ _ here
  simp only [wrote, if_true] at recorded ⊢
  by_cases same : category' = category
  · subst same
    rwa [Function.update_self] at recorded ⊢
  · rw [Function.update_of_ne same] at recorded ⊢
    exact good.recorded category' hash'' recorded

/-- **One step** keeps the property exactly if it is no apply that writes
nothing. -/
theorem upToDate_step_iff {r t : Replica} {a : LoopAction} (good : UpToDate u hash r)
    (step : r.step u hash a = some t) : UpToDate u hash t ↔ AppliesCommit r a := by
  by_cases isApply : ∃ weather, a = .apply weather
  · obtain ⟨weather, rfl⟩ := isApply
    exact upToDate_apply_iff u hash good step
  have other : ∀ weather, a ≠ .apply weather := fun weather same => isApply ⟨weather, same⟩
  have trivially : AppliesCommit r a := by
    cases a with
    | apply weather => exact absurd rfl (other weather)
    | _ => trivial
  refine iff_of_true ?_ trivially
  by_cases isRecord : a = .record
  · subst isRecord
    exact good.record u hash step
  obtain ⟨known, committed, point⟩ := Replica.step_hashes u hash ⟨other, isRecord⟩ step
  rw [upToDate_iff, committed]
  refine ⟨fun category hash' recorded => ?_, fun category hash' written rest here =>
    good.recording _ _ _ _ (point _ _ _ _ here)⟩
  rcases known with same | unknown
  · rw [same] at recorded
    exact good.recorded category hash' recorded
  · rw [unknown] at recorded
    cases recorded

/-- **The hashes tell the truth in every state of a run exactly if every apply of
the run writes its snapshot.** -/
theorem upToDate_iff_commits {r t : Replica} {acts : List LoopAction}
    (started : (syncLoop u hash).init r) (run : (syncLoop u hash).exec r acts = some t) :
    (syncLoop u hash).Always (UpToDate u hash) r acts ↔
      (syncLoop u hash).StepsMeet AppliesCommit r acts := by
  have start : UpToDate u hash r := by
    rw [upToDate_iff]
    refine ⟨fun category hash' recorded => ?_, fun category hash' written rest here => ?_⟩
    · rw [started.2 category] at recorded
      cases recorded
    · rw [started.1] at here
      cases here
  exact (syncLoop u hash).always_iff_stepsMeet
    (fun _ _ _ good step => upToDate_step_iff u hash good step) start run

end Loop

/-! ## An apply that writes nothing -/

/-- The blocklist of the master is fetched, the pool of the replica has no
connection, and the next poll finds the same hash. -/
def noConnection : List LoopAction :=
  let hashes := [("blocklist".toList, "7f".toList)]
  [.login true, .manifest (some hashes),
    .snapshot (some (.array [.string "ads.example".toList])),
    .apply { fails := fun call => if call = .connection then some "timeout".toList else none },
    .record, .finish 0, .manifest (some hashes), .skip]

theorem noConnection_ends :
    ((syncLoop .ascii fun _ => 0).exec {} noConnection).map (fun r =>
      (r.known "blocklist".toList, r.committed "blocklist".toList,
        (r.site.db.domains .blocklist).values)) = some (some "7f".toList, none, []) := by
  decide +kernel

/-- The hash is recorded and the next poll skips the category, while the table is
empty. -/
theorem not_upToDate_without_connection :
    (syncLoop .ascii fun _ => 0).init {} ∧
      ∃ t, (syncLoop .ascii fun _ => 0).exec {} noConnection = some t ∧
        (t.site.db.domains .blocklist).values = [] ∧ ¬ UpToDate .ascii (fun _ => 0) t := by
  refine ⟨⟨rfl, fun _ => rfl⟩, ?_⟩
  obtain ⟨t, run, ends⟩ := Option.map_eq_some_iff.mp noConnection_ends
  simp only [Prod.mk.injEq] at ends
  obtain ⟨known, committed, table⟩ := ends
  refine ⟨t, run, table, fun good => ?_⟩
  have written := good.recorded _ _ known
  rw [committed] at written
  cases written

theorem upToDate_iff_commits_without_connection :
    ∃ t, (syncLoop .ascii fun _ => 0).exec {} noConnection = some t ∧
      ((syncLoop .ascii fun _ => 0).Always (UpToDate .ascii fun _ => 0) {} noConnection ↔
        (syncLoop .ascii fun _ => 0).StepsMeet AppliesCommit {} noConnection) := by
  obtain ⟨t, run, -⟩ := Option.map_eq_some_iff.mp noConnection_ends
  exact ⟨t, run, upToDate_iff_commits _ _ ⟨rfl, fun _ => rfl⟩ run⟩

end RustBlocker
