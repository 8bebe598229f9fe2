import RustBlocker.Answers
import RustBlocker.Startup
import RustBlocker.SyncLoop

/-!
# The task of the sync loop

The loop of `run` is the one of the previous module; here is the task around it.  A configuration
comes over the API into the settings, a start reads it back, and the task of the loop ends if
`run` returns or panics.

* **An endless run** is a sequence of tasks, one for each answer.  `LoopAnswers` has an answer for
  every request, and the loop asks for the one of the point where it stands.
* **The timer.**  `tokio::time::interval` asserts that its period is not zero.  It is made after
  every accepted login, of an interval that nothing on the way has checked.

`neverEnds_iff` has the configurations and the answers for which the loop goes on.

The result begins with the request that stores a configuration and not with a configuration,
because the way through the settings is where an interval could be checked.  It goes through
texts: the number is written out, stored, read back at the next start, and parsed; what the start
reads is shown to be what was sent.

An answer of the master may be missing, may have any status, and may have a body that does not
parse. A client that cannot be built ends the task before the first request; that is outside the
program and a parameter.
-/

namespace RustBlocker

/-! ## The configuration -/

/-- `SyncConfig`, with the interval in seconds. -/
structure SyncConfig where
  masterUrl : Str
  password : Str
  interval : UInt64
deriving DecidableEq, Repr

/-- The flags of the synchronisation. -/
structure SyncCli where
  syncMaster : Option Str := none
  syncPassword : Option Str := none
  syncInterval : Option UInt64 := none

/-- The start of the synchronisation in `run_server`, with what `get_setting` reads. -/
def startSync (cli : SyncCli) (getSetting : Str → Option Str) : Option SyncConfig :=
  let cliHadSyncMaster := cli.syncMaster.isSome
  let masterUrl := (cli.syncMaster.or (getSetting "sync_master".toList)).getD []
  let enabled := ((getSetting "sync_enabled".toList).map (· == "true".toList)).getD false
  let password := (cli.syncPassword.or (getSetting "sync_password".toList)).getD []
  let intervalSecs :=
    (cli.syncInterval.or ((getSetting "sync_interval_secs".toList).bind Str.parseU64)).getD 30
  -- an empty password is warned about only
  if !masterUrl.isEmpty && (enabled || cliHadSyncMaster) then
    some { masterUrl, password, interval := intervalSecs }
  else none

/-- **What a start without flags makes of the stored settings.**  A password that was left
empty is the one from before. -/
theorem startSync_of_stored {getSetting : Str → Option Str} {enabled : Bool}
    {masterUrl password : Str} {intervalSecs : UInt64}
    (stored : ∀ entry ∈ syncSettings enabled masterUrl password intervalSecs,
      getSetting entry.1 = some entry.2) :
    startSync {} getSetting =
      if enabled = true ∧ masterUrl ≠ [] then
        some { masterUrl, interval := intervalSecs
               password := (getSetting "sync_password".toList).getD [] }
      else none := by
  have front : ∀ entry ∈ [("sync_enabled".toList,
        if enabled then "true".toList else "false".toList),
      ("sync_master".toList, masterUrl), ("sync_interval_secs".toList, decimal intervalSecs.toNat)],
      getSetting entry.1 = some entry.2 :=
    fun entry mem => stored entry (List.mem_append_left _ mem)
  simp only [List.forall_mem_cons] at front
  obtain ⟨flag, url, secs, -⟩ := front
  unfold startSync
  simp only [flag, url, secs, Option.none_or, Option.getD_some, Option.map_some, Option.bind_some,
    Str.parseU64_decimal, Option.isSome_none, Bool.or_false]
  cases enabled with
  | false => simp
  | true => cases masterUrl <;> simp

/-! ## Requests and their answers

The loop asks for one thing at a time and is never stuck: whatever it asks for, there is an
answer, if only a failure. -/

/-- How a request to the master ends: no answer, or a status and the body as far as it
parses. -/
inductive HttpAnswer (α : Type) where
  | unreachable
  | answered (status : Nat) (body : Option α)

namespace HttpAnswer

variable {α : Type}

/-- The body of an answer with a status of success. -/
def parsed : HttpAnswer α → Option α
  | .unreachable => none
  | .answered status body => if status / 100 = 2 then body else none

end HttpAnswer

/-- `login`: the body is `authenticated`. -/
def login (answer : HttpAnswer Bool) : Bool := answer.parsed.getD false

/-- `fetch_manifest`: the body is the hashes, in the order in which the map is iterated. -/
def fetchManifest (answer : HttpAnswer (List (Str × Str))) : Option (List (Str × Str)) :=
  answer.parsed

/-- `fetch_snapshot` -/
def fetchSnapshot (answer : HttpAnswer Json) : Option Json := answer.parsed

/-- The answers that await the loop, whatever it asks.  Only the one it asks for is read. -/
structure LoopAnswers where
  login : HttpAnswer Bool := .unreachable
  manifest : HttpAnswer (List (Str × Str)) := .unreachable
  snapshot : HttpAnswer Json := .unreachable
  apply : ApplyWeather := {}
  now : Nat := 0
  /-- What the other requests of the replica make of its site in the meantime. -/
  elsewhere : Site → Site := id

/-- What the loop does at the point where it stands. -/
def Replica.action (r : Replica) (answers : LoopAnswers) : LoopAction :=
  match r.point with
  | .login => .login (RustBlocker.login answers.login)
  | .poll => .manifest (fetchManifest answers.manifest)
  | .diff [] => .finish answers.now
  | .diff ((category, hash) :: _) =>
      if r.known category = some hash then .skip else .snapshot (fetchSnapshot answers.snapshot)
  -- a task that panics is logged like one that fails
  | .apply _ _ _ _ => .apply answers.apply
  | .record _ _ _ _ => .record

section Loop

variable (u : CaseTables) (hash : Bytes → UInt64)

/-- The loop is never stuck. -/
theorem Replica.step_action_isSome (r : Replica) (answers : LoopAnswers) :
    (r.step u hash (r.action answers)).isSome := by
  unfold Replica.action
  split
  next here =>
    simp only [Replica.step, here]
    split <;> rfl
  next here =>
    simp only [Replica.step, here]
    cases fetchManifest answers.manifest <;> rfl
  next here =>
    simp only [Replica.step, here]
    rfl
  next category hash' rest here =>
    by_cases known : r.known category = some hash'
    · rw [if_pos known]
      simp only [Replica.step, here, if_pos known]
      rfl
    · rw [if_neg known]
      simp only [Replica.step, here, if_neg known]
      cases fetchSnapshot answers.snapshot <;> rfl
  next here =>
    simp only [Replica.step, here]
    rfl
  next here =>
    simp only [Replica.step, here]
    rfl

/-- The replica after the loop's next step. -/
def Replica.next (r : Replica) (answers : LoopAnswers) : Replica :=
  let here := { r with site := answers.elsewhere r.site }
  (here.step u hash (here.action answers)).get (here.step_action_isSome u hash answers)

/-- A step of the task is a step of the loop, after one of the others. -/
theorem Replica.exec_next (r : Replica) (answers : LoopAnswers) :
    (syncLoop u hash).exec r [.elsewhere (answers.elsewhere r.site), r.action answers] =
      some (r.next u hash answers) := by
  have same : Replica.action { r with site := answers.elsewhere r.site } answers =
      r.action answers := rfl
  show ((some { r with site := answers.elsewhere r.site }).bind fun m =>
    (Replica.step u hash m (r.action answers)).bind some) = _
  rw [Option.bind_some, Option.bind_fun_some, ← same]
  exact (Option.some_get _).symm

/-! ### The exits of the two loops -/

/-- **A login** forgets the hashes, and only one that is accepted leads to the polls. -/
theorem Replica.next_login {r : Replica} (here : r.point = .login) (answers : LoopAnswers) :
    (∀ category, (r.next u hash answers).known category = none) ∧
      (r.next u hash answers).point =
        if RustBlocker.login answers.login = true then .poll else .login := by
  have one := r.exec_next u hash answers
  unfold Replica.action at one
  simp only [StateMachine.exec, syncLoop, Replica.step, here, Option.bind_some] at one
  by_cases accepted : RustBlocker.login answers.login = true
  · rw [if_pos accepted] at one ⊢
    rw [← Option.some.inj one]
    exact ⟨fun _ => rfl, rfl⟩
  · rw [if_neg accepted] at one ⊢
    rw [← Option.some.inj one]
    exact ⟨fun _ => rfl, rfl⟩

/-- **A manifest that is not fetched** leads back to the login. -/
theorem Replica.next_unfetched {r : Replica} (here : r.point = .poll) {answers : LoopAnswers}
    (failed : fetchManifest answers.manifest = none) :
    (r.next u hash answers).point = .login := by
  have one := r.exec_next u hash answers
  unfold Replica.action at one
  simp only [StateMachine.exec, syncLoop, Replica.step, here, failed, Option.bind_some] at one
  rw [← Option.some.inj one]

end Loop

/-! ## The task

A task is running, has returned or has panicked, and each step of a running one is a step of the
loop. It panics exactly where a timer of no period is made. -/

/-- The task of `run`. -/
inductive SyncTask where
  | running (r : Replica)
  /-- `run` returned; `spawn` logs the error. -/
  | returned (error : Str)
  | panicked (message : Str)

/-- `tokio::time::interval` -/
def timerOf (period : UInt64) : Except Str Unit :=
  if period = 0 then .error "`period` must be non-zero.".toList else .ok ()

/-- A login that is accepted is followed by a new timer. -/
def Replica.opensTimer (r : Replica) (answers : LoopAnswers) : Bool :=
  match r.point with
  | .login => RustBlocker.login answers.login
  | _ => false

section Task

variable (u : CaseTables) (hash : Bytes → UInt64) (config : SyncConfig)

/-- One step of the task. -/
def SyncTask.step (answers : LoopAnswers) : SyncTask → SyncTask
  | .running r =>
      match if r.opensTimer answers then timerOf config.interval else .ok () with
      | .ok () => .running (r.next u hash answers)
      | .error message => .panicked message
  | ended => ended

/-- **`run`**, from a client as far as it can be built. -/
def syncRun (client : Except Str Unit) (site : Site) (answers : Nat → LoopAnswers) :
    Nat → SyncTask
  | 0 =>
      match client with
      | .ok () => .running { site }
      | .error error => .returned ("failed to build sync HTTP client: ".toList ++ error)
  | n + 1 => (syncRun client site answers n).step u hash config (answers n)

/-- **The loop never dies**, and a manifest that is not fetched is followed by a login without
known hashes.  It is said of an infinite sequence of states. -/
structure NeverEnds (answers : Nat → LoopAnswers) (run : Nat → SyncTask) : Prop where
  alive : ∀ n, ∃ r, run n = .running r
  relogin : ∀ n r, run n = .running r → r.point = .poll →
    fetchManifest (answers n).manifest = none →
      (∃ back, run (n + 1) = .running back ∧ back.point = .login) ∧
        ∃ again, run (n + 2) = .running again ∧ ∀ category, again.known category = none

variable {u hash config}

/-- What a task that goes on has done. -/
theorem SyncTask.step_running {answers : LoopAnswers} {r t : Replica}
    (one : (SyncTask.running r).step u hash config answers = .running t) :
    t = r.next u hash answers := by
  simp only [SyncTask.step] at one
  split at one
  · exact (SyncTask.running.inj one).symm
  · cases one

/-- A step goes on unless it makes a timer of no period. -/
theorem SyncTask.step_alive_iff {answers : LoopAnswers} {r : Replica} :
    (∃ t, (SyncTask.running r).step u hash config answers = .running t) ↔
      (r.opensTimer answers = true → config.interval ≠ 0) := by
  simp only [SyncTask.step, timerOf]
  by_cases opens : r.opensTimer answers = true
  · by_cases zero : config.interval = 0
    · simp [opens, zero]
    · simp [opens, zero]
  · simp [opens]

theorem Replica.opensTimer_of_login {r : Replica} (here : r.point = .login)
    (answers : LoopAnswers) : r.opensTimer answers = RustBlocker.login answers.login := by
  unfold Replica.opensTimer
  rw [here]

theorem Replica.login_of_opensTimer {r : Replica} {answers : LoopAnswers}
    (opens : r.opensTimer answers = true) : RustBlocker.login answers.login = true := by
  unfold Replica.opensTimer at opens
  split at opens
  · exact opens
  · cases opens

variable {client : Except Str Unit} {site : Site} {answers : Nat → LoopAnswers}

/-- A run that goes on has started. -/
theorem built_of_alive (alive : ∃ r, syncRun u hash config client site answers 0 = .running r) :
    client = .ok () := by
  obtain ⟨r, start⟩ := alive
  rcases client with error | ⟨⟩
  · cases start
  · rfl

/-- **A run that has no period goes on at the login**, as long as it does. -/
theorem waiting_of_alive (zero : config.interval = 0)
    (alive : ∀ n, ∃ r, syncRun u hash config client site answers n = .running r) (n : Nat) :
    (∃ r, syncRun u hash config client site answers n = .running r ∧ r.point = .login) ∧
      login (answers n).login = false := by
  have refused : ∀ {n r}, syncRun u hash config client site answers n = .running r →
      r.point = .login → login (answers n).login = false := by
    intro n r here point
    have later := alive (n + 1)
    rw [syncRun, here, SyncTask.step_alive_iff, r.opensTimer_of_login point] at later
    exact Bool.eq_false_iff.mpr fun accepted => later accepted zero
  induction n with
  | zero =>
      obtain rfl := built_of_alive (alive 0)
      exact ⟨⟨_, rfl, rfl⟩, refused rfl rfl⟩
  | succ n ih =>
      obtain ⟨⟨r, here, point⟩, still⟩ := ih
      obtain ⟨t, later⟩ := alive (n + 1)
      have one := later
      rw [syncRun, here] at one
      have point' : t.point = .login := by
        rw [SyncTask.step_running one, (r.next_login u hash point (answers n)).2, still]
        rfl
      exact ⟨⟨t, later, point'⟩, refused later point'⟩

/-- **A run never ends** exactly if it starts and, where it has no period, is never let in. -/
theorem neverEnds_syncRun_iff :
    NeverEnds answers (syncRun u hash config client site answers) ↔
      client = .ok () ∧ (config.interval ≠ 0 ∨ ∀ n, login (answers n).login = false) := by
  constructor
  · intro never
    refine ⟨built_of_alive (never.alive 0), ?_⟩
    by_cases zero : config.interval = 0
    · exact Or.inr fun n => (waiting_of_alive zero never.alive n).2
    · exact Or.inl zero
  · rintro ⟨built, safe⟩
    have alive : ∀ n, ∃ r, syncRun u hash config client site answers n = .running r := by
      intro n
      induction n with
      | zero =>
          subst built
          exact ⟨_, rfl⟩
      | succ n ih =>
          obtain ⟨r, here⟩ := ih
          rw [syncRun, here, SyncTask.step_alive_iff]
          intro opens
          refine safe.resolve_right fun refused => ?_
          have accepted := Replica.login_of_opensTimer opens
          rw [refused n] at accepted
          cases accepted
    refine ⟨alive, fun n r here point failed => ?_⟩
    obtain ⟨back, later⟩ := alive (n + 1)
    obtain ⟨again, last⟩ := alive (n + 2)
    have one := later
    rw [syncRun, here] at one
    have returned : back.point = .login := by
      rw [SyncTask.step_running one, r.next_unfetched u hash point failed]
    have two := last
    rw [syncRun, later] at two
    refine ⟨⟨back, later, returned⟩, again, last, ?_⟩
    rw [SyncTask.step_running two]
    exact (back.next_login u hash returned _).1

end Task

/-! ## From the API to the timer

The interval is followed from the request over the settings to the timer.  Nothing on this way
looks at its value. -/

/-- **Of every configuration that is accepted and stored**: the loop that the next start spawns
never dies exactly if its client is built and the interval is not zero, or no login is ever
accepted. -/
theorem neverEnds_iff {Net : Type} (env : ApiEnv Net) (weather : ApiWeather)
    (peer : Option IpAddr) (s : WebServer Net) (enabled : Bool) (masterUrl password : Str)
    (intervalSecs : UInt64) (seed : Plan SeedCall) (u : CaseTables) (hash : Bytes → UInt64)
    (client : Except Str Unit) (site : Site) (answers : Nat → LoopAnswers)
    (stored : Stored env weather s
      (s.putSyncConfig env weather peer enabled masterUrl password intervalSecs).2
      (.putSyncConfig enabled masterUrl password intervalSecs)) :
    let db := (Db.seedDefaults seed
      (s.putSyncConfig env weather peer enabled masterUrl password intervalSecs).2.db).2
    (∀ config, startSync {} db.settings.lookup = some config →
        NeverEnds answers (syncRun u hash config client site answers)) ↔
      (enabled = true → masterUrl ≠ [] →
        client = .ok () ∧ (intervalSecs ≠ 0 ∨ ∀ n, login (answers n).login = false)) := by
  intro db
  have kept : ∀ entry ∈ syncSettings enabled masterUrl password intervalSecs,
      db.settings.lookup entry.1 = some entry.2 :=
    fun entry mem => Db.lookup_seedDefaults_of_isSome (stored entry mem)
  rw [startSync_of_stored kept]
  by_cases started : enabled = true ∧ masterUrl ≠ []
  · rw [if_pos started]
    constructor
    · exact fun never _ _ => neverEnds_syncRun_iff.mp (never _ rfl)
    · intro safe config same
      rw [← Option.some.inj same]
      exact neverEnds_syncRun_iff.mpr (safe started.1 started.2)
  · rw [if_neg started]
    exact ⟨fun _ on there => absurd ⟨on, there⟩ started, fun _ _ absent => by cases absent⟩

/-- A configuration whose interval is half a minute, and a master that always lets in. -/
theorem neverEnds_thirty :
    let s : WebServer IpAddr := { key := [] }
    let answers : Nat → LoopAnswers := fun _ => { login := .answered 200 (some true) }
    ∃ config,
      startSync {}
        (Db.seedDefaults .clear (s.putSyncConfig plainEnv {} none true "https://master".toList []
          30).2.db).2.settings.lookup = some config ∧
        NeverEnds answers (syncRun .ascii (fun _ => 0) config (.ok ()) {} answers) := by
  intro s answers
  have each : ∀ entry ∈ syncSettings true "https://master".toList [] 30,
      (s.putSyncConfig plainEnv {} none true "https://master".toList [] 30).2.db.settings.lookup
        entry.1 = some entry.2 := by decide +kernel
  have started :
      startSync {}
        (Db.seedDefaults .clear (s.putSyncConfig plainEnv {} none true "https://master".toList []
          30).2.db).2.settings.lookup =
        some { masterUrl := "https://master".toList, password := [], interval := 30 } := by
    decide +kernel
  have safe := (neverEnds_iff plainEnv {} none s true "https://master".toList [] 30 .clear .ascii
    (fun _ => 0) (.ok ()) {} answers each).mpr fun _ _ => ⟨rfl, Or.inl (by decide)⟩
  exact ⟨_, started, safe _ started⟩

/-- **An interval of zero is accepted and stored, and the first login that succeeds panics the
task.** -/
theorem not_neverEnds_zero :
    let s : WebServer IpAddr := { key := [] }
    let put := s.putSyncConfig plainEnv {} none true "https://master".toList "secret".toList 0
    let answers : Nat → LoopAnswers := fun _ => { login := .answered 200 (some true) }
    put.1.status = 200 ∧
      ∃ config, startSync {} (Db.seedDefaults .clear put.2.db).2.settings.lookup = some config ∧
        syncRun .ascii (fun _ => 0) config (.ok ()) {} answers 1 =
          .panicked "`period` must be non-zero.".toList ∧
        ¬ NeverEnds answers (syncRun .ascii (fun _ => 0) config (.ok ()) {} answers) := by
  intro s put answers
  have started : startSync {} (Db.seedDefaults .clear put.2.db).2.settings.lookup =
      some { masterUrl := "https://master".toList, password := "secret".toList
             interval := 0 } := by
    decide +kernel
  refine ⟨rfl, _, started, rfl, fun never => ?_⟩
  obtain ⟨r, running⟩ := never.alive 1
  cases running

end RustBlocker
