import RustBlocker.IpAddr
import RustBlocker.Library.StateMachine

/-!
# Failed logins and the throttle

`LoginThrottle` bounds the password checks of a client: it counts the failures of an address in a
window of sixty seconds from the first one, and refuses a login once there are five.  It also
hands out two permits, and a login holds one while its password is checked.

The check at the start of a login and the record of its failure are two critical sections, and the
permit is given back in between.  A login that has been checked and is not recorded yet holds no
permit and is not counted, so others are admitted in its place.

* `loginRequests` is the machine of the logins of all clients; each takes its steps — admission,
  verification, release of the permit, record — in any order relative to the others.
* `Window` is the account of the specification: when a window of a client was opened, and the
  wrong passwords that were verified for it since.  No step reads it.
* **Time.**  The clock goes forward.  A login reads it and then takes the mutex, so the time it
  works with may be behind.

`wrong_le_of_surplusFree` says that the bound holds along every run that never admits a login
beyond what the unrecorded ones leave.

## The condition

`SurplusFree` is about admissions only.  With no other login of the client unrecorded an admission
is always in order, since the throttle itself has counted what there is to count.  Otherwise the
unrecorded ones, together with the failures that are recorded in the window, must be fewer than
five: each of them may still turn out to be a wrong password, and this one may be another.

The condition reads the state before the step: the logins under way, the table, and the clock.  It
says nothing of how many passwords are wrong.

A window begins with the failure that is recorded first and not with the first that is verified,
because that is the time the throttle has.  The wrong passwords that are verified before it are
those of no window; the account begins with one, the failure that opens it.
-/

namespace RustBlocker

def loginMaxConcurrent : Nat := 2

def loginMaxFailures : Nat := 5

/-- Sixty seconds, in nanoseconds. -/
def loginFailureWindow : Nat := 60 * 10 ^ 9

def loginMaxTrackedClients : Nat := 4096

/-- `FailedLogins` -/
structure FailedLogins where
  count : Nat
  windowStarted : Nat
deriving DecidableEq, Repr

/-- Whether the window of the failures is over. -/
def FailedLogins.expired (attempt : FailedLogins) (now : Nat) : Bool :=
  loginFailureWindow ≤ now - attempt.windowStarted

/-- The failures by client. -/
abbrev Failures := AList fun _ : IpAddr => FailedLogins

/-- `HashMap::retain` -/
def Failures.retain (failures : Failures) (keep : FailedLogins → Bool) : Failures where
  entries := failures.entries.filter fun entry => keep entry.2
  nodupKeys := failures.nodupKeys.sublist List.filter_sublist

theorem Failures.lookup_retain {failures : Failures} {keep : FailedLogins → Bool}
    {client : IpAddr} {attempt : FailedLogins} :
    (failures.retain keep).lookup client = some attempt ↔
      failures.lookup client = some attempt ∧ keep attempt = true := by
  rw [← Option.mem_def, ← Option.mem_def, AList.mem_lookup_iff, AList.mem_lookup_iff]
  exact List.mem_filter

/-- `LoginThrottle`; `bcryptSlots` are the permits that are free. -/
structure LoginThrottle where
  failures : Failures := ∅
  bcryptSlots : Nat := loginMaxConcurrent

namespace LoginThrottle

/-- The end of `retry_after_at`: a full map takes no new client. -/
def admitTracked (throttle : LoginThrottle) (client : IpAddr) : Option Nat :=
  if (throttle.failures.lookup client).isNone &&
      loginMaxTrackedClients ≤ throttle.failures.entries.length then
    some (loginFailureWindow / 10 ^ 9)
  else none

/-- The start of `retry_after_at`: a full map is swept of the windows that are over. -/
def sweep (throttle : LoginThrottle) (now : Nat) : LoginThrottle :=
  if loginMaxTrackedClients ≤ throttle.failures.entries.length then
    { throttle with failures := throttle.failures.retain fun attempt => !attempt.expired now }
  else throttle

/-- `retry_after_at` -/
def retryAfterAt (throttle : LoginThrottle) (client : IpAddr) (now : Nat) :
    LoginThrottle × Option Nat :=
  let swept := throttle.sweep now
  match swept.failures.lookup client with
  | none => (swept, swept.admitTracked client)
  | some attempt =>
      if attempt.expired now then
        let removed := { swept with failures := swept.failures.erase client }
        (removed, removed.admitTracked client)
      else if loginMaxFailures ≤ attempt.count then
        (swept,
          some (max ((loginFailureWindow - (now - attempt.windowStarted)) / 10 ^ 9) 1))
      else (swept, swept.admitTracked client)

/-- `begin`: a permit, or the seconds to wait. -/
def begin (throttle : LoginThrottle) (client : IpAddr) (now : Nat) :
    LoginThrottle × Except Nat Unit :=
  match throttle.retryAfterAt client now with
  | (throttle, some retryAfter) => (throttle, .error retryAfter)
  | (throttle, none) =>
      if 0 < throttle.bcryptSlots then
        ({ throttle with bcryptSlots := throttle.bcryptSlots - 1 }, .ok ())
      else (throttle, .error 1)

/-- Whether a failure opens a window. -/
def opens (throttle : LoginThrottle) (client : IpAddr) (now : Nat) : Bool :=
  match throttle.failures.lookup client with
  | none => true
  | some attempt => attempt.expired now

/-- `record_failure_at`; the count saturates. -/
def recordFailureAt (throttle : LoginThrottle) (client : IpAddr) (now : Nat) : LoginThrottle :=
  let attempt := (throttle.failures.lookup client).getD { count := 0, windowStarted := now }
  let attempt := if attempt.expired now then { count := 0, windowStarted := now } else attempt
  { throttle with
    failures := throttle.failures.insert client
      { attempt with count := min (attempt.count + 1) 255 } }

/-- `record_success` -/
def recordSuccess (throttle : LoginThrottle) (client : IpAddr) : LoginThrottle :=
  { throttle with failures := throttle.failures.erase client }

/-- The failures that are counted for a client. -/
def recorded (throttle : LoginThrottle) (client : IpAddr) (clock : Nat) : Nat :=
  match throttle.failures.lookup client with
  | none => 0
  | some attempt => if attempt.expired clock then 0 else attempt.count

/-! ## What the operations leave

The throttle is described by what it counts for one client in an open window.  Sweeping does not
change that, which is why the size of the table does not enter the rest of the module. -/

/-- Entries have gone, and none whose window is still open at the given time.  This is all that a
sweep may do. -/
structure Swept (now : Nat) (throttle throttle' : LoginThrottle) : Prop where
  old : ∀ client attempt, throttle'.failures.lookup client = some attempt →
    throttle.failures.lookup client = some attempt
  kept : ∀ client attempt, throttle.failures.lookup client = some attempt →
    attempt.expired now = false → throttle'.failures.lookup client = some attempt

section Swept

variable {throttle throttle' throttle'' : LoginThrottle} {client : IpAddr} {now clock : Nat}

/-- A window that was over at an earlier time is over. -/
theorem expired_mono {attempt : FailedLogins} (behind : now ≤ clock)
    (past : attempt.expired now = true) : attempt.expired clock = true := by
  simp only [FailedLogins.expired, decide_eq_true_eq] at past ⊢
  omega

theorem Swept.refl (now : Nat) (throttle : LoginThrottle) : Swept now throttle throttle :=
  ⟨fun _ _ held => held, fun _ _ held _ => held⟩

theorem Swept.trans (first : Swept now throttle throttle')
    (second : Swept now throttle' throttle'') : Swept now throttle throttle'' where
  old client attempt held := first.old client attempt (second.old client attempt held)
  kept client attempt held live :=
    second.kept client attempt (first.kept client attempt held live) live

theorem swept_sweep (throttle : LoginThrottle) (now : Nat) :
    Swept now throttle (throttle.sweep now) := by
  rw [sweep]
  split
  · refine ⟨fun _ _ held => (Failures.lookup_retain.mp held).1, fun _ _ held live => ?_⟩
    exact Failures.lookup_retain.mpr ⟨held, by rw [live]; rfl⟩
  · exact .refl now throttle

/-- An entry whose window is over may go. -/
theorem swept_erase {attempt : FailedLogins}
    (held : throttle.failures.lookup client = some attempt)
    (past : attempt.expired now = true) :
    Swept now throttle { throttle with failures := throttle.failures.erase client } where
  old client' attempt' here := by
    by_cases same : client' = client
    · rw [same, AList.lookup_erase] at here
      cases here
    · rwa [AList.lookup_erase_ne same] at here
  kept client' attempt' here live := by
    by_cases same : client' = client
    · rw [same, held] at here
      rw [Option.some.inj here, live] at past
      cases past
    · rwa [AList.lookup_erase_ne same]

/-- **`retry_after_at`** takes away windows that are over and no others, and lets only a
client pass whose open window has fewer than five failures. -/
theorem retryAfterAt_spec (throttle : LoginThrottle) (client : IpAddr) (now : Nat) :
    Swept now throttle (throttle.retryAfterAt client now).1 ∧
      ((throttle.retryAfterAt client now).2 = none → ∀ attempt,
        throttle.failures.lookup client = some attempt → attempt.expired now = false →
          attempt.count < loginMaxFailures) := by
  have swept := swept_sweep throttle now
  unfold retryAfterAt
  simp only
  cases found : (throttle.sweep now).failures.lookup client with
  | none =>
      refine ⟨swept, fun _ attempt held live => ?_⟩
      rw [swept.kept client attempt held live] at found
      cases found
  | some attempt =>
      have same : ∀ attempt', throttle.failures.lookup client = some attempt' →
          attempt' = attempt := fun attempt' held =>
        Option.some.inj (held.symm.trans (swept.old client attempt found))
      simp only
      split
      next past =>
        refine ⟨swept.trans (swept_erase found past), fun _ attempt' held live => ?_⟩
        rw [same attempt' held, past] at live
        cases live
      next =>
        split
        next =>
          refine ⟨swept, fun refused => ?_⟩
          cases refused
        next few =>
          refine ⟨swept, fun _ attempt' held _ => ?_⟩
          rw [same attempt' held]
          exact Nat.not_le.mp few

/-- So does `begin`. -/
theorem begin_spec (throttle : LoginThrottle) (client : IpAddr) (now : Nat) :
    Swept now throttle (throttle.begin client now).1 ∧
      ((throttle.begin client now).2.isOk = true → ∀ attempt,
        throttle.failures.lookup client = some attempt → attempt.expired now = false →
          attempt.count < loginMaxFailures) := by
  obtain ⟨swept, few⟩ := retryAfterAt_spec throttle client now
  unfold begin
  rcases result : throttle.retryAfterAt client now with ⟨throttle', _ | seconds⟩
  · rw [result] at swept few
    simp only
    split
    · exact ⟨⟨swept.old, swept.kept⟩, fun _ => few rfl⟩
    · refine ⟨swept, fun refused => ?_⟩
      cases refused
  · rw [result] at swept
    refine ⟨swept, fun refused => ?_⟩
    cases refused

/-- A failure that opens a window is the first one in it. -/
theorem lookup_recordFailureAt_of_opens (opens : throttle.opens client now = true) :
    (throttle.recordFailureAt client now).failures.lookup client =
      some { count := 1, windowStarted := now } := by
  rw [recordFailureAt, AList.lookup_insert]
  unfold LoginThrottle.opens at opens
  cases held : throttle.failures.lookup client with
  | none =>
      simp only [Option.getD_none]
      split <;> rfl
  | some attempt =>
      rw [held] at opens
      simp only [Option.getD_some, opens, if_true]
      rfl

/-- Another failure is counted in the window there is. -/
theorem lookup_recordFailureAt_of_not_opens (opens : throttle.opens client now = false) :
    ∃ attempt, throttle.failures.lookup client = some attempt ∧
      (throttle.recordFailureAt client now).failures.lookup client =
        some { attempt with count := min (attempt.count + 1) 255 } := by
  unfold LoginThrottle.opens at opens
  cases held : throttle.failures.lookup client with
  | none =>
      rw [held] at opens
      cases opens
  | some attempt =>
      rw [held] at opens
      refine ⟨attempt, rfl, ?_⟩
      rw [recordFailureAt, AList.lookup_insert, held]
      have live : attempt.expired now = false := opens
      simp only [Option.getD_some, live]
      rfl

/-- What is counted for a client does not depend on windows that are over. -/
theorem Swept.recorded (swept : Swept now throttle throttle') (behind : now ≤ clock)
    (client : IpAddr) : throttle'.recorded client clock = throttle.recorded client clock := by
  unfold LoginThrottle.recorded
  cases there : throttle'.failures.lookup client with
  | some attempt => rw [swept.old client attempt there]
  | none =>
      cases here : throttle.failures.lookup client with
      | none => rfl
      | some attempt =>
          cases past : attempt.expired now with
          | true =>
              simp only
              rw [if_pos (expired_mono behind past)]
          | false =>
              rw [swept.kept client attempt here past] at there
              cases there

end Swept

end LoginThrottle

/-! ## Logins

The steps of a login in order: it is admitted with a permit, its password is verified, the permit
goes back, and the outcome is recorded.  The windows are written beside them. -/

/-- What the check of a password gives.  The check itself is no part of the model; its outcome is
free. -/
inductive Verification where
  | wrong
  | right
  /-- No password is configured, and none is checked. -/
  | missing
deriving DecidableEq, Repr

/-- Where a login stands.  It holds a permit in the first two phases, and is counted after the
last. -/
inductive LoginPhase where
  /-- It holds a permit, and its password is to be checked. -/
  | admitted
  /-- Its password has been checked, and it holds the permit. -/
  | verified (outcome : Verification)
  /-- It has given the permit back and is to be recorded. -/
  | released (outcome : Verification)
deriving DecidableEq, Repr

/-- A login under way; one that was refused is none. -/
structure Login where
  client : IpAddr
  phase : LoginPhase
deriving DecidableEq, Repr

/-- A window of a client: when the failure that opened it was recorded, and the wrong passwords
verified for the client from then on, that one included, until it was over.  It is an account that
the proofs keep; the code has no such thing. -/
structure Window where
  started : Nat
  wrong : Nat
deriving DecidableEq, Repr

/-- A wrong password is verified at the given time. -/
def Window.verify (window : Window) (clock : Nat) : Window :=
  if loginFailureWindow ≤ clock - window.started then window
  else { window with wrong := window.wrong + 1 }

/-- The throttle, the logins under way, and the windows. -/
structure LoginServer where
  throttle : LoginThrottle := {}
  logins : List Login := []
  clock : Nat := 0
  windows : IpAddr → Option Window := fun _ => none

/-- A step of some login, or time that passes.  The times that a login works with are read before
it has the mutex. -/
inductive LoginAction where
  | tick (nanoseconds : Nat)
  /-- `begin`, with a time read before. -/
  | begin (client : IpAddr) (now : Nat)
  | verify (login : Nat) (outcome : Verification)
  /-- The verification task fails: the login gives its permit back and is over. -/
  | fail (login : Nat)
  | release (login : Nat)
  /-- `record_failure` or `record_success`, with a time read before. -/
  | record (login : Nat) (now : Nat)

namespace LoginServer

/-- The throttle after a permit was given back. -/
def freed (throttle : LoginThrottle) : LoginThrottle :=
  { throttle with bcryptSlots := throttle.bcryptSlots + 1 }

/-- One step of one login; `none` where the login is not at that step. -/
def step (s : LoginServer) : LoginAction → Option LoginServer
  | .tick nanoseconds => some { s with clock := s.clock + nanoseconds }
  | .begin client now =>
      if now ≤ s.clock then
        match s.throttle.begin client now with
        | (throttle, .ok ()) =>
            some { s with
              throttle := throttle
              logins := s.logins ++ [{ client := client, phase := .admitted }] }
        | (throttle, .error _) => some { s with throttle := throttle }
      else none
  | .verify i outcome =>
      match s.logins[i]? with
      | some { client := client, phase := .admitted } =>
          some { s with
            logins := s.logins.eraseIdx i ++ [{ client := client, phase := .verified outcome }]
            windows :=
              if outcome = .wrong then
                Function.update s.windows client
                  ((s.windows client).map fun window => window.verify s.clock)
              else s.windows }
      | _ => none
  | .fail i =>
      match s.logins[i]? with
      | some { client := _, phase := .admitted } =>
          some { s with throttle := freed s.throttle, logins := s.logins.eraseIdx i }
      | _ => none
  | .release i =>
      match s.logins[i]? with
      | some { client := client, phase := .verified outcome } =>
          some { s with
            throttle := freed s.throttle
            logins := s.logins.eraseIdx i ++ [{ client := client, phase := .released outcome }] }
      | _ => none
  | .record i now =>
      match s.logins[i]? with
      | some { client := client, phase := .released outcome } =>
          if now ≤ s.clock then
            let logins := s.logins.eraseIdx i
            match outcome with
            | .wrong =>
                some { s with
                  throttle := s.throttle.recordFailureAt client now
                  logins := logins
                  windows :=
                    if s.throttle.opens client now then
                      Function.update s.windows client (some { started := now, wrong := 1 })
                    else s.windows }
            | .right =>
                some { s with
                  throttle := s.throttle.recordSuccess client
                  logins := logins
                  windows := Function.update s.windows client none }
            | .missing => some { s with logins := logins }
          else none
      | _ => none

/-- The logins of a client that have been admitted and not recorded. -/
def unrecorded (s : LoginServer) (client : IpAddr) : Nat :=
  s.logins.countP fun login => login.client = client

/-- Those whose wrong password has been verified. -/
def verifiedWrong (s : LoginServer) (client : IpAddr) : Nat :=
  s.logins.countP fun login =>
    login = { client := client, phase := .verified .wrong } ||
      login = { client := client, phase := .released .wrong }

/-- **A login is admitted only where the others leave room**: if others of its client are
unrecorded, these and the failures counted in the window are fewer than five. -/
def SurplusFree (s : LoginServer) : LoginAction → Prop
  | .begin client now => now ≤ s.clock → (s.throttle.begin client now).2.isOk →
      s.unrecorded client = 0 ∨
        s.throttle.recorded client s.clock + s.unrecorded client < loginMaxFailures
  | _ => True

/-- **At most five wrong passwords** are verified for a client in a window, in whatever order its
logins take their steps. -/
def Bounded (s : LoginServer) : Prop :=
  ∀ client window, s.windows client = some window → window.wrong ≤ loginMaxFailures

end LoginServer

/-- **The machine of the logins.** -/
def loginRequests : StateMachine LoginServer LoginAction where
  init s := s.throttle.failures = ∅ ∧ s.throttle.bcryptSlots = loginMaxConcurrent ∧
    s.logins = [] ∧ s.windows = fun _ => none
  step := LoginServer.step

/-! ## The bound

The invariant is about one client: the wrong passwords of its window are those that were recorded,
and those that are verified and still to be recorded.  Their number is bounded where admissions
are, and each step has a lemma. -/

/-- Counting with one element set apart. -/
theorem countP_eraseIdx {α : Type} {l : List α} {i : Nat} {x : α} (at_ : l[i]? = some x)
    (p : α → Bool) : l.countP p = (l.eraseIdx i).countP p + if p x then 1 else 0 := by
  obtain ⟨inside, rfl⟩ := List.getElem?_eq_some_iff.mp at_
  rw [← (List.getElem_cons_eraseIdx_perm inside).countP_eq, List.countP_cons]

namespace LoginServer

section Bound

variable {s t : LoginServer}

/-- **The invariant of a client**: its window is the one that is recorded, its wrong
passwords are recorded or still to be, and no more are under way than the bound leaves. -/
structure Accounted (s : LoginServer) (client : IpAddr) : Prop where
  started : ∀ attempt, s.throttle.failures.lookup client = some attempt →
    ∃ window, s.windows client = some window ∧ window.started = attempt.windowStarted
  open_ : ∀ window, s.windows client = some window →
    s.clock - window.started < loginFailureWindow →
      ∃ attempt, s.throttle.failures.lookup client = some attempt ∧
        window.wrong ≤ attempt.count + s.verifiedWrong client
  room : s.throttle.recorded client s.clock + s.unrecorded client ≤ loginMaxFailures
  bound : ∀ window, s.windows client = some window → window.wrong ≤ loginMaxFailures

/-- The failures recorded in an open window. -/
theorem recorded_of_open {throttle : LoginThrottle} {client : IpAddr} {attempt : FailedLogins}
    {clock : Nat} (held : throttle.failures.lookup client = some attempt)
    (live : clock - attempt.windowStarted < loginFailureWindow) :
    throttle.recorded client clock = attempt.count := by
  rw [LoginThrottle.recorded, held]
  have not_past : attempt.expired clock = false := by
    simp only [FailedLogins.expired, decide_eq_false_iff_not]
    omega
  simp only [not_past]
  rfl

theorem verifiedWrong_le_unrecorded (s : LoginServer) (client : IpAddr) :
    s.verifiedWrong client ≤ s.unrecorded client := by
  refine List.countP_mono_left fun login _ same => ?_
  simp only [Bool.or_eq_true, decide_eq_true_eq] at same ⊢
  rcases same with rfl | rfl <;> rfl

/-- A step that changes nothing the account of a client depends on. -/
theorem Accounted.congr {client : IpAddr} (inv : Accounted s client)
    (failures : t.throttle.failures.lookup client = s.throttle.failures.lookup client)
    (clock : t.clock = s.clock) (windows : t.windows client = s.windows client)
    (unrecorded : t.unrecorded client = s.unrecorded client)
    (verified : t.verifiedWrong client = s.verifiedWrong client) : Accounted t client := by
  have recorded : t.throttle.recorded client t.clock = s.throttle.recorded client s.clock := by
    rw [LoginThrottle.recorded, failures, clock, LoginThrottle.recorded]
  refine ⟨?_, ?_, ?_, ?_⟩
  · rw [failures, windows]
    exact inv.started
  · rw [failures, windows, clock, verified]
    exact inv.open_
  · rw [recorded, unrecorded]
    exact inv.room
  · rw [windows]
    exact inv.bound

theorem Accounted.tick {client : IpAddr} (inv : Accounted s client) (nanoseconds : Nat) :
    Accounted { s with clock := s.clock + nanoseconds } client where
  started := inv.started
  open_ window here live := inv.open_ window here (by
    have live : s.clock + nanoseconds - window.started < loginFailureWindow := live
    omega)
  room := by
    have before := inv.room
    have less : s.throttle.recorded client (s.clock + nanoseconds) ≤
        s.throttle.recorded client s.clock := by
      unfold LoginThrottle.recorded
      cases s.throttle.failures.lookup client with
      | none => exact Nat.le_refl 0
      | some attempt =>
          simp only
          cases past : attempt.expired s.clock with
          | true =>
              rw [if_pos (LoginThrottle.expired_mono (Nat.le_add_right _ _) past)]
              exact Nat.zero_le _
          | false =>
              split
              · exact Nat.zero_le _
              · exact Nat.le_refl _
    show s.throttle.recorded client (s.clock + nanoseconds) + s.unrecorded client ≤ _
    omega
  bound := inv.bound

/-- `begin` leaves every open window, and admits a login only where there is room. -/
theorem Accounted.begin {client client' : IpAddr} (inv : Accounted s client') {now : Nat}
    (behind : now ≤ s.clock) (spare : SurplusFree s (.begin client now)) {throttle : LoginThrottle}
    {admitted : List Login}
    (result : (s.throttle.begin client now).1 = throttle ∧
      (admitted = [] ∨ (s.throttle.begin client now).2.isOk = true ∧
        admitted = [{ client := client, phase := .admitted }])) :
    Accounted { s with throttle := throttle, logins := s.logins ++ admitted } client' := by
  obtain ⟨rfl, outcome⟩ := result
  obtain ⟨swept, few⟩ := s.throttle.begin_spec client now
  have verified : LoginServer.verifiedWrong
      { s with throttle := (s.throttle.begin client now).1, logins := s.logins ++ admitted }
        client' = s.verifiedWrong client' := by
    show List.countP _ (s.logins ++ admitted) = _
    rw [List.countP_append]
    rcases outcome with rfl | ⟨-, rfl⟩ <;> simp [verifiedWrong]
  refine ⟨fun attempt held => inv.started attempt (swept.old client' attempt held),
    fun window here live => ?_, ?_, inv.bound⟩
  · obtain ⟨attempt, held, wrong⟩ := inv.open_ window here live
    obtain ⟨_, here', started⟩ := inv.started attempt held
    obtain rfl := Option.some.inj (here.symm.trans here')
    refine ⟨attempt, swept.kept client' attempt held ?_, by rw [verified]; exact wrong⟩
    simp only [FailedLogins.expired, decide_eq_false_iff_not]
    have live : s.clock - window.started < loginFailureWindow := live
    omega
  · have before := inv.room
    show (s.throttle.begin client now).1.recorded client' s.clock +
      List.countP _ (s.logins ++ admitted) ≤ _
    rw [swept.recorded behind, List.countP_append]
    rcases outcome with rfl | ⟨ok, rfl⟩
    · exact before
    · by_cases same : client' = client
      · subst same
        have one : List.countP (fun login : Login => decide (login.client = client'))
            [{ client := client', phase := .admitted }] = 1 := by simp
        rw [one]
        rcases spare behind ok with alone | room
        · -- nothing of the client is under way: the check of the count leaves room
          have unheld : List.countP (fun login : Login => decide (login.client = client'))
              s.logins = 0 := alone
          rw [unheld]
          unfold LoginThrottle.recorded
          cases held : s.throttle.failures.lookup client' with
          | none => exact Nat.succ_pos 4
          | some attempt =>
              simp only
              split
              · exact Nat.succ_pos 4
              next live =>
                refine few ok attempt held (Bool.eq_false_iff.mpr fun past => live ?_)
                exact LoginThrottle.expired_mono behind past
        · exact room
      · have other : List.countP (fun login : Login => decide (login.client = client'))
            [{ client := client, phase := .admitted }] = 0 := by
          simpa using fun h : client = client' => same h.symm
        rw [other]
        exact before

section Moves

variable {logins : List Login} {i : Nat} {client : IpAddr} {phase : LoginPhase}

/-- One login has moved on: the count of a kind changes by what the login was and is. -/
theorem countP_move (at_ : logins[i]? = some ⟨client, phase⟩) (phase' : LoginPhase)
    (p : Login → Bool) :
    (logins.eraseIdx i ++ [Login.mk client phase']).countP p +
        (if p ⟨client, phase⟩ then 1 else 0) =
      logins.countP p + if p ⟨client, phase'⟩ then 1 else 0 := by
  rw [countP_eraseIdx at_, List.countP_append, List.countP_singleton]
  omega

/-- A login that has moved on is still unrecorded. -/
theorem unrecorded_move (at_ : s.logins[i]? = some ⟨client, phase⟩) (phase' : LoginPhase)
    (logins : s.logins.eraseIdx i ++ [Login.mk client phase'] = t.logins) (client' : IpAddr) :
    t.unrecorded client' = s.unrecorded client' := by
  have moved := countP_move at_ phase' fun login => decide (login.client = client')
  rw [logins] at moved
  simp only at moved
  exact Nat.add_right_cancel moved

/-- A verification adds to the verified ones what it finds wrong. -/
theorem verifiedWrong_verify (at_ : s.logins[i]? = some ⟨client, .admitted⟩)
    (outcome : Verification)
    (logins : s.logins.eraseIdx i ++ [Login.mk client (.verified outcome)] = t.logins)
    (client' : IpAddr) :
    t.verifiedWrong client' =
      s.verifiedWrong client' + if client = client' ∧ outcome = .wrong then 1 else 0 := by
  have moved := countP_move at_ (.verified outcome) fun login =>
    login = ⟨client', .verified .wrong⟩ || login = ⟨client', .released .wrong⟩
  rw [logins] at moved
  simpa [verifiedWrong] using moved

theorem verifiedWrong_release {outcome : Verification}
    (at_ : s.logins[i]? = some ⟨client, .verified outcome⟩)
    (logins : s.logins.eraseIdx i ++ [Login.mk client (.released outcome)] = t.logins)
    (client' : IpAddr) : t.verifiedWrong client' = s.verifiedWrong client' := by
  have moved := countP_move at_ (.released outcome) fun login =>
    login = ⟨client', .verified .wrong⟩ || login = ⟨client', .released .wrong⟩
  rw [logins] at moved
  simpa [verifiedWrong] using moved

/-- A login that is over is no longer unrecorded. -/
theorem unrecorded_erase (at_ : s.logins[i]? = some ⟨client, phase⟩)
    (logins : s.logins.eraseIdx i = t.logins) (client' : IpAddr) :
    s.unrecorded client' = t.unrecorded client' + if client = client' then 1 else 0 := by
  have apart := countP_eraseIdx at_ fun login => decide (login.client = client')
  rw [logins] at apart
  simpa [unrecorded] using apart

theorem verifiedWrong_erase (at_ : s.logins[i]? = some ⟨client, phase⟩)
    (logins : s.logins.eraseIdx i = t.logins) (client' : IpAddr) :
    s.verifiedWrong client' = t.verifiedWrong client' +
      if client = client' ∧ (phase = .verified .wrong ∨ phase = .released .wrong)
        then 1 else 0 := by
  have apart := countP_eraseIdx at_ fun login =>
    login = ⟨client', .verified .wrong⟩ || login = ⟨client', .released .wrong⟩
  rw [logins] at apart
  have same : (client = client' ∧ phase = .verified .wrong ∨
      client = client' ∧ phase = .released .wrong) ↔
        client = client' ∧ (phase = .verified .wrong ∨ phase = .released .wrong) :=
    and_or_left.symm
  simpa [verifiedWrong, same] using apart

/-- A wrong password that is being verified has its place among the unrecorded. -/
theorem verifiedWrong_lt_unrecorded (at_ : s.logins[i]? = some ⟨client, .admitted⟩) :
    s.verifiedWrong client < s.unrecorded client := by
  have rest : ∀ t : LoginServer, s.logins.eraseIdx i = t.logins →
      s.verifiedWrong client < s.unrecorded client := by
    intro t same
    have all := unrecorded_erase at_ same client
    have wrong := verifiedWrong_erase at_ same client
    have less := verifiedWrong_le_unrecorded t client
    rw [if_pos rfl] at all
    rw [if_neg (by simp)] at wrong
    omega
  exact rest { logins := s.logins.eraseIdx i } rfl

end Moves

/-- In an open window, what has been found wrong is counted or still to be. -/
theorem Accounted.live {client : IpAddr} (inv : Accounted s client) {window : Window}
    (here : s.windows client = some window)
    (live : s.clock - window.started < loginFailureWindow) :
    ∃ attempt, s.throttle.failures.lookup client = some attempt ∧
      attempt.windowStarted = window.started ∧
      window.wrong ≤ attempt.count + s.verifiedWrong client ∧
      attempt.count + s.unrecorded client ≤ loginMaxFailures := by
  obtain ⟨attempt, held, wrong⟩ := inv.open_ window here live
  obtain ⟨window', here', started⟩ := inv.started attempt held
  obtain rfl := Option.some.inj (here.symm.trans here')
  have room := inv.room
  rw [recorded_of_open held (by rw [← started]; exact live)] at room
  exact ⟨attempt, held, started.symm, wrong, room⟩

/-- A verification: a wrong password counts in the open window of its client. -/
theorem Accounted.verify {client client' : IpAddr} {i : Nat}
    (at_ : s.logins[i]? = some ⟨client, .admitted⟩) (inv : Accounted s client')
    (outcome : Verification) :
    Accounted
      { s with
        logins := s.logins.eraseIdx i ++ [⟨client, .verified outcome⟩]
        windows :=
          if outcome = .wrong then
            Function.update s.windows client
              ((s.windows client).map fun window => window.verify s.clock)
          else s.windows } client' := by
  have unrecorded := fun t same => unrecorded_move (t := t) at_ (.verified outcome) same client'
  have verified := fun t same => verifiedWrong_verify (t := t) at_ outcome same client'
  by_cases here : client = client' ∧ outcome = .wrong
  · obtain ⟨rfl, rfl⟩ := here
    have more := verifiedWrong_lt_unrecorded at_
    simp only [if_true]
    have updated : ∀ window,
        Function.update s.windows client
          ((s.windows client).map fun window => window.verify s.clock) client = some window →
          ∃ before, s.windows client = some before ∧ before.verify s.clock = window := by
      intro window same
      rw [Function.update_self] at same
      exact Option.map_eq_some_iff.mp same
    have started : ∀ window : Window, (window.verify s.clock).started = window.started := by
      intro window
      rw [Window.verify]
      split <;> rfl
    refine ⟨fun attempt held => ?_, fun window same live => ?_, ?_, fun window same => ?_⟩
    · obtain ⟨window, same, start⟩ := inv.started attempt held
      refine ⟨window.verify s.clock, ?_, (started window).trans start⟩
      show Function.update s.windows client _ client = _
      rw [Function.update_self, same]
      rfl
    · obtain ⟨before, held, rfl⟩ := updated window same
      have live : s.clock - (before.verify s.clock).started < loginFailureWindow := live
      rw [started] at live
      obtain ⟨attempt, counted, -, wrong, -⟩ := inv.live held live
      refine ⟨attempt, counted, ?_⟩
      rw [verified _ rfl, Window.verify, if_neg (Nat.not_le.mpr live), if_pos ⟨rfl, rfl⟩]
      show before.wrong + 1 ≤ _
      omega
    · rw [unrecorded _ rfl]
      exact inv.room
    · obtain ⟨before, held, rfl⟩ := updated window same
      have bound := inv.bound before held
      rw [Window.verify]
      split
      · exact bound
      next live =>
        obtain ⟨attempt, -, -, wrong, room⟩ := inv.live held (Nat.not_le.mp live)
        show before.wrong + 1 ≤ _
        omega
  · refine inv.congr rfl rfl ?_ (unrecorded _ rfl) ?_
    · show (if _ then Function.update _ _ _ else _) client' = _
      split
      next wrong => exact Function.update_of_ne (fun same => here ⟨same.symm, wrong⟩) ..
      next => rfl
    · rw [verified _ rfl, if_neg here, Nat.add_zero]

/-- Giving the permit back. -/
theorem Accounted.release {client client' : IpAddr} {i : Nat} {outcome : Verification}
    (at_ : s.logins[i]? = some ⟨client, .verified outcome⟩) (inv : Accounted s client') :
    Accounted
      { s with
        throttle := freed s.throttle
        logins := s.logins.eraseIdx i ++ [⟨client, .released outcome⟩] } client' :=
  inv.congr rfl rfl rfl (unrecorded_move at_ _ rfl client') (verifiedWrong_release at_ rfl client')

/-- A login that ends without a record of a wrong password. -/
theorem Accounted.leave {client client' : IpAddr} {i : Nat} {phase : LoginPhase}
    (at_ : s.logins[i]? = some ⟨client, phase⟩)
    (other : phase ≠ .verified .wrong ∧ phase ≠ .released .wrong) (inv : Accounted s client')
    {throttle : LoginThrottle}
    (failures : throttle.failures.lookup client' = s.throttle.failures.lookup client') :
    Accounted { s with throttle := throttle, logins := s.logins.eraseIdx i } client' := by
  let t : LoginServer := { s with throttle := throttle, logins := s.logins.eraseIdx i }
  have fewer := unrecorded_erase (t := t) at_ rfl client'
  have same := verifiedWrong_erase (t := t) at_ rfl client'
  rw [if_neg fun both => both.2.elim other.1 other.2, Nat.add_zero] at same
  refine ⟨?_, ?_, ?_, inv.bound⟩
  · show ∀ attempt, throttle.failures.lookup client' = some attempt → _
    rw [failures]
    exact inv.started
  · intro window here live
    show ∃ attempt, throttle.failures.lookup client' = some attempt ∧ _
    rw [failures, ← same]
    exact inv.open_ window here live
  · have room := inv.room
    have recorded : throttle.recorded client' s.clock = s.throttle.recorded client' s.clock := by
      rw [LoginThrottle.recorded, failures, LoginThrottle.recorded]
    show throttle.recorded client' s.clock + t.unrecorded client' ≤ _
    rw [recorded]
    omega

/-- The record of a success closes the window. -/
theorem Accounted.succeed {client client' : IpAddr} {i : Nat}
    (at_ : s.logins[i]? = some ⟨client, .released .right⟩) (inv : Accounted s client') :
    Accounted
      { s with
        throttle := s.throttle.recordSuccess client
        logins := s.logins.eraseIdx i
        windows := Function.update s.windows client none } client' := by
  by_cases here : client' = client
  · subst here
    have gone : (s.throttle.recordSuccess client').failures.lookup client' = none :=
      AList.lookup_erase ..
    have closed : ∀ window, Function.update s.windows client' none client' ≠ some window := by
      intro window held
      rw [Function.update_self] at held
      cases held
    refine ⟨fun attempt held => ?_, fun window held => absurd held (closed window), ?_,
      fun window held => absurd held (closed window)⟩
    · have held : (s.throttle.recordSuccess client').failures.lookup client' = some attempt := held
      rw [gone] at held
      cases held
    · have room := inv.room
      have fewer := unrecorded_erase
        (t := { s with
          throttle := s.throttle.recordSuccess client'
          logins := s.logins.eraseIdx i
          windows := Function.update s.windows client' none }) at_ rfl client'
      show (s.throttle.recordSuccess client').recorded client' s.clock + _ ≤ _
      rw [LoginThrottle.recorded, gone]
      simp only
      omega
  · have failures : (s.throttle.recordSuccess client).failures.lookup client' =
        s.throttle.failures.lookup client' := AList.lookup_erase_ne here
    have left := inv.leave at_ (by simp) failures
    exact left.congr rfl rfl (Function.update_of_ne here ..) rfl rfl

/-- A failure that opens a window: the one failure of the window is recorded. -/
theorem Accounted.opened {client : IpAddr} {now : Nat} (inv : Accounted s client)
    (opens : s.throttle.opens client now = true)
    (throttle : t.throttle = s.throttle.recordFailureAt client now)
    (windows : t.windows client = some { started := now, wrong := 1 })
    (fewer : s.unrecorded client = t.unrecorded client + 1) : Accounted t client := by
  have entry := LoginThrottle.lookup_recordFailureAt_of_opens opens
  refine ⟨?_, ?_, ?_, ?_⟩
  · intro attempt held
    rw [throttle, entry] at held
    obtain rfl := Option.some.inj held
    exact ⟨_, windows, rfl⟩
  · intro window held _
    rw [windows] at held
    obtain rfl := Option.some.inj held
    rw [throttle, entry]
    exact ⟨_, rfl, Nat.le_add_right 1 _⟩
  · have one : t.throttle.recorded client t.clock ≤ 1 := by
      rw [LoginThrottle.recorded, throttle, entry]
      simp only
      split
      · exact Nat.zero_le 1
      · exact Nat.le_refl 1
    have room := inv.room
    omega
  · intro window held
    rw [windows] at held
    obtain rfl := Option.some.inj held
    exact Nat.succ_le_succ (Nat.zero_le 4)

/-- A failure in a window there is: it is recorded, and is no longer among the verified. -/
theorem Accounted.counted {client : IpAddr} {now : Nat} (inv : Accounted s client)
    (opens : s.throttle.opens client now = false)
    (throttle : t.throttle = s.throttle.recordFailureAt client now) (clock : t.clock = s.clock)
    (windows : t.windows = s.windows)
    (fewer : s.unrecorded client = t.unrecorded client + 1)
    (verified : s.verifiedWrong client = t.verifiedWrong client + 1) : Accounted t client := by
  obtain ⟨attempt, before, entry⟩ := LoginThrottle.lookup_recordFailureAt_of_not_opens opens
  have room := inv.room
  refine ⟨?_, ?_, ?_, ?_⟩
  · intro attempt' held
    rw [throttle, entry] at held
    obtain rfl := Option.some.inj held
    rw [windows]
    exact inv.started attempt before
  · intro window held live
    rw [windows] at held
    rw [clock] at live
    obtain ⟨attempt', before', -, wrong, fits⟩ := inv.live held live
    obtain rfl := Option.some.inj (before.symm.trans before')
    rw [throttle, entry]
    refine ⟨_, rfl, ?_⟩
    have five : loginMaxFailures = 5 := rfl
    show window.wrong ≤ min (attempt.count + 1) 255 + _
    omega
  · have recorded : t.throttle.recorded client t.clock ≤
        s.throttle.recorded client s.clock + 1 := by
      rw [LoginThrottle.recorded, throttle, entry, clock, LoginThrottle.recorded, before]
      simp only
      have same : FailedLogins.expired
          { attempt with count := min (attempt.count + 1) 255 } s.clock =
            attempt.expired s.clock := rfl
      rw [same]
      split
      · exact Nat.zero_le _
      · exact Nat.min_le_left ..
    omega
  · rw [windows]
    exact inv.bound

/-- The record of a failure: it opens a window, or counts in the one there is. -/
theorem Accounted.record {client client' : IpAddr} {i now : Nat}
    (at_ : s.logins[i]? = some ⟨client, .released .wrong⟩) (inv : Accounted s client') :
    Accounted
      { s with
        throttle := s.throttle.recordFailureAt client now
        logins := s.logins.eraseIdx i
        windows :=
          if s.throttle.opens client now then
            Function.update s.windows client (some { started := now, wrong := 1 })
          else s.windows } client' := by
  generalize next : LoginServer.mk (s.throttle.recordFailureAt client now)
    (s.logins.eraseIdx i) s.clock (if s.throttle.opens client now then
      Function.update s.windows client (some { started := now, wrong := 1 })
      else s.windows) = t
  have logins : s.logins.eraseIdx i = t.logins := by rw [← next]
  have throttle : t.throttle = s.throttle.recordFailureAt client now := by rw [← next]
  have clock : t.clock = s.clock := by rw [← next]
  have windows : t.windows = if s.throttle.opens client now then
      Function.update s.windows client (some { started := now, wrong := 1 })
      else s.windows := by rw [← next]
  have fewer := unrecorded_erase at_ logins client'
  have verified := verifiedWrong_erase at_ logins client'
  by_cases here : client = client'
  · subst here
    rw [if_pos rfl] at fewer
    rw [if_pos ⟨rfl, Or.inr rfl⟩] at verified
    cases opens : s.throttle.opens client now with
    | true =>
        rw [opens, if_pos rfl] at windows
        exact inv.opened opens throttle (by rw [windows, Function.update_self]) fewer
    | false =>
        rw [opens, if_neg Bool.false_ne_true] at windows
        exact inv.counted opens throttle clock windows fewer verified
  · have failures : t.throttle.failures.lookup client' =
        s.throttle.failures.lookup client' := by
      rw [throttle]
      exact AList.lookup_insert_ne fun same => here same.symm
    rw [if_neg here, Nat.add_zero] at fewer
    rw [if_neg fun both => here both.1, Nat.add_zero] at verified
    refine inv.congr failures clock ?_ fewer.symm verified.symm
    rw [windows]
    split
    · exact Function.update_of_ne (fun same => here same.symm) ..
    · rfl

/-- **One step** that admits no login beyond the room there is keeps the accounts. -/
theorem accounted_step {a : LoginAction} (inv : ∀ client, Accounted s client)
    (spare : SurplusFree s a) (step : s.step a = some t) : ∀ client, Accounted t client := by
  intro client'
  cases a with
  | tick nanoseconds =>
      cases step
      exact (inv client').tick nanoseconds
  | begin client now =>
      simp only [LoginServer.step] at step
      split at step
      next behind =>
        rcases result : s.throttle.begin client now with ⟨throttle, seconds | ⟨⟨⟩⟩⟩
        · rw [result] at step
          cases step
          have kept := (inv client').begin behind spare
            ⟨congrArg Prod.fst result, Or.inl rfl⟩
          rwa [List.append_nil] at kept
        · rw [result] at step
          cases step
          exact (inv client').begin behind spare
            ⟨congrArg Prod.fst result, Or.inr ⟨by rw [result]; rfl, rfl⟩⟩
      next => cases step
  | verify i outcome =>
      simp only [LoginServer.step] at step
      split at step
      next client at_ =>
        cases step
        exact (inv client').verify at_ outcome
      next => cases step
  | fail i =>
      simp only [LoginServer.step] at step
      split at step
      next client at_ =>
        cases step
        exact (inv client').leave at_ (by simp) rfl
      next => cases step
  | release i =>
      simp only [LoginServer.step] at step
      split at step
      next client outcome at_ =>
        cases step
        exact (inv client').release at_
      next => cases step
  | record i now =>
      simp only [LoginServer.step] at step
      split at step
      next client outcome at_ =>
        split at step
        next =>
          cases outcome with
          | wrong =>
              cases step
              exact (inv client').record at_
          | right =>
              cases step
              exact (inv client').succeed at_
          | missing =>
              cases step
              exact (inv client').leave at_ (by simp) rfl
        next => cases step
      next => cases step

end Bound

/-- A server right after its start. -/
theorem accounted_init {s : LoginServer} (start : loginRequests.init s) (client : IpAddr) :
    Accounted s client := by
  obtain ⟨failures, -, idle, closed⟩ := start
  have no_window : ∀ window, s.windows client ≠ some window := by
    intro window held
    rw [closed] at held
    cases held
  refine ⟨fun attempt held => ?_, fun window held => absurd held (no_window window), ?_,
    fun window held => absurd held (no_window window)⟩
  · rw [failures, AList.lookup_empty] at held
    cases held
  · rw [LoginThrottle.recorded, failures, AList.lookup_empty, unrecorded, idle]
    exact Nat.zero_le _

/-- **The bound on wrong passwords** holds in every state of every run that admits no login
beyond the room its unrecorded ones leave. -/
theorem wrong_le_of_surplusFree {s : LoginServer} (start : loginRequests.init s)
    {acts : List LoginAction} (meets : loginRequests.StepsMeet SurplusFree s acts) :
    loginRequests.Always Bounded s acts :=
  loginRequests.always_of_stepsMeet (fun _ _ _ inv spare step => accounted_step inv spare step)
    (fun _ inv client => (inv client).bound) (accounted_init start) meets

/-- A login with a wrong password. -/
def guess (client : IpAddr) : List LoginAction :=
  [.begin client 0, .verify 0 .wrong, .release 0, .record 0 0]

/-- A login with a wrong password that has given its permit back and is not recorded;
`i` others are before it. -/
def unrecordedGuess (client : IpAddr) (i : Nat) : List LoginAction :=
  [.begin client 0, .verify i .wrong, .release i]

/-- Two logins with wrong passwords that overlap: the second is admitted while the first, which
has given its permit back, is still to be recorded. -/
def overlappingGuesses : List LoginAction :=
  unrecordedGuess (.v4 0) 0 ++ unrecordedGuess (.v4 0) 1 ++ [.record 0 0, .record 0 0]

/-- The second login is admitted because one unrecorded login leaves room for it. -/
theorem wrong_le_of_surplusFree_overlapping :
    loginRequests.Always Bounded {} overlappingGuesses := by
  refine wrong_le_of_surplusFree ⟨rfl, rfl, rfl, rfl⟩ ?_
  refine (StateMachine.stepsMeet_cons _ rfl).mpr ⟨fun _ _ => Or.inl rfl, ?_⟩
  refine (StateMachine.stepsMeet_cons _ rfl).mpr ⟨trivial, ?_⟩
  refine (StateMachine.stepsMeet_cons _ rfl).mpr ⟨trivial, ?_⟩
  refine (StateMachine.stepsMeet_cons _ rfl).mpr ⟨fun _ _ => Or.inr (by decide +kernel), ?_⟩
  refine (StateMachine.stepsMeet_cons _ rfl).mpr ⟨trivial, ?_⟩
  refine (StateMachine.stepsMeet_cons _ rfl).mpr ⟨trivial, ?_⟩
  refine (StateMachine.stepsMeet_cons _ rfl).mpr ⟨trivial, ?_⟩
  exact (StateMachine.stepsMeet_cons _ rfl).mpr ⟨trivial, trivial⟩

/-- One failure is recorded; then six wrong passwords are verified, each after the permit
of the one before was given back, and none is recorded yet. -/
theorem not_bounded_unrecorded :
    loginRequests.init {} ∧
      ∃ t, loginRequests.exec {}
          (guess (.v4 0) ++ (List.range 6).flatMap (unrecordedGuess (.v4 0))) = some t ∧
        t.windows (.v4 0) = some { started := 0, wrong := 1 + 6 } ∧ ¬ Bounded t := by
  refine ⟨⟨rfl, rfl, rfl, rfl⟩, ?_⟩
  have ends : (loginRequests.exec {} (guess (.v4 0) ++
      (List.range 6).flatMap (unrecordedGuess (.v4 0)))).map (fun t => t.windows (.v4 0)) =
        some (some { started := 0, wrong := 1 + 6 }) := by
    decide +kernel
  obtain ⟨t, run, window⟩ := Option.map_eq_some_iff.mp ends
  refine ⟨t, run, window, fun bounded => ?_⟩
  exact absurd (bounded (.v4 0) _ window) (by decide)

end LoginServer

end RustBlocker
