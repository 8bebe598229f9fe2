import RustBlocker.LoginThrottle

/-!
# Lockouts

What the throttle owes a client that has failed five times, over every sequence of calls by any
clients.  The specification keeps one `Account` a client: when its last window was opened, and how
many failures it has seen.  It has no table, no limit and no eviction, and its count does not
saturate.

`Tracks` relates the table to the accounts.  An entry may be gone, but only after its window is
over; an entry that is there is that of the account.  Every call keeps this, so a lockout lasts as
long as its window, however full the table is; and once the window is over a refusal has another
reason, a later window or a table full of other clients.

The calls are those of `LoginThrottle` itself, each with the time it reads, and they come in the
order of their times.  A login that reads the clock before it has the mutex may be late; the
machine in `LoginThrottle` has such logins.

The account of a client is a fold over its own calls.  That the calls of other clients do not
enter it is the point: all clients share one table of a limited size, and with another sweep the
lockout of a client could be cut short by the failures of others.
-/

namespace RustBlocker

namespace LoginThrottle

/-- A call to the throttle: a login that begins, and the two records of how it ended. -/
inductive ThrottleCall where
  | begin (client : IpAddr)
  | recordFailure (client : IpAddr)
  | recordSuccess (client : IpAddr)
deriving DecidableEq, Repr

/-- A call at the time its clock reads. -/
def serveCall (throttle : LoginThrottle) : Nat × ThrottleCall → LoginThrottle
  | (now, .begin client) => (throttle.begin client now).1
  | (now, .recordFailure client) => throttle.recordFailureAt client now
  | (_, .recordSuccess client) => throttle.recordSuccess client

/-- `LoginThrottle::new`, and the calls in order. -/
def afterCalls (calls : List (Nat × ThrottleCall)) : LoginThrottle := calls.foldl serveCall {}

/-! ## The accounts -/

/-- The last window of a client: when it was opened, and the failures in it, without a bound. -/
structure Account where
  started : Nat
  failures : Nat
deriving DecidableEq, Repr

namespace Account

/-- The window is not over. -/
def OpenAt (account : Account) (now : Nat) : Prop := now < account.started + loginFailureWindow

instance (account : Account) (now : Nat) : Decidable (account.OpenAt now) :=
  inferInstanceAs (Decidable (_ < _))

/-- The entry of the account, as the table keeps it. -/
def entry (account : Account) : FailedLogins where
  count := min account.failures 255
  windowStarted := account.started

theorem expired_entry {account : Account} {now : Nat} :
    account.entry.expired now = false ↔ account.OpenAt now := by
  have long : 0 < loginFailureWindow := by decide
  rw [FailedLogins.expired, decide_eq_false_iff_not]
  simp only [entry, OpenAt]
  omega

theorem OpenAt.earlier {account : Account} {now clock : Nat} (stands : account.OpenAt clock)
    (behind : now ≤ clock) : account.OpenAt now := Nat.lt_of_le_of_lt behind stands

end Account

/-- A failure counts in the open window, or opens one. -/
def fail (account : Option Account) (now : Nat) : Account :=
  match account with
  | none => ⟨now, 1⟩
  | some account =>
      if account.OpenAt now then { account with failures := account.failures + 1 } else ⟨now, 1⟩

/-- What a call does to the account of a client. -/
def note (client : IpAddr) (account : Option Account) :
    Nat × ThrottleCall → Option Account
  | (_, .begin _) => account
  | (now, .recordFailure client') => if client' = client then some (fail account now) else account
  | (_, .recordSuccess client') => if client' = client then none else account

/-- The account of a client after some calls. -/
def accountOf (calls : List (Nat × ThrottleCall)) (client : IpAddr) : Option Account :=
  calls.foldl (note client) none

/-! ## The table tracks the accounts

A call sweeps the table, looks at the entry of its client and may write it.  Only windows that are
over are swept away, and from there the relation between the table and the accounts goes through.
-/

/-- Each entry is that of its account, and each account whose window is open has its entry.  Of a
window that is over the table may have the entry or not. -/
structure Tracks (throttle : LoginThrottle) (accounts : IpAddr → Option Account)
    (now : Nat) : Prop where
  known : ∀ client attempt, throttle.failures.lookup client = some attempt →
    ∃ account, accounts client = some account ∧ attempt = account.entry
  kept : ∀ client account, accounts client = some account → account.OpenAt now →
    throttle.failures.lookup client = some account.entry

section Tracking

variable {throttle throttle' : LoginThrottle} {accounts : IpAddr → Option Account}
variable {now clock : Nat} {client : IpAddr}

/-- Entries of windows that are over may go. -/
theorem Tracks.swept (tracks : Tracks throttle accounts now) (behind : now ≤ clock)
    (swept : Swept clock throttle throttle') : Tracks throttle' accounts clock where
  known client attempt held := tracks.known client attempt (swept.old client attempt held)
  kept client account here stands :=
    swept.kept client account.entry (tracks.kept client account here (stands.earlier behind))
      (Account.expired_entry.mpr stands)

/-- A failure of the client leads its entry to that of its account. -/
theorem Tracks.lookup_recordFailureAt (tracks : Tracks throttle accounts now)
    (behind : now ≤ clock) (client : IpAddr) :
    (throttle.recordFailureAt client clock).failures.lookup client =
      some (fail (accounts client) clock).entry := by
  by_cases stands : ∃ account, accounts client = some account ∧ account.OpenAt clock
  · obtain ⟨account, here, stands⟩ := stands
    have held := tracks.kept client account here (stands.earlier behind)
    have live : throttle.opens client clock = false := by
      rw [opens, held]
      exact Account.expired_entry.mpr stands
    obtain ⟨attempt, held', after⟩ := lookup_recordFailureAt_of_not_opens live
    rw [held] at held'
    cases held'
    rw [after, here, fail, if_pos stands]
    simp only [Account.entry]
    congr 2
    omega
  · have fresh : fail (accounts client) clock = ⟨clock, 1⟩ := by
      cases here : accounts client with
      | none => rfl
      | some account => exact if_neg fun open_ => stands ⟨account, here, open_⟩
    have past : throttle.opens client clock = true := by
      unfold opens
      cases held : throttle.failures.lookup client with
      | none => rfl
      | some attempt =>
          obtain ⟨account, here, rfl⟩ := tracks.known client attempt held
          show account.entry.expired clock = true
          rw [← Bool.not_eq_false, Account.expired_entry]
          exact fun open_ => stands ⟨account, here, open_⟩
    rw [lookup_recordFailureAt_of_opens past, fresh]
    rfl

/-- **A call keeps the table in step with the accounts.** -/
theorem Tracks.serveCall (tracks : Tracks throttle accounts now) (call : Nat × ThrottleCall)
    (behind : now ≤ call.1) :
    Tracks (throttle.serveCall call) (fun client => note client (accounts client) call) call.1 := by
  obtain ⟨clock, call⟩ := call
  cases call with
  | begin client => exact tracks.swept behind (begin_spec throttle client clock).1
  | recordFailure client =>
      have here := tracks.lookup_recordFailureAt behind client
      have other : ∀ client', client' ≠ client →
          (throttle.recordFailureAt client clock).failures.lookup client' =
            throttle.failures.lookup client' :=
        fun client' differs => AList.lookup_insert_ne differs
      constructor
      · intro client' attempt held
        by_cases same : client' = client
        · subst same
          simp only [LoginThrottle.serveCall] at held
          rw [here] at held
          exact ⟨_, if_pos rfl, (Option.some.inj held).symm⟩
        · simp only [LoginThrottle.serveCall] at held
          rw [other client' same] at held
          obtain ⟨account, there, entry⟩ := tracks.known client' attempt held
          exact ⟨account, (if_neg (Ne.symm same)).trans there, entry⟩
      · intro client' account there stands
        simp only [LoginThrottle.serveCall]
        by_cases same : client' = client
        · subst same
          rw [here]
          simp only [note, if_true] at there
          rw [Option.some.inj there]
        · rw [other client' same]
          simp only [note, Ne.symm same, if_false] at there
          exact tracks.kept client' account there (stands.earlier behind)
  | recordSuccess client =>
      constructor
      · intro client' attempt held
        simp only [LoginThrottle.serveCall, recordSuccess] at held
        by_cases same : client' = client
        · rw [same, AList.lookup_erase] at held
          cases held
        · rw [AList.lookup_erase_ne same] at held
          obtain ⟨account, there, entry⟩ := tracks.known client' attempt held
          exact ⟨account, (if_neg (Ne.symm same)).trans there, entry⟩
      · intro client' account there stands
        simp only [LoginThrottle.serveCall, recordSuccess]
        by_cases same : client' = client
        · simp only [note, same, if_true] at there
          cases there
        · rw [AList.lookup_erase_ne same]
          simp only [note, Ne.symm same, if_false] at there
          exact tracks.kept client' account there (stands.earlier behind)

/-- Calls in the order of their times keep the table in step, also until a later time. -/
theorem Tracks.foldl (tracks : Tracks throttle accounts now) {calls : List (Nat × ThrottleCall)}
    (ordered : (now :: (calls.map Prod.fst ++ [clock])).Pairwise (· ≤ ·)) :
    Tracks (calls.foldl LoginThrottle.serveCall throttle)
      (fun client => calls.foldl (note client) (accounts client)) clock := by
  induction calls generalizing throttle accounts now with
  | nil =>
      have behind : now ≤ clock := (List.pairwise_cons.mp ordered).1 clock (by simp)
      exact tracks.swept behind (.refl clock throttle)
  | cons call rest ih =>
      obtain ⟨first, ordered⟩ := List.pairwise_cons.mp ordered
      exact ih (tracks.serveCall call (first call.1 (by simp))) ordered

end Tracking

/-- **The table tracks the accounts after every sequence of calls.** -/
theorem tracks_afterCalls {calls : List (Nat × ThrottleCall)} {clock : Nat}
    (ordered : (calls.map Prod.fst ++ [clock]).Pairwise (· ≤ ·)) :
    Tracks (afterCalls calls) (accountOf calls) clock := by
  have empty : Tracks {} (fun _ => none) 0 :=
    { known := fun client attempt held => by cases held
      kept := fun client account here => by cases here }
  exact empty.foldl (List.pairwise_cons.mpr ⟨fun _ _ => Nat.zero_le _, ordered⟩)

/-! ## Refusals

A refusal has one of two reasons: an open window with five failures, or a table that is full of
open windows of others. -/

section Refusals

variable {throttle : LoginThrottle} {accounts : IpAddr → Option Account} {clock : Nat}
variable {client : IpAddr}

/-- A client with five failures in an open window is refused for what is left of it. -/
theorem Tracks.refuses {account : Account} (tracks : Tracks throttle accounts clock)
    (here : accounts client = some account) (stands : account.OpenAt clock)
    (five : loginMaxFailures ≤ account.failures) :
    (throttle.retryAfterAt client clock).2 =
      some (max ((loginFailureWindow - (clock - account.started)) / 10 ^ 9) 1) := by
  have held := (swept_sweep throttle clock).kept client account.entry
    (tracks.kept client account here stands) (Account.expired_entry.mpr stands)
  have counted : loginMaxFailures ≤ account.entry.count := le_min five (by decide)
  unfold retryAfterAt
  simp only [held, Account.expired_entry.mpr stands, Bool.false_eq_true, if_false, counted,
    if_true]
  rfl

/-- A table that is full after it was swept is full of open windows. -/
theorem Tracks.full_sweep (tracks : Tracks throttle accounts clock)
    (full : loginMaxTrackedClients ≤ (throttle.sweep clock).failures.entries.length) :
    ∀ other attempt, (throttle.sweep clock).failures.lookup other = some attempt →
      ∃ account, accounts other = some account ∧ account.OpenAt clock := by
  intro other attempt held
  by_cases crowded : loginMaxTrackedClients ≤ throttle.failures.entries.length
  · rw [sweep, if_pos crowded] at held
    obtain ⟨before, live⟩ := Failures.lookup_retain.mp held
    obtain ⟨account, there, rfl⟩ := tracks.known other attempt before
    exact ⟨account, there, Account.expired_entry.mp (by simpa using live)⟩
  · rw [sweep, if_neg crowded] at full
    exact absurd full crowded

/-- **Why a client is refused**: for five failures in a window that is open, or
because the table is full of other clients with open windows. -/
theorem Tracks.refused {seconds : Nat} (tracks : Tracks throttle accounts clock)
    (refused : (throttle.retryAfterAt client clock).2 = some seconds) :
    (∃ account, accounts client = some account ∧ account.OpenAt clock ∧
      loginMaxFailures ≤ account.failures) ∨
    (seconds = 60 ∧ ∃ others : Finset IpAddr, client ∉ others ∧
      loginMaxTrackedClients ≤ others.card ∧
      ∀ other ∈ others, ∃ account, accounts other = some account ∧ account.OpenAt clock) := by
  have tracked := tracks.swept (Nat.le_refl clock) (swept_sweep throttle clock)
  unfold retryAfterAt at refused
  simp only at refused
  cases held : (throttle.sweep clock).failures.lookup client with
  | none =>
      simp only [held, admitTracked, Option.isNone_none, Bool.true_and, decide_eq_true_eq,
        Option.ite_none_right_eq_some, Option.some.injEq] at refused
      obtain ⟨full, rfl⟩ := refused
      refine Or.inr ⟨by decide, (throttle.sweep clock).failures.keys.toFinset, ?_, ?_, ?_⟩
      · rw [List.mem_toFinset, ← AList.mem_keys, ← AList.lookup_isSome, held]
        exact Bool.false_ne_true
      · rw [List.toFinset_card_of_nodup (throttle.sweep clock).failures.keys_nodup]
        simpa [AList.keys, List.keys] using full
      · intro other mem
        rw [List.mem_toFinset, ← AList.mem_keys, ← AList.lookup_isSome,
          Option.isSome_iff_exists] at mem
        obtain ⟨attempt, there⟩ := mem
        exact tracks.full_sweep full other attempt there
  | some attempt =>
      obtain ⟨account, here, rfl⟩ := tracked.known client attempt held
      simp only [held] at refused
      split at refused
      next past =>
        -- The table was full before the entry went, so it had been swept of it.
        exfalso
        simp only [admitTracked, Option.ite_none_right_eq_some, Bool.and_eq_true,
          decide_eq_true_eq] at refused
        have shorter : ((throttle.sweep clock).failures.erase client).entries.length ≤
            (throttle.sweep clock).failures.entries.length := by
          exact (List.kerase_sublist client _).length_le
        obtain ⟨account', there, stands⟩ :=
          tracks.full_sweep (refused.1.2.trans shorter) client _ held
        rw [here] at there
        cases there
        rw [Account.expired_entry.mpr stands] at past
        cases past
      next live =>
        split at refused
        next many =>
          exact Or.inl ⟨account, here, Account.expired_entry.mp (Bool.eq_false_iff.mpr live),
            many.trans (min_le_left ..)⟩
        next few =>
          simp [admitTracked, held] at refused

end Refusals

/-! ## The lockout

The first part is that an open window with five failures stays, whatever the others do.  The
second is the list of reasons above, at a time when the window is over. -/

/-- An account with an open window keeps it, and loses no failure, as long as no
success of the client is recorded. -/
theorem accountOf_keeps {client : IpAddr} {account : Account}
    {rest : List (Nat × ThrottleCall)} (stands : ∀ call ∈ rest, account.OpenAt call.1)
    (unpardoned : ∀ now, (now, ThrottleCall.recordSuccess client) ∉ rest) :
    ∃ failures, account.failures ≤ failures ∧
      rest.foldl (note client) (some account) = some { account with failures } := by
  induction rest generalizing account with
  | nil => exact ⟨account.failures, Nat.le_refl _, rfl⟩
  | cons call rest ih =>
      obtain ⟨now, call⟩ := call
      have later : ∀ now, (now, ThrottleCall.recordSuccess client) ∉ rest :=
        fun now mem => unpardoned now (List.mem_cons_of_mem _ mem)
      have here : account.OpenAt now := stands (now, call) List.mem_cons_self
      have onwards : ∀ call ∈ rest, account.OpenAt call.1 :=
        fun call mem => stands call (List.mem_cons_of_mem _ mem)
      rw [List.foldl_cons]
      cases call with
      | begin client' => exact ih onwards later
      | recordFailure client' =>
          by_cases same : client' = client
          · have counted : note client (some account) (now, .recordFailure client') =
                some { account with failures := account.failures + 1 } := by
              simp only [note, same, if_true, fail, here]
            rw [counted]
            have counting : ∀ call ∈ rest,
                Account.OpenAt { account with failures := account.failures + 1 } call.1 := onwards
            obtain ⟨failures, more, ends⟩ := ih counting later
            exact ⟨failures, (Nat.le_succ _).trans more, ends⟩
          · have kept : note client (some account) (now, .recordFailure client') =
                some account := if_neg same
            rw [kept]
            exact ih onwards later
      | recordSuccess client' =>
          by_cases same : client' = client
          · exact absurd (same ▸ List.mem_cons_self) (unpardoned now)
          · have kept : note client (some account) (now, .recordSuccess client') =
                some account := if_neg same
            rw [kept]
            exact ih onwards later

/-- `begin` gives the answer of `retry_after_at` when there is one. -/
theorem begin_of_refused {throttle : LoginThrottle} {client : IpAddr} {now seconds : Nat}
    (refused : (throttle.retryAfterAt client now).2 = some seconds) :
    (throttle.begin client now).2 = .error seconds := by
  unfold begin
  rcases result : throttle.retryAfterAt client now with ⟨throttle', _ | seconds'⟩
  · rw [result] at refused
    cases refused
  · rw [result] at refused
    cases refused
    rfl

/-- **A lockout lasts for its window and no longer.**  Some calls have recorded five
failures of a client in its last window, and others follow, in the order of their
times.  Until the window is over, and unless a success of the client is recorded, the
client is refused, with between one and sixty seconds to wait.  From then on it is
refused only for a later window with five failures, or because the windows of as many
other clients as the table holds are open. -/
theorem locked_for_the_window {first rest : List (Nat × ThrottleCall)} {client : IpAddr}
    {clock : Nat} {account : Account}
    (ordered : ((first ++ rest).map Prod.fst ++ [clock]).Pairwise (· ≤ ·))
    (recorded : accountOf first client = some account)
    (five : loginMaxFailures ≤ account.failures) :
    let throttle := afterCalls (first ++ rest)
    (clock < account.started + loginFailureWindow →
      (∀ now, (now, ThrottleCall.recordSuccess client) ∉ rest) →
      ∃ seconds, 1 ≤ seconds ∧ seconds ≤ 60 ∧
        (throttle.retryAfterAt client clock).2 = some seconds ∧
        (throttle.begin client clock).2 = .error seconds) ∧
    (account.started + loginFailureWindow ≤ clock → ∀ seconds,
      (throttle.retryAfterAt client clock).2 = some seconds →
      (∃ later, accountOf (first ++ rest) client = some later ∧
        account.started < later.started ∧ later.OpenAt clock ∧
        loginMaxFailures ≤ later.failures) ∨
      (seconds = 60 ∧ ∃ others : Finset IpAddr, client ∉ others ∧
        loginMaxTrackedClients ≤ others.card ∧
        ∀ other ∈ others, ∃ window, accountOf (first ++ rest) other = some window ∧
          window.OpenAt clock)) := by
  intro throttle
  have tracks := tracks_afterCalls ordered
  refine ⟨fun within unpardoned => ?_, fun past seconds refused => ?_⟩
  · have stands : ∀ call ∈ rest, account.OpenAt call.1 := by
      intro call mem
      have before : call.1 ≤ clock :=
        (List.pairwise_append.mp ordered).2.2 call.1
          (List.mem_map_of_mem (List.mem_append_right first mem)) clock (by simp)
      exact Nat.lt_of_le_of_lt before within
    obtain ⟨failures, more, ends⟩ := accountOf_keeps stands unpardoned
    have here : accountOf (first ++ rest) client = some { account with failures } := by
      rw [accountOf, List.foldl_append]
      rw [accountOf] at recorded
      rw [recorded, ends]
    have refused := tracks.refuses here within (five.trans more)
    refine ⟨_, ?_, ?_, refused, begin_of_refused refused⟩
    · omega
    · rw [loginFailureWindow]
      omega
  · rcases tracks.refused refused with ⟨later, here, stands, many⟩ | full
    · refine Or.inl ⟨later, here, ?_, stands, many⟩
      simp only [Account.OpenAt] at stands
      omega
    · exact Or.inr full

/-- A client fails five times within five seconds. -/
def fiveFailures (client : IpAddr) : List (Nat × ThrottleCall) :=
  (List.range 5).map fun second => (second * 10 ^ 9, .recordFailure client)

/-- Another client fails, and then the first one again; at the fifty-ninth second the
first client is refused. -/
theorem locked_for_the_window_five :
    ∃ seconds, 1 ≤ seconds ∧ seconds ≤ 60 ∧
      ((afterCalls (fiveFailures (.v4 1) ++
        [(6 * 10 ^ 9, .recordFailure (.v4 2)), (7 * 10 ^ 9, .recordFailure (.v4 1))])).retryAfterAt
          (.v4 1) (59 * 10 ^ 9)).2 = some seconds := by
  have recorded : accountOf (fiveFailures (.v4 1)) (.v4 1) = some ⟨0, 5⟩ := by decide
  have five : loginMaxFailures ≤ (Account.mk 0 5).failures := by decide
  have ordered : ((fiveFailures (.v4 1) ++ [(6 * 10 ^ 9, ThrottleCall.recordFailure (.v4 2)),
      (7 * 10 ^ 9, .recordFailure (.v4 1))]).map Prod.fst ++ [59 * 10 ^ 9]).Pairwise (· ≤ ·) := by
    decide
  obtain ⟨seconds, least, most, refused, -⟩ :=
    (locked_for_the_window ordered recorded five).1 (by decide) (by simp)
  exact ⟨seconds, least, most, refused⟩

end LoginThrottle

end RustBlocker
