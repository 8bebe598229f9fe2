import RustBlocker.Library.StateMachine
import RustBlocker.Sessions
import RustBlocker.SyncApply

/-!
# The credentials of the administrator

The password hash and the session secret are rows of the settings table, and the signing key of
the running server is the decoded secret.  Two requests use them, `login` and `change_password`,
and both do so in a blocking section under one mutex, the credential lock.

* `credentialRequests` is the machine of these sections.  A section takes its calls one at a time;
  between two of them others may wait for the lock, and cookies are validated, which takes no
  lock.
* **The account.**  `history` records, latest first, the cookies that were made, the replacements
  of the key, and the outcomes of the password changes with the credentials before and after.  No
  step reads it, nor `entered`, nor `used` except for the freshness of a generated secret.
* **Panics.**  `unix_now` panics on a clock before 1970.  In `create_session` that ends the task;
  in a password change it does so after the credentials have been replaced.

`credentialRequests_spec` puts together what holds in every state of every run; a cookie is
refused or accepted there whatever section is under way.

## What is assumed

* **Tags tell keys apart**: of one message, different keys make different tags.  Without it a
  cookie could be good under a key that it was not made with, by chance.
* **A generated secret is new**: it is none that the server has used.  This is the guard of the
  step that generates one, and it is why `used` is kept; 32 random bytes are not promised to be
  new, but no result about sessions can do without it.

Nothing is assumed of the verification of passwords, of the order in which sections get the lock,
or of how long they hold it.  That the lock is not given up in between is what the mutex does, and
is how the steps are written: there is one holder, and only its section goes on.

The credentials as they were when a section was entered are kept beside it (`entered`), so that of
a change that was refused it can be said that it has changed nothing.
-/

namespace RustBlocker

def passwordHashKey : Str := "admin_password_hash".toList

def sessionSecretKey : Str := "session_secret".toList

namespace Db

/-- `get_setting`; a read that fails counts as a missing row. -/
def getSetting (db : Db) (reads : Bool) (key : Str) : Option Str :=
  if reads then db.settings.lookup key else none

/-- The calls of `update_auth_credentials`. -/
inductive UpdateAuthCall where
  | connection
  | begin
  | updateHash
  | insertSecret
  | commit
deriving DecidableEq

/-- `update_auth_credentials`: whether the hash was still the current one, and the new database.
Without a commit the transaction is rolled back, so that hash and secret are replaced together. -/
def updateAuthCredentials (fails : Plan UpdateAuthCall) (db : Db)
    (currentPasswordHash newPasswordHash sessionSecret : Str) : Except DbError (Bool × Db) := do
  fails.attempt .connection .pool
  fails.attempt .begin .sql
  fails.attempt .updateHash .sql
  if db.settings.lookup passwordHashKey = some currentPasswordHash then
    let updated := db.setSetting passwordHashKey newPasswordHash
    fails.attempt .insertSecret .sql
    fails.attempt .commit .sql
    return (true, updated.setSetting sessionSecretKey sessionSecret)
  else return (false, db)

/-- What `update_auth_credentials` has written when it answers that the hash was the
current one. -/
theorem updateAuthCredentials_eq_ok_true {fails : Plan UpdateAuthCall} {db db' : Db}
    {current new secret : Str}
    (updated : updateAuthCredentials fails db current new secret = .ok (true, db')) :
    db'.settings.lookup passwordHashKey = some new ∧
      db'.settings.lookup sessionSecretKey = some secret := by
  unfold updateAuthCredentials at updated
  obtain ⟨-, updated⟩ := Plan.attempt_bind_eq_ok.mp updated
  obtain ⟨-, updated⟩ := Plan.attempt_bind_eq_ok.mp updated
  obtain ⟨-, updated⟩ := Plan.attempt_bind_eq_ok.mp updated
  split at updated
  next =>
    obtain ⟨-, updated⟩ := Plan.attempt_bind_eq_ok.mp updated
    obtain ⟨-, updated⟩ := Plan.attempt_bind_eq_ok.mp updated
    cases updated
    have other : passwordHashKey ≠ sessionSecretKey := by decide
    refine ⟨?_, AList.lookup_insert _⟩
    show ((db.settings.insert _ _).insert _ _).lookup passwordHashKey = some new
    rw [AList.lookup_insert_ne other, AList.lookup_insert]
  next => cases updated

end Db

/-! ## The requests

A section is the part of a handler that runs under the lock.  It is followed call by call, because
a cookie may be validated between any two of its calls, and because any of them may fail. -/

/-- The stored hash, the stored secret and the signing key. -/
structure Credentials where
  hash : Option Str
  secret : Option Str
  key : Bytes
deriving DecidableEq

/-- What `change_password` answers.  A cookie comes with a success only. -/
inductive ChangeOutcome where
  | changed (session : Str)
  | tooShort
  | missing
  | incorrect
  | conflict
  | failed (error : Str)
  /-- The blocking task panicked. -/
  | panicked
deriving DecidableEq

/-- Whether the answer says that the password is not changed; the answer to a panic does
not tell. -/
def ChangeOutcome.refused : ChangeOutcome → Bool
  | .changed _ | .panicked => false
  | _ => true

/-- What is recorded: a cookie that was made, a key that was replaced, and an outcome with the
credentials around it. -/
inductive CredentialEvent where
  | issued (session : Str)
  /-- The key was replaced, after the hash was. -/
  | renewed (hash : Str)
  | answered (outcome : ChangeOutcome) (before after : Credentials)

/-- Where the section that holds the lock stands: what it does next. -/
inductive CredentialSection where
  | loginRead (password : Str)
  | loginVerify (password hash : Str)
  | loginIssue
  | changeRead (current new : Str)
  | changeVerify (current new currentHash : Str)
  | changeHash (new currentHash : Str)
  | changeGenerate (currentHash newHash : Str)
  | changeUpdate (currentHash newHash : Str) (newSecret : Bytes)
  | changeReplace (newHash : Str) (newSecret : Bytes)
  | changeIssue

/-- What the calls of a section meet.  All of it is free, also from one call to the next. -/
structure SectionInput where
  reads : Bool := true
  /-- The result of `hash_password`. -/
  hashed : Except Str Str := .ok []
  /-- The result of `generate_secret`. -/
  secret : Bytes := []
  fails : Plan Db.UpdateAuthCall := .clear
  /-- `unix_now`, which panics on a clock before 1970. -/
  now : Option UInt64 := some 0

inductive CredentialAction where
  | enterLogin (password : Str)
  | enterChange (current new : Str)
  /-- A change whose new password is too short ends before the section. -/
  | refuseChange (current new : Str)
  | proceed (input : SectionInput)

/-- The server as far as its credentials are concerned.  The last three fields are the account. -/
structure CredentialServer where
  db : Db
  key : Bytes
  holder : Option CredentialSection := none
  /-- The credentials when the section that holds the lock was entered. -/
  entered : Credentials
  /-- The secrets there have been. -/
  used : List Bytes
  history : List CredentialEvent := []

namespace CredentialServer

def passwordHash (s : CredentialServer) : Option Str := s.db.settings.lookup passwordHashKey

/-- The decoded session secret of the database. -/
def storedKey (s : CredentialServer) : Option Bytes :=
  (s.db.settings.lookup sessionSecretKey).bind decodeSecret

def credentials (s : CredentialServer) : Credentials where
  hash := s.passwordHash
  secret := s.db.settings.lookup sessionSecretKey
  key := s.key

/-- The start of the server: a secret that is missing or does not decode is generated, and
whether it could be stored is ignored. -/
def start (db : Db) (reads writes : Bool) (generated : Bytes) : CredentialServer :=
  let stored := (db.getSetting reads sessionSecretKey).bind decodeSecret
  let key := stored.getD generated
  let db :=
    if stored.isNone && writes then db.setSetting sessionSecretKey (encodeSecret generated)
    else db
  { db, key, used := [key]
    entered := ⟨db.settings.lookup passwordHashKey, db.settings.lookup sessionSecretKey, key⟩ }

/-- The lock is taken. -/
def enter (s : CredentialServer) (here : CredentialSection) : CredentialServer :=
  { s with holder := some here, entered := s.credentials }

def goto (s : CredentialServer) (here : CredentialSection) : CredentialServer :=
  { s with holder := some here }

/-- The lock is given back. -/
def leave (s : CredentialServer) : CredentialServer := { s with holder := none }

def record (s : CredentialServer) (event : CredentialEvent) : CredentialServer :=
  { s with history := event :: s.history }

/-- A change gives the lock back with its outcome. -/
def answer (s : CredentialServer) (outcome : ChangeOutcome) : CredentialServer :=
  (s.record (.answered outcome s.entered s.credentials)).leave

section Step

variable (verify : Str → Str → Bool) (hmac : Bytes → Bytes → Bytes)

/-- The next call of a section. -/
def proceed (s : CredentialServer) (input : SectionInput) :
    CredentialSection → Option CredentialServer
  | .loginRead password =>
      match s.db.getSetting input.reads passwordHashKey with
      | none => some s.leave
      | some hash => some (s.goto (.loginVerify password hash))
  | .loginVerify password hash =>
      if verify password hash then some (s.goto .loginIssue) else some s.leave
  | .loginIssue =>
      match input.now with
      | none => some s.leave
      | some now =>
          some (s.record (.issued (createSession hmac s.key now sessionMaxAgeSecs))).leave
  | .changeRead current new =>
      match s.db.getSetting input.reads passwordHashKey with
      | none => some (s.answer .missing)
      | some currentHash => some (s.goto (.changeVerify current new currentHash))
  | .changeVerify current new currentHash =>
      if verify current currentHash then some (s.goto (.changeHash new currentHash))
      else some (s.answer .incorrect)
  | .changeHash _ currentHash =>
      match input.hashed with
      | .error error => some (s.answer (.failed error))
      | .ok newHash => some (s.goto (.changeGenerate currentHash newHash))
  | .changeGenerate currentHash newHash =>
      -- `generate_secret` gives a secret there has not been
      if input.secret.length = sessionSecretBytes ∧ !s.used.contains input.secret then
        some { s.goto (.changeUpdate currentHash newHash input.secret) with
          used := input.secret :: s.used }
      else none
  | .changeUpdate currentHash newHash newSecret =>
      match Db.updateAuthCredentials input.fails s.db currentHash newHash
          (encodeSecret newSecret) with
      | .error error => some (s.answer (.failed error.text))
      | .ok (false, _) => some (s.answer .conflict)
      | .ok (true, db) => some { s.goto (.changeReplace newHash newSecret) with db }
  | .changeReplace newHash newSecret =>
      some { (s.goto .changeIssue).record (.renewed newHash) with key := newSecret }
  | .changeIssue =>
      match input.now with
      | none => some (s.answer .panicked)
      | some now =>
          let session := createSession hmac s.key now sessionMaxAgeSecs
          some ((s.record (.issued session)).answer (.changed session))

def step (s : CredentialServer) : CredentialAction → Option CredentialServer
  | .enterLogin password =>
      if s.holder.isNone then some (s.enter (.loginRead password)) else none
  | .enterChange current new =>
      if s.holder.isNone && 6 ≤ Str.len new then some (s.enter (.changeRead current new))
      else none
  | .refuseChange _ new =>
      if Str.len new < 6 then
        some (s.record (.answered .tooShort s.credentials s.credentials))
      else none
  | .proceed input =>
      match s.holder with
      | none => none
      | some here => s.proceed verify hmac input here

end Step

end CredentialServer

/-- The logins and password changes of a server. -/
def credentialRequests (verify : Str → Str → Bool) (hmac : Bytes → Bytes → Bytes) :
    StateMachine CredentialServer CredentialAction where
  init s := ∃ db reads writes generated, s = .start db reads writes generated
  step := CredentialServer.step verify hmac

/-! ## What the history tells

The history is read in two ways: for the secrets that have signed cookies, and for the changes
that were answered with one.  Both only ever look back, so a longer history keeps what is known. -/

namespace CredentialEvent

/-- The hash a renewal wrote. -/
def renewal : CredentialEvent → Option Str
  | renewed hash => some hash
  | _ => none

end CredentialEvent

/-- The hashes that were written, latest first. -/
def renewals (history : List CredentialEvent) : List Str :=
  history.filterMap CredentialEvent.renewal

/-- The cookies were signed by secrets that have been used, and not by the ones to avoid. -/
def SignedApart (hmac : Bytes → Bytes → Bytes) (avoid used : List Bytes)
    (history : List CredentialEvent) : Prop :=
  ∀ session, .issued session ∈ history → ∃ secret ∈ used, secret ∉ avoid ∧
    ∃ now, session = createSession hmac secret now sessionMaxAgeSecs

section SignedApart

variable {hmac : Bytes → Bytes → Bytes} {avoid avoid' used used' : List Bytes}
  {history history' : List CredentialEvent} {event : CredentialEvent}

theorem SignedApart.mono (signed : SignedApart hmac avoid used history)
    (fewer : ∀ event ∈ history', event ∈ history) (less : ∀ secret ∈ avoid', secret ∈ avoid)
    (more : ∀ secret ∈ used, secret ∈ used') : SignedApart hmac avoid' used' history' := by
  intro session mem
  obtain ⟨secret, was, apart, made⟩ := signed session (fewer _ mem)
  exact ⟨secret, more _ was, fun bad => apart (less _ bad), made⟩

/-- A secret there has not been has signed nothing. -/
theorem SignedApart.fresh (signed : SignedApart hmac avoid used history) {secret : Bytes}
    (fresh : secret ∉ used) : SignedApart hmac (secret :: avoid) (secret :: used) history := by
  intro session mem
  obtain ⟨old, was, apart, made⟩ := signed session mem
  refine ⟨old, List.mem_cons_of_mem _ was, ?_, made⟩
  rw [List.mem_cons, not_or]
  exact ⟨fun same => fresh (same ▸ was), apart⟩

theorem SignedApart.cons (signed : SignedApart hmac avoid used history)
    (silent : ∀ session, event ≠ .issued session) :
    SignedApart hmac avoid used (event :: history) := by
  intro session mem
  rcases List.mem_cons.mp mem with here | before
  · exact absurd here.symm (silent session)
  · exact signed session before

theorem SignedApart.issued (signed : SignedApart hmac avoid used history) {secret : Bytes}
    (was : secret ∈ used) (apart : secret ∉ avoid) (now : UInt64) :
    SignedApart hmac avoid used
      (.issued (createSession hmac secret now sessionMaxAgeSecs) :: history) := by
  intro session mem
  rcases List.mem_cons.mp mem with here | before
  · exact ⟨secret, was, apart, now, CredentialEvent.issued.inj here⟩
  · exact signed session before

end SignedApart

/-- What is recorded around every change that was answered with a cookie: the property `ok` of the
events after it, of the cookie, and of the events before. -/
def Successes (ok : List CredentialEvent → Str → List CredentialEvent → Prop)
    (history : List CredentialEvent) : Prop :=
  ∀ after session old new before,
    history = after ++ .answered (.changed session) old new :: before → ok after session before

section Successes

variable {ok ok' : List CredentialEvent → Str → List CredentialEvent → Prop}
  {history : List CredentialEvent} {event : CredentialEvent}

/-- The event of a success is recorded, or another one. -/
theorem Successes.cons (successes : Successes ok history)
    (here : ∀ session old new, event = .answered (.changed session) old new →
      ok' [] session history)
    (later : ∀ after session before, ok after session before →
      ok' (event :: after) session before) :
    Successes ok' (event :: history) := by
  intro after session old new before split
  rcases List.cons_eq_append_iff.mp split with ⟨rfl, first⟩ | ⟨rest, rfl, same⟩
  · obtain ⟨rfl, rfl⟩ := List.cons.inj first
    exact here session old new rfl
  · exact later rest session before (successes rest session old new before same)

theorem Successes.imp (successes : Successes ok history)
    (weaker : ∀ after session before, ok after session before → ok' after session before) :
    Successes ok' history :=
  fun after session old new before split =>
    weaker _ _ _ (successes after session old new before split)

end Successes

/-! ## What the sections keep

The invariant follows the one section that holds the lock.  Each of its calls is a lemma: it goes
on with nothing pending, records an outcome, or moves one of the two credentials; the step lemma
only chooses between them. -/

namespace CredentialServer

/-- The secret a change is about to make the key. -/
def pending (s : CredentialServer) : Option Bytes :=
  match s.holder with
  | some (.changeUpdate _ _ newSecret) | some (.changeReplace _ newSecret) => some newSecret
  | _ => none

/-- The database holds the key and the hash of the last renewal, or those the server was
started with. -/
structure Agrees (first s : CredentialServer) : Prop where
  key : first.storedKey = some first.key ∨ renewals s.history ≠ [] →
    s.storedKey = some s.key
  hash : s.passwordHash = (renewals s.history).head?.or first.passwordHash

/-- How the credentials stand while a section is at a call.  Between the transaction and the
replacement of the key the database is ahead of the running server. -/
def Stand (first s : CredentialServer) : Option CredentialSection → Prop
  | some (.changeReplace newHash newSecret) =>
      s.passwordHash = some newHash ∧ s.storedKey = some newSecret
  | none | some .changeIssue => Agrees first s
  | some _ => Agrees first s ∧ s.credentials = s.entered

/-- A success is recorded after the cookie it returned.  All cookies before that one were signed
by other secrets than the key, and the cookie itself by the key if this has not been replaced
since.  It is said of a history, since the key of the moment is all that the server itself
remembers. -/
def Supersedes (hmac : Bytes → Bytes → Bytes) (s : CredentialServer)
    (after : List CredentialEvent) (session : Str) (before : List CredentialEvent) : Prop :=
  ∃ earlier, before = .issued session :: earlier ∧
    SignedApart hmac (s.key :: s.pending.toList) s.used earlier ∧
    (renewals after = [] → ∃ now, session = createSession hmac s.key now sessionMaxAgeSecs)

/-- The invariant.  It follows the section through its calls: what the database has, what the key
is, and which of the two has been replaced already. -/
structure Kept (hmac : Bytes → Bytes → Bytes) (first s : CredentialServer) : Prop where
  stand : Stand first s s.holder
  keyUsed : s.key ∈ s.used
  pendingNew : ∀ secret, s.pending = some secret → secret ∈ s.used ∧ secret ≠ s.key
  signed : SignedApart hmac s.pending.toList s.used s.history
  /-- Between the replacement of the key and the first cookie it signs. -/
  issuing : s.holder = some .changeIssue → SignedApart hmac [s.key] s.used s.history
  successes : Successes (s.Supersedes hmac) s.history
  refused : ∀ outcome before after, .answered outcome before after ∈ s.history →
    outcome.refused = true → before = after


section Kept

variable {verify : Str → Str → Bool} {hmac : Bytes → Bytes → Bytes} {first s t : CredentialServer}

/-- A server that can write has its key in the database when it has started. -/
theorem start_storedKey (db : Db) (reads : Bool) (generated : Bytes) :
    (start db reads true generated).storedKey = some (start db reads true generated).key := by
  cases found : (db.getSetting reads sessionSecretKey).bind decodeSecret with
  | some key =>
      cases reads with
      | false => cases found
      | true =>
          simp only [start, found, storedKey, Option.isNone_some, Bool.false_and,
            Bool.false_eq_true, if_false, Option.getD_some]
          exact found
  | none =>
      simp only [start, storedKey, found, Option.isNone_none, Bool.and_self, if_true,
        Option.getD_none]
      show ((db.settings.insert _ _).lookup sessionSecretKey).bind decodeSecret = _
      rw [AList.lookup_insert, Option.bind_some, decodeSecret_encodeSecret]

theorem kept_start {db : Db} {reads writes : Bool} {generated : Bytes} :
    Kept hmac (start db reads writes generated) (start db reads writes generated) where
  stand := by
    refine ⟨fun saved => ?_, rfl⟩
    rcases saved with saved | renewed
    · exact saved
    · exact absurd rfl renewed
  keyUsed := List.mem_singleton_self _
  pendingNew := by
    intro secret coming
    cases coming
  signed := by
    intro session mem
    cases mem
  issuing := by
    intro here
    cases here
  successes := by
    intro after session old new before split
    cases after <;> cases split
  refused := by
    intro outcome before after mem
    cases mem

/-- What is known of a success outlives every step that leaves the key and makes no secret
pending. -/
theorem Supersedes.mono {after : List CredentialEvent} {session : Str}
    {before : List CredentialEvent} (known : s.Supersedes hmac after session before)
    (key : t.key = s.key) (pending : ∀ secret ∈ t.pending, secret ∈ s.pending)
    (used : ∀ secret ∈ s.used, secret ∈ t.used) : t.Supersedes hmac after session before := by
  obtain ⟨earlier, split, signed, own⟩ := known
  refine ⟨earlier, split, signed.mono (fun _ mem => mem) ?_ used, ?_⟩
  · intro secret mem
    rw [key, List.mem_cons, Option.mem_toList] at mem
    rw [List.mem_cons, Option.mem_toList]
    exact mem.imp id (pending secret)
  · rw [key]
    exact own

/-- The lock changes hands, or its holder goes on, with nothing pending. -/
theorem Kept.move (kept : Kept hmac first s) (key : t.key = s.key)
    (used : t.used = s.used) (history : t.history = s.history)
    (free : t.pending = none) (notIssuing : t.holder ≠ some .changeIssue)
    (stand : Stand first t t.holder) : Kept hmac first t where
  stand := stand
  keyUsed := by
    rw [key, used]
    exact kept.keyUsed
  pendingNew := by
    intro secret coming
    rw [free] at coming
    cases coming
  signed := by
    rw [free, used, history]
    exact kept.signed.mono (fun _ mem => mem) (fun _ mem => by cases mem) fun _ mem => mem
  issuing here := absurd here notIssuing
  successes := by
    rw [history]
    refine kept.successes.imp fun after session before known => ?_
    refine known.mono key (fun secret coming => ?_) (by rw [used]; exact fun _ mem => mem)
    rw [free] at coming
    cases coming
  refused := by
    rw [history]
    exact kept.refused

theorem Agrees.congr (agrees : Agrees first s) (db : t.db = s.db) (key : t.key = s.key)
    (same : renewals t.history = renewals s.history) : Agrees first t where
  key := by
    rw [same, key, show t.storedKey = s.storedKey by rw [storedKey, db]; rfl]
    exact agrees.key
  hash := by
    rw [same, passwordHash, db]
    exact agrees.hash

theorem Stand.congr {holder : Option CredentialSection} (stand : Stand first s holder)
    (db : t.db = s.db) (key : t.key = s.key) (entered : t.entered = s.entered)
    (same : renewals t.history = renewals s.history) : Stand first t holder := by
  have agrees : Agrees first s → Agrees first t := fun agrees => agrees.congr db key same
  have unmoved : s.credentials = s.entered → t.credentials = t.entered := by
    rw [credentials, credentials, passwordHash, passwordHash, db, key, entered]
    exact id
  rcases holder with _ | here
  · exact agrees stand
  · cases here with
    | changeReplace newHash newSecret =>
        show t.passwordHash = some newHash ∧ t.storedKey = some newSecret
        rw [passwordHash, storedKey, db]
        exact stand
    | changeIssue => exact agrees stand
    | _ => exact ⟨agrees stand.1, unmoved stand.2⟩

/-- An outcome is recorded that is no success. -/
theorem Kept.record (kept : Kept hmac first s) {outcome : ChangeOutcome}
    {before after : Credentials} (notSuccess : ∀ session, outcome ≠ .changed session)
    (same : outcome.refused = true → before = after) :
    Kept hmac first (s.record (.answered outcome before after)) where
  stand := kept.stand.congr rfl rfl rfl rfl
  keyUsed := kept.keyUsed
  pendingNew := kept.pendingNew
  signed := kept.signed.cons fun session here => by cases here
  issuing here := (kept.issuing here).cons fun session here => by cases here
  successes := by
    refine kept.successes.cons (fun session old new here => ?_) fun after session before known => ?_
    · exact absurd (CredentialEvent.answered.inj here).1 (notSuccess session)
    · exact known
  refused := by
    intro outcome' before' after' mem refused
    rcases List.mem_cons.mp mem with here | earlier
    · obtain ⟨rfl, rfl, rfl⟩ := CredentialEvent.answered.inj here
      exact same refused
    · exact kept.refused outcome' before' after' earlier refused

theorem Kept.leave (kept : Kept hmac first s) (agrees : Agrees first s) :
    Kept hmac first s.leave :=
  kept.move rfl rfl rfl rfl (by simp [CredentialServer.leave]) (agrees.congr rfl rfl rfl)

/-- A change ends, and not with a success. -/
theorem Kept.answer (kept : Kept hmac first s) {outcome : ChangeOutcome}
    (notSuccess : ∀ session, outcome ≠ .changed session)
    (same : outcome.refused = true → s.entered = s.credentials) (agrees : Agrees first s) :
    Kept hmac first (s.answer outcome) :=
  (kept.record notSuccess same).leave (agrees.congr rfl rfl rfl)

/-- A login makes its cookie. -/
theorem Kept.login (kept : Kept hmac first s) (here : s.holder = some .loginIssue)
    (now : UInt64) :
    Kept hmac first (s.record (.issued (createSession hmac s.key now sessionMaxAgeSecs))) where
  stand := kept.stand.congr rfl rfl rfl rfl
  keyUsed := kept.keyUsed
  pendingNew := kept.pendingNew
  signed := by
    have free : s.pending = none := by rw [pending, here]
    refine SignedApart.issued kept.signed kept.keyUsed ?_ now
    rw [free]
    exact List.not_mem_nil
  issuing issuing := by
    rw [show s.holder = some .changeIssue from issuing] at here
    cases here
  successes := by
    refine kept.successes.cons (fun session old new here => ?_) fun after session before known => ?_
    · cases here
    · exact known
  refused := by
    intro outcome before after mem
    rcases List.mem_cons.mp mem with here | earlier
    · cases here
    · exact kept.refused outcome before after earlier

/-- A change has its new secret. -/
theorem Kept.generate (kept : Kept hmac first s) {currentHash newHash : Str} {secret : Bytes}
    (here : s.holder = some (.changeGenerate currentHash newHash)) (fresh : secret ∉ s.used) :
    Kept hmac first { s.goto (.changeUpdate currentHash newHash secret) with
      used := secret :: s.used } := by
  have free : s.pending = none := by rw [pending, here]
  have stand := kept.stand
  rw [here] at stand
  refine
    { stand := ⟨stand.1.congr rfl rfl rfl, stand.2⟩
      keyUsed := List.mem_cons_of_mem _ kept.keyUsed
      pendingNew := ?_
      signed := ?_
      issuing := fun issuing => by cases issuing
      successes := ?_
      refused := kept.refused }
  · rintro _ ⟨⟩
    exact ⟨List.mem_cons_self, fun same => fresh (same ▸ kept.keyUsed)⟩
  · have signed := kept.signed
    rw [free] at signed
    exact signed.fresh fresh
  · refine kept.successes.imp fun after session before known => ?_
    obtain ⟨earlier, split, signed, own⟩ := known
    rw [free] at signed
    refine ⟨earlier, split, (signed.fresh fresh).mono (fun _ mem => mem) ?_ fun _ mem => mem, own⟩
    intro bad mem
    rcases List.mem_cons.mp mem with rfl | rest
    · exact List.mem_cons_of_mem _ List.mem_cons_self
    · exact List.mem_cons.mpr (Or.inl (List.mem_singleton.mp rest))

/-- A change has written its hash and its secret. -/
theorem Kept.update (kept : Kept hmac first s) {currentHash newHash : Str} {newSecret : Bytes}
    {fails : Plan Db.UpdateAuthCall} {db : Db}
    (here : s.holder = some (.changeUpdate currentHash newHash newSecret))
    (updated : Db.updateAuthCredentials fails s.db currentHash newHash (encodeSecret newSecret) =
      .ok (true, db)) :
    Kept hmac first { s.goto (.changeReplace newHash newSecret) with db } := by
  have coming : s.pending = some newSecret := by rw [pending, here]
  obtain ⟨hash, secret⟩ := Db.updateAuthCredentials_eq_ok_true updated
  have signed := kept.signed
  have pendingNew := kept.pendingNew
  rw [coming] at signed pendingNew
  refine
    { stand := ⟨hash, ?_⟩
      keyUsed := kept.keyUsed
      pendingNew := pendingNew
      signed := signed
      issuing := fun issuing => by cases issuing
      successes := ?_
      refused := kept.refused }
  · rw [storedKey]
    show (db.settings.lookup sessionSecretKey).bind decodeSecret = _
    rw [secret, Option.bind_some, decodeSecret_encodeSecret]
  · refine kept.successes.imp fun after session before known => ?_
    refine known.mono rfl (fun bad mem => ?_) fun _ mem => mem
    rw [coming]
    exact mem

/-- A change replaces the key. -/
theorem Kept.replace (kept : Kept hmac first s) {newHash : Str} {newSecret : Bytes}
    (here : s.holder = some (.changeReplace newHash newSecret)) :
    Kept hmac first { (s.goto .changeIssue).record (.renewed newHash) with key := newSecret } := by
  have coming : s.pending = some newSecret := by rw [pending, here]
  obtain ⟨was, apart⟩ := kept.pendingNew newSecret coming
  have stand := kept.stand
  have signed := kept.signed
  rw [here] at stand
  rw [coming] at signed
  refine
    { stand := ⟨fun _ => stand.2, stand.1⟩
      keyUsed := was
      pendingNew := fun secret pending => by cases pending
      signed := ?_
      issuing := fun _ => signed.cons fun session here => by cases here
      successes := ?_
      refused := ?_ }
  · refine (signed.mono (fun _ mem => mem) (fun _ mem => ?_) fun _ mem => mem).cons
      fun session here => by cases here
    cases mem
  · refine kept.successes.cons (fun session old new here => ?_) fun after session before known => ?_
    · cases here
    · obtain ⟨earlier, split, signed, -⟩ := known
      rw [coming] at signed
      refine ⟨earlier, split, signed.mono (fun _ mem => mem) ?_ fun _ mem => mem, ?_⟩
      · intro bad mem
        exact List.mem_cons_of_mem _ mem
      · intro since
        cases since
  · intro outcome before after mem
    rcases List.mem_cons.mp mem with here | earlier
    · cases here
    · exact kept.refused outcome before after earlier

/-- A change makes its cookie and answers. -/
theorem Kept.success (kept : Kept hmac first s) (here : s.holder = some .changeIssue)
    (now : UInt64) :
    Kept hmac first
      ((s.record (.issued (createSession hmac s.key now sessionMaxAgeSecs))).answer
        (.changed (createSession hmac s.key now sessionMaxAgeSecs))) := by
  have free : s.pending = none := by rw [pending, here]
  have stand := kept.stand
  have signed := kept.signed
  rw [here] at stand
  rw [free] at signed
  refine
    { stand := Agrees.congr stand rfl rfl rfl
      keyUsed := kept.keyUsed
      pendingNew := fun secret pending => by cases pending
      signed := ?_
      issuing := fun issuing => by cases issuing
      successes := ?_
      refused := ?_ }
  · exact (signed.issued kept.keyUsed List.not_mem_nil now).cons fun session here => by cases here
  · have issued : Successes (s.Supersedes hmac)
        (.issued (createSession hmac s.key now sessionMaxAgeSecs) :: s.history) := by
      refine kept.successes.cons (fun session old new here => ?_)
        fun after session before known => known
      cases here
    refine issued.cons (fun session old new here => ?_) fun after session before known => ?_
    · obtain ⟨same, -, -⟩ := CredentialEvent.answered.inj here
      obtain rfl := ChangeOutcome.changed.inj same
      exact ⟨s.history, rfl, kept.issuing ‹_›, fun _ => ⟨now, rfl⟩⟩
    · refine known.mono rfl (fun bad mem => ?_) fun _ mem => mem
      cases mem
  · intro outcome before after mem refused
    rcases List.mem_cons.mp mem with here | earlier
    · obtain ⟨rfl, -, -⟩ := CredentialEvent.answered.inj here
      cases refused
    · rcases List.mem_cons.mp earlier with here | earlier
      · cases here
      · exact kept.refused outcome before after earlier refused

/-- A section goes on to a call before the transaction. -/
theorem Kept.goto (kept : Kept hmac first s) {here : CredentialSection}
    (free : (s.goto here).pending = none) (notIssuing : here ≠ .changeIssue)
    (stand : Stand first s (some here)) : Kept hmac first (s.goto here) :=
  kept.move (t := s.goto here) rfl rfl rfl free (fun same => notIssuing (Option.some.inj same))
    (stand.congr rfl rfl rfl rfl)

/-- **A section keeps the invariant, call by call.** -/
theorem Kept.proceed (kept : Kept hmac first s) {here : CredentialSection}
    (holds : s.holder = some here) {input : SectionInput}
    (one : s.proceed verify hmac input here = some t) : Kept hmac first t := by
  have stand := kept.stand
  rw [holds] at stand
  cases here with
  | loginRead password =>
      simp only [CredentialServer.proceed] at one
      split at one
      · cases one
        exact kept.leave stand.1
      · cases one
        exact kept.goto rfl (by simp) stand
  | loginVerify password hash =>
      simp only [CredentialServer.proceed] at one
      split at one
      · cases one
        exact kept.goto rfl (by simp) stand
      · cases one
        exact kept.leave stand.1
  | loginIssue =>
      simp only [CredentialServer.proceed] at one
      split at one
      · cases one
        exact kept.leave stand.1
      next now _ =>
        cases one
        exact (kept.login holds now).leave (stand.1.congr rfl rfl rfl)
  | changeRead current new =>
      simp only [CredentialServer.proceed] at one
      split at one
      · cases one
        exact kept.answer (by simp) (fun _ => stand.2.symm) stand.1
      · cases one
        exact kept.goto rfl (by simp) stand
  | changeVerify current new currentHash =>
      simp only [CredentialServer.proceed] at one
      split at one
      · cases one
        exact kept.goto rfl (by simp) stand
      · cases one
        exact kept.answer (by simp) (fun _ => stand.2.symm) stand.1
  | changeHash new currentHash =>
      simp only [CredentialServer.proceed] at one
      split at one
      · cases one
        exact kept.answer (by simp) (fun _ => stand.2.symm) stand.1
      · cases one
        exact kept.goto rfl (by simp) stand
  | changeGenerate currentHash newHash =>
      simp only [CredentialServer.proceed] at one
      split at one
      next fresh =>
        cases one
        exact kept.generate holds (by simpa using fresh.2)
      next => cases one
  | changeUpdate currentHash newHash newSecret =>
      simp only [CredentialServer.proceed] at one
      split at one
      · cases one
        exact kept.answer (by simp) (fun _ => stand.2.symm) stand.1
      · cases one
        exact kept.answer (by simp) (fun _ => stand.2.symm) stand.1
      next updated =>
        cases one
        exact kept.update holds updated
  | changeReplace newHash newSecret =>
      cases one
      exact kept.replace holds
  | changeIssue =>
      simp only [CredentialServer.proceed] at one
      split at one
      · cases one
        -- the credentials are new, and the answer does not tell
        exact kept.answer (by simp) (by simp [ChangeOutcome.refused]) stand
      next now _ =>
        cases one
        exact kept.success holds now

theorem Kept.step (kept : Kept hmac first s) {action : CredentialAction}
    (one : s.step verify hmac action = some t) : Kept hmac first t := by
  cases action with
  | enterLogin password =>
      simp only [CredentialServer.step] at one
      split at one
      next free =>
        cases one
        have stand := kept.stand
        rw [Option.isNone_iff_eq_none.mp free] at stand
        exact kept.move (t := s.enter (.loginRead password)) rfl rfl rfl rfl (by simp [enter])
          ⟨Agrees.congr stand rfl rfl rfl, rfl⟩
      next => cases one
  | enterChange current new =>
      simp only [CredentialServer.step, Bool.and_eq_true] at one
      split at one
      next free =>
        cases one
        have stand := kept.stand
        rw [Option.isNone_iff_eq_none.mp free.1] at stand
        exact kept.move (t := s.enter (.changeRead current new)) rfl rfl rfl rfl
          (by simp [enter]) ⟨Agrees.congr stand rfl rfl rfl, rfl⟩
      next => cases one
  | refuseChange current new =>
      simp only [CredentialServer.step] at one
      split at one
      · cases one
        exact kept.record (by simp) fun _ => rfl
      · cases one
  | proceed input =>
      simp only [CredentialServer.step] at one
      split at one
      · cases one
      next here holds => exact kept.proceed holds one

end Kept

end CredentialServer

section Runs

variable {verify : Str → Str → Bool} {hmac : Bytes → Bytes → Bytes} {first s : CredentialServer}
  {actions : List CredentialAction}

/-- The invariant holds in every state of every run. -/
theorem kept_of_exec (started : (credentialRequests verify hmac).init first)
    (run : (credentialRequests verify hmac).exec first actions = some s) :
    CredentialServer.Kept hmac first s := by
  obtain ⟨db, reads, writes, generated, rfl⟩ := started
  have preserved : ∀ s action t,
      CredentialServer.Kept hmac (.start db reads writes generated) s → True →
        (credentialRequests verify hmac).step s action = some t →
          CredentialServer.Kept hmac (.start db reads writes generated) t :=
    fun s action t kept _ one => CredentialServer.Kept.step kept one
  exact (credentialRequests verify hmac).exec_invariant preserved CredentialServer.kept_start
    ((credentialRequests verify hmac).stepsMeet_true actions _) run

/-- What a password change promises, in any state of a run from `first`: of the database, of the
cookies made before and after, and of a change that was refused. -/
structure ChangeRevokes (hmac : Bytes → Bytes → Bytes) (first s : CredentialServer) : Prop where
  /-- While no section holds the lock, the database has the key, if it was stored at the
  start or renewed since, and the hash that was written last. -/
  settled : s.holder = none →
    (first.storedKey = some first.key ∨ renewals s.history ≠ [] → s.storedKey = some s.key) ∧
      s.passwordHash = (renewals s.history).head?.or first.passwordHash
  /-- Whenever a change has been answered with a cookie, the cookies made before that one
  are refused at any time.  The cookie itself is accepted until it expires, unless the key
  has been renewed again. -/
  revokes : ∀ after session old new before,
    s.history = after ++ .answered (.changed session) old new :: before →
      ∃ earlier, before = .issued session :: earlier ∧
        (∀ cookie now, .issued cookie ∈ earlier →
          validateSession hmac s.key now cookie = false) ∧
        (renewals after = [] → ∃ expires, sessionExpiry session = some expires ∧
          ∀ now, validateSession hmac s.key now session = true ↔ now ≤ expires)
  /-- A change that was refused has changed nothing. -/
  refused : ∀ outcome before after, .answered outcome before after ∈ s.history →
    outcome.refused = true → before = after

/-- **A password change revokes the sessions before it**, in every run of logins and
changes, if the HMACs of a message tell the keys apart. -/
theorem credentialRequests_spec
    (injective : ∀ message, Function.Injective fun key => hmac key message)
    (started : (credentialRequests verify hmac).init first)
    (run : (credentialRequests verify hmac).exec first actions = some s) :
    ChangeRevokes hmac first s := by
  have kept := kept_of_exec started run
  refine
    { settled := fun free => ?_
      revokes := fun after session old new before split => ?_
      refused := kept.refused }
  · have agrees := kept.stand
    rw [free] at agrees
    exact ⟨agrees.key, agrees.hash⟩
  · obtain ⟨earlier, first, signed, own⟩ :=
      kept.successes after session old new before split
    refine ⟨earlier, first, fun cookie now mem => ?_, fun latest => ?_⟩
    · obtain ⟨secret, -, apart, issued, rfl⟩ := signed cookie mem
      have other : secret ≠ s.key := fun same => apart (same ▸ List.mem_cons_self)
      exact validateSession_other injective other issued sessionMaxAgeSecs now
    · obtain ⟨issued, rfl⟩ := own latest
      exact ⟨_, sessionExpiry_createSession hmac s.key issued sessionMaxAgeSecs,
        fun now => validateSession_same_iff hmac⟩

/-! ## Two changes in a row

A login and two changes, all of which succeed.  The cookie of the first change is revoked by the
second one, before it expires. -/

/-- A tag that shows its key. -/
def appendTag (key message : Bytes) : Bytes := key ++ message

def passwordDb : Db where
  settings := (∅ : AList fun _ : Str => Str).insert passwordHashKey "first".toList

/-- A change without trouble: the lock, the hash, the verification, the new hash, the new
secret, the transaction, the new key and the cookie. -/
def changeActions (current new newHash : Str) (secret : Bytes) (now : Option UInt64) :
    List CredentialAction :=
  [.enterChange current new, .proceed {}, .proceed {}, .proceed { hashed := .ok newHash },
    .proceed { secret }, .proceed {}, .proceed {}, .proceed { now }]

def secretOf (b : UInt8) : Bytes := List.replicate sessionSecretBytes b

/-- A login and two changes of the password, one after the other. -/
def changeRun : List CredentialAction :=
  [.enterLogin "first".toList, .proceed {}, .proceed {}, .proceed {}] ++
    changeActions "first".toList "second".toList "second".toList (secretOf 2) (some 1) ++
    changeActions "second".toList "thirds".toList "thirds".toList (secretOf 3) (some 2)

theorem changeRevokes_changeRun :
    ∃ s, (credentialRequests (fun password hash => password == hash) appendTag).exec
        (.start passwordDb true true (secretOf 1)) changeRun = some s ∧
      ChangeRevokes appendTag (.start passwordDb true true (secretOf 1)) s := by
  have runs : ((credentialRequests (fun password hash => password == hash) appendTag).exec
      (.start passwordDb true true (secretOf 1)) changeRun).isSome = true := by decide +kernel
  obtain ⟨s, run⟩ := Option.isSome_iff_exists.mp runs
  refine ⟨s, run, credentialRequests_spec ?_ ⟨_, _, _, _, rfl⟩ run⟩
  intro message
  exact List.append_left_injective message

/-- The cookies that changes were answered with, latest first, and whether they are valid at
the time zero. -/
def CredentialServer.successes (hmac : Bytes → Bytes → Bytes) (s : CredentialServer) :
    List (Option UInt64 × Bool) :=
  s.history.filterMap fun
    | .answered (.changed session) _ _ =>
        some (sessionExpiry session, validateSession hmac s.key 0 session)
    | _ => none

/-- The outcomes of the changes, latest first, and whether they changed the credentials. -/
def CredentialServer.outcomes (s : CredentialServer) : List (ChangeOutcome × Bool) :=
  s.history.filterMap fun
    | .answered outcome before after => some (outcome, before != after)
    | _ => none

/-- **A session does not last until it expires** when another change follows: of the two
that were handed out the first one is refused.  Nor does the database have the key of a
server that could not store it, and a change that panics while it makes its cookie has
changed the credentials. -/
theorem not_accepted_until_expiry :
    ((credentialRequests (fun password hash => password == hash) appendTag).exec
        (.start passwordDb true true (secretOf 1)) changeRun).map
          (CredentialServer.successes appendTag) =
      some [(some (2 + sessionMaxAgeSecs), true), (some (1 + sessionMaxAgeSecs), false)] ∧
    (CredentialServer.start passwordDb true false (secretOf 1)).storedKey = none ∧
    ((credentialRequests (fun password hash => password == hash) appendTag).exec
        (.start passwordDb true true (secretOf 1))
        (changeActions "first".toList "second".toList "second".toList (secretOf 2) none)).map
          CredentialServer.outcomes =
      some [(.panicked, true)] := by
  refine ⟨?_, ?_, ?_⟩ <;> decide +kernel

end Runs

end RustBlocker
