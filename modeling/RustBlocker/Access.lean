import RustBlocker.Api
import RustBlocker.Filtering

/-!
# The control list and the web API

`guarded` is the check that the handlers begin with.  A request from an address outside the list
that comes to a guarded handler is answered `403` and changes nothing.  Four handlers answer
everyone on purpose; `change_password` forgets to ask.

`serve_denied_iff` says so for every such request.

The control list is checked by the handlers and not by the middleware, each for itself, which is
why one of them can forget it.  The middleware asks for a session before it lets a request
through, so the one handler that forgets is still closed to those who have none; what it is open
to is a session from an address that the list was meant to shut out.  A request without a known
address, as one that comes through no socket, is let through by the check and is not spoken of.

The theorem is about the state of the server as well as the answer: a request that is denied
leaves everything as it was, in the database and in memory.
-/

namespace RustBlocker

/-- The routes that answer everyone: health, version, the status of a session, and the end of one.
They are listed by the handlers that do not ask, and it is plain of each why it does not. -/
def ApiCall.answersEveryone : ApiCall → Bool
  | health | getVersion | authCheck | logout => true
  | _ => false

/-- `PUT /api/auth/password` -/
def ApiCall.changesPassword : ApiCall → Bool
  | changePassword _ _ => true
  | _ => false

/-- The route is what tells the change of the password. -/
theorem ApiCall.changesPassword_iff (call : ApiCall) :
    call.changesPassword = true ↔ call.route = (.put, "/auth/password".toList) := by
  cases call <;> simp [changesPassword, route]

section Denied

variable {Net : Type} {env : ApiEnv Net} {weather : ApiWeather} {s : WebServer Net}
  {request : ApiRequest} {addr : IpAddr}

theorem guarded_denied {peer : Option IpAddr} (outside : s.checkAcl env peer = false)
    (handler : Reply Net) : s.guarded env peer handler = (accessDenied, s) := by
  rw [WebServer.guarded, outside]
  rfl

/-- The guarded handlers deny: each begins with the check, and does nothing before it. -/
theorem handle_denied (outside : s.checkAcl env request.peer = false)
    (guarded : request.call.answersEveryone = false)
    (other : request.call.changesPassword = false) :
    s.handle env weather request = (accessDenied, s) := by
  obtain ⟨peer, cookie, call⟩ := request
  cases call with
  | health | getVersion | authCheck | logout => cases guarded
  | changePassword current new => cases other
  | _ => exact guarded_denied outside _

/-- A change of the password is never answered `403`. -/
theorem changePassword_status (current new : Str) :
    (s.changePassword env weather current new).1.status ≠ 403 := by
  have fails : ∀ {status : Nat} {error : Str} {t : WebServer Net}, status ≠ 403 →
      ((failure status error, t) : Reply Net).1.status ≠ 403 := fun other => other
  unfold WebServer.changePassword
  split
  next => exact fails (by decide)
  next =>
  split
  next => exact fails (by decide)
  next =>
  split
  next => exact fails (by decide)
  next currentHash _ =>
  split
  next => exact fails (by decide)
  next =>
  split
  next => exact fails (by decide)
  next newHash _ =>
  simp only
  rcases Db.updateAuthCredentials weather.credentials.fails s.db currentHash newHash
      (encodeSecret weather.credentials.secret) with error | ⟨_ | _, db⟩
  · exact fails (by decide)
  · exact fails (by decide)
  · simp only
    split
    next => exact fails (by decide)
    next => exact (by decide : 200 ≠ 403)

/-- **The control list keeps strangers out exactly if the route is not the change of the
password.**  The request comes from an address outside the list, to a route that does not
answer everyone.  If it does not reach its handler, the middleware has refused it. -/
theorem serve_denied_iff (peer : request.peer = some addr)
    (outside : s.acl.isAllowed env.nets addr = false)
    (guarded : request.call.answersEveryone = false) :
    (s.admits env weather request = true →
      ((s.serve env weather request).1.status = 403 ∧ (s.serve env weather request).2 = s ↔
        request.call.changesPassword = false)) ∧
    (s.admits env weather request = false →
      (s.serve env weather request).1.status = 401 ∧ (s.serve env weather request).2 = s) := by
  constructor
  · intro reaches
    have served : s.serve env weather request = s.handle env weather request := by
      rw [WebServer.serve, if_pos reaches]
    rw [served]
    constructor
    · rintro ⟨denied, -⟩
      obtain ⟨peer, cookie, call⟩ := request
      cases call with
      | changePassword current new => exact absurd denied (changePassword_status current new)
      | _ => rfl
    · intro other
      have check : s.checkAcl env request.peer = false := by
        rw [peer]
        exact outside
      rw [handle_denied check guarded other]
      exact ⟨rfl, rfl⟩
  · intro stopped
    have served : s.serve env weather request = (failure 401 "unauthorized".toList, s) := by
      rw [WebServer.serve, stopped]
      rfl
    rw [served]
    exact ⟨rfl, rfl⟩

/-! ## A stranger changes the password

The request is well formed and has a session; only its address is not allowed.  The environment of
the example is used by other modules too: its hashes are the passwords themselves, and its
networks are single addresses. -/

/-- Hashes that are the passwords, tags that show their keys, and networks of one address. -/
def plainEnv : ApiEnv IpAddr where
  nets := singleAddresses
  caseTables := .ascii
  hash := fun _ => 0
  verify := fun password hash => password == hash
  hmac := appendTag
  sha := fun bytes => bytes.map fun b => Char.ofNat b.toNat

/-- A server that allows one address. -/
def oneAddressServer : WebServer IpAddr where
  db := passwordDb.setSetting sessionSecretKey (encodeSecret (secretOf 1))
  acl := { networks := [.v4 0xC0000201#32] }
  key := secretOf 1

/-- A request from another address, with a session. -/
def strangeRequest (call : ApiCall) : ApiRequest where
  peer := some (.v4 0xC6336401#32)
  cookie := some (createSession appendTag (secretOf 1) 0 sessionMaxAgeSecs)
  call

def strangeWeather : ApiWeather where
  credentials := { hashed := .ok "second".toList, secret := secretOf 2 }

theorem serve_denied_iff_getSettings :
    let request := strangeRequest .getSettings
    (oneAddressServer.admits plainEnv strangeWeather request = true →
      ((oneAddressServer.serve plainEnv strangeWeather request).1.status = 403 ∧
        (oneAddressServer.serve plainEnv strangeWeather request).2 = oneAddressServer ↔
          request.call.changesPassword = false)) ∧
    (oneAddressServer.admits plainEnv strangeWeather request = false →
      (oneAddressServer.serve plainEnv strangeWeather request).1.status = 401 ∧
        (oneAddressServer.serve plainEnv strangeWeather request).2 = oneAddressServer) :=
  serve_denied_iff rfl (by decide) rfl

/-- **A stranger with a session changes the password**: the answer is `200`, and the stored
hash is another one. -/
theorem not_denied_changePassword :
    let request := strangeRequest (.changePassword "first".toList "second".toList)
    let served := oneAddressServer.serve plainEnv strangeWeather request
    oneAddressServer.acl.isAllowed plainEnv.nets (.v4 0xC6336401#32) = false ∧
      request.peer = some (.v4 0xC6336401#32) ∧
      oneAddressServer.admits plainEnv strangeWeather request = true ∧
      served.1.status = 200 ∧
      oneAddressServer.db.settings.lookup passwordHashKey = some "first".toList ∧
      served.2.db.settings.lookup passwordHashKey = some "second".toList := by
  refine ⟨?_, rfl, ?_, ?_, ?_, ?_⟩ <;> decide +kernel

end Denied

end RustBlocker
