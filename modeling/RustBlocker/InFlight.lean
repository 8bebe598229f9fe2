import RustBlocker.Filtering
import RustBlocker.Library.Tasks
import RustBlocker.Recording

/-!
# Requests in flight

Many requests are handled at a time, on many threads, while the lists, the rules and the settings
change.  `handle_request` is taken apart into the steps between which others can come.

* **Permits.**  A request takes one or is turned away, and gives it back when its future is gone:
  at its end, or where it waits and is dropped.
* **Locks.**  Each step reads under one lock, which it then leaves.  Only the lock of the
  allowlist is held while the blocklist is read, so that both are read in one step.
* **Waiting.**  A response is sent, or the forwarder resolves.

## Against the whole handler

There is no one server that a request is handled on: the control list may be that of its first
millisecond and the sinkholes those of its last.  What it has read is kept beside it
(`RequestTask.view`), and what the server has been since it came (`RequestTask.seen`); neither is
in the code, and no step looks at them.  `RequestPoint.follows` says of each step that it is the
handler's own on the view, whatever the server has become, so that at its end the request has
made the calls of `handleRequest` on the view.  `SeenIn` says how the view hangs together with
what was seen: field by field, but for the two lists, which are read at once.

## Results

* `traffic_of_exec`: after every run each request that has ended has made the calls of the
  handler on such a view, the permits and the counters are those of the calls, and there are
  never more requests upstream than permits.  An edit may be any function of the server: nothing
  is assumed of who edits what, only that an edit touches neither permits nor counters.
* `respected_of_exec`: what holds in all states that a request has seen is respected.  It speaks
  of the requests that have ended.  One that is still running or whose future was dropped has
  made some of the calls, but no sentence about all of its calls follows.
* `availablePermits` is left out of `SeenIn`.  The permits go up and down with the other requests,
  not with edits, and the number that a request finds is of the instant at which it tries; it is
  in the view, but it is not said in which state that was seen.
-/

namespace RustBlocker

/-! ## The steps of a request

`handle_request` takes a lock for a moment each time it reads something shared, and may be
suspended at a send or a resolution.  A point is a place between two such moments, with what was
read so far. -/

/-- What `handle_request` does next.  What it has read and still needs is carried along. -/
inductive RequestPoint where
  | acquire
  | reject
  | acl
  | rewrites (query : Query)
  | rewritten (query : Query) (rdata : RData)
  | lists (query : Query)
  | blocked (query : Query)
  | mode (query : Query)
  | sinkholeIpv4 (query : Query) (mode : BlockResponseMode)
  | sinkholeIpv6 (query : Query) (mode : BlockResponseMode) (ipv4 : Ipv4Addr)
  | respond (response : Message)
  | resolve (query : Query) (action : QueryAction)
  | resolved (entry : QueryEntry) (info : ResponseInfo)
  | done (info : ResponseInfo)

/-- It waits, and its future can be dropped. -/
def RequestPoint.waits : RequestPoint → Bool
  | respond _ | resolve .. => true
  | _ => false

/-- It is at work upstream. -/
def RequestPoint.resolves : RequestPoint → Bool
  | resolve .. => true
  | _ => false

section Steps

variable {Net : Type} (nets : IpNets Net) (u : CaseTables) (hash : Bytes → UInt64)
  (display : Name → Str)

/-- **A step of a request**: what comes next, and the call that it makes. -/
def RequestPoint.next (s : DnsServer Net) (request : Request) (weather : RequestWeather) :
    RequestPoint → RequestPoint × List HandlerCall
  | acquire => (if s.availablePermits = 0 then reject else acl, [])
  | reject => (respond (errorMsg .servFail), [.recordReject])
  | acl =>
      if !s.acl.isAllowed nets request.src then (respond (errorMsg .refused), [])
      else
        match request.queries.head? with
        | none => (respond (errorMsg .formErr), [])
        | some query =>
            if query.queryClass ≠ .IN then (respond (errorMsg .refused), [])
            else (rewrites query, [])
  | rewrites query =>
      match s.rewriteRdata u display query with
      | some rdata => (rewritten query rdata, [])
      | none => (lists query, [])
  | rewritten query rdata =>
      (respond { responseCode := .noError, answers := [⟨query.name, 60, rdata⟩] },
        [.record (DnsServer.queryEntry u display request query .rewritten)])
  | lists query =>
      let allowlisted := s.listed u hash display query .allowlist
      if !allowlisted && s.listed u hash display query .blocklist then (blocked query, [])
      else (resolve query (if allowlisted then .allowed else .forwarded), [])
  | blocked query =>
      (mode query, [.record (DnsServer.queryEntry u display request query .blocked)])
  | mode query => (sinkholeIpv4 query s.blockResponseMode, [])
  | sinkholeIpv4 query blockMode => (sinkholeIpv6 query blockMode s.sinkholeIpv4, [])
  | sinkholeIpv6 query blockMode ipv4 =>
      (respond (blockedMessage request query.name
        (blockedResponse blockMode query.queryType ipv4 s.sinkholeIpv6)), [])
  | respond response => (done ((weather.sends response).getD serveFailed), [.respond response])
  | resolve query action =>
      let entry := DnsServer.queryEntry u display request query action
      match weather.resolved with
      | none => (resolved entry serveFailed, [.resolve])
      | some result =>
          (resolved { entry with
            resolver := some result.resolver
            latencyUs := some result.latencyUs } result.info, [.resolve])
  | resolved entry info => (done info, [.record entry])
  | done info => (done info, [])

end Steps

/-! ## The traffic

All requests at once, and the edits that come between their steps.  Permits are taken and given
back by the tasks; a future that is dropped gives its permit back as well. -/

/-- A request that is being handled, with the calls it has made and, for the account, what it has
seen and read. -/
structure RequestTask (Net : Type) where
  request : Request
  point : RequestPoint := .acquire
  permit : Bool := false
  /-- The calls it has made. -/
  calls : List HandlerCall := []
  /-- What the server has been since it came: the state that it met, and one for each edit
  since.  No step reads it. -/
  seen : List (DnsServer Net)
  /-- What it has read, field by field, and otherwise what was there when it came.  No step reads
  it; it is the server that the request is compared on. -/
  view : DnsServer Net

/-- The requests, and the server that they share.  Those that have ended or were dropped are kept
for the account. -/
structure DnsTraffic (Net : Type) where
  server : DnsServer Net
  tasks : List (RequestTask Net) := []
  ended : List (RequestTask Net × ResponseInfo) := []
  dropped : List (RequestTask Net) := []

inductive TrafficEvent (Net : Type) where
  /-- An edit of the lists, the rules or the settings. -/
  | write (change : DnsServer Net → DnsServer Net)
  | arrive (request : Request)
  | advance (index : Nat) (weather : RequestWeather)
  | drop (index : Nat)

section Traffic

variable {Net : Type} (nets : IpNets Net) (u : CaseTables) (hash : Bytes → UInt64)
  (display : Name → Str)

/-- What a step reads of the server. -/
def RequestPoint.read (s view : DnsServer Net) : RequestPoint → DnsServer Net
  | acquire => { view with availablePermits := s.availablePermits }
  | acl => { view with acl := s.acl }
  | rewrites _ => { view with rewrites := s.rewrites }
  | lists _ => { view with lists := s.lists }
  | mode _ => { view with blockResponseMode := s.blockResponseMode }
  | sinkholeIpv4 .. => { view with sinkholeIpv4 := s.sinkholeIpv4 }
  | sinkholeIpv6 .. => { view with sinkholeIpv6 := s.sinkholeIpv6 }
  | _ => view

/-- The task after its next step. -/
def RequestTask.advance (s : DnsServer Net) (weather : RequestWeather) (task : RequestTask Net) :
    RequestTask Net :=
  let next := task.point.next nets u hash display s task.request weather
  { task with
    point := next.1
    calls := task.calls ++ next.2
    view := task.point.read s task.view
    permit :=
      match task.point with
      | .acquire => s.availablePermits ≠ 0
      | _ => task.permit }

namespace DnsServer

/-- The edits change neither the permits nor the counters. -/
def edited (s : DnsServer Net) (change : DnsServer Net → DnsServer Net) : DnsServer Net :=
  { change s with
    availablePermits := s.availablePermits
    rejected := s.rejected
    queryLog := s.queryLog }

/-- `try_acquire`, where that is the next step, and the calls of the step. -/
def effect (s : DnsServer Net) (task next : RequestTask Net) (calls : List HandlerCall) :
    DnsServer Net :=
  calls.foldl perform
    { s with availablePermits := s.availablePermits + task.permit.toNat - next.permit.toNat }

/-- The permit of a future that is gone. -/
def release (s : DnsServer Net) (task : RequestTask Net) : DnsServer Net :=
  { s with availablePermits := s.availablePermits + task.permit.toNat }

end DnsServer

/-- **One event.** -/
def DnsTraffic.step (s : DnsTraffic Net) : TrafficEvent Net → Option (DnsTraffic Net)
  | .write change =>
      let server := s.server.edited change
      some { s with
        server
        tasks := s.tasks.map fun task => { task with seen := task.seen ++ [server] } }
  | .arrive request =>
      some { s with
        tasks := s.tasks ++ [{ request, seen := [s.server], view := s.server }] }
  | .advance index weather => do
      let task ← s.tasks[index]?
      match task.point with
      | .done info =>
          some { s with
            server := s.server.release task
            tasks := s.tasks.eraseIdx index
            ended := s.ended ++ [(task, info)] }
      | point =>
          let next := task.advance nets u hash display s.server weather
          some { s with
            server := s.server.effect task next
              (point.next nets u hash display s.server task.request weather).2
            tasks := s.tasks.set index next }
  | .drop index => do
      let task ← s.tasks[index]?
      if task.point.waits then
        some { s with
          server := s.server.release task
          tasks := s.tasks.eraseIdx index
          dropped := s.dropped ++ [task] }
      else none

/-- The machine. -/
def dnsTraffic : StateMachine (DnsTraffic Net) (TrafficEvent Net) where
  init s := s = { server := s.server }
  step := DnsTraffic.step nets u hash display

end Traffic

/-! ## A request against the whole handler

The steps are compared with the handler that runs without interruption, on a server put together
of what the request has read: the rules of one moment, the lists of another, the mode of a third.
-/

section Comparison

variable {Net : Type} (nets : IpNets Net) (u : CaseTables) (hash : Bytes → UInt64)
  (display : Name → Str)

/-- On the server `v` the handler comes to the point, with the calls.  Before a response or a
resolution it says what the handler has found so far.  At `respond` the rest of the handler is
known, whatever the weather; at `resolved` and `done` the weather is the one that was met. -/
def Arrives (v : DnsServer Net) (request : Request) : RequestPoint → List HandlerCall → Prop
  | .acquire, calls => calls = []
  | .reject, calls => calls = [] ∧ v.availablePermits = 0
  | .acl, calls => calls = [] ∧ v.availablePermits ≠ 0
  | .rewrites query, calls => calls = [] ∧ Served nets v request query
  | .rewritten query rdata, calls =>
      calls = [] ∧ Served nets v request query ∧ v.rewriteRdata u display query = some rdata
  | .lists query, calls =>
      calls = [] ∧ Served nets v request query ∧ v.rewriteRdata u display query = none
  | .blocked query, calls => calls = [] ∧ Blocks nets u hash display v request query
  | .mode query, calls =>
      calls = [.record (DnsServer.queryEntry u display request query .blocked)] ∧
        Blocks nets u hash display v request query
  | .sinkholeIpv4 query mode, calls =>
      calls = [.record (DnsServer.queryEntry u display request query .blocked)] ∧
        Blocks nets u hash display v request query ∧ v.blockResponseMode = mode
  | .sinkholeIpv6 query mode ipv4, calls =>
      calls = [.record (DnsServer.queryEntry u display request query .blocked)] ∧
        Blocks nets u hash display v request query ∧ v.blockResponseMode = mode ∧
          v.sinkholeIpv4 = ipv4
  | .respond response, calls => ∀ weather,
      v.handleRequest nets u hash display request weather =
        DnsServer.answer weather calls response
  | .resolve query action, calls =>
      calls = [] ∧ Served nets v request query ∧ v.rewriteRdata u display query = none ∧
        (v.listed u hash display query .allowlist = true ∨
          v.listed u hash display query .blocklist = false) ∧
        action = if v.listed u hash display query .allowlist then .allowed else .forwarded
  | .resolved entry info, calls => ∃ weather,
      v.handleRequest nets u hash display request weather = (calls ++ [.record entry], info)
  | .done info, calls => ∃ weather,
      v.handleRequest nets u hash display request weather = (calls, info)

variable {nets u hash display}

/-! ### A step of a request against the handler -/

variable (nets u hash display) in
/-- **The step at a point is one of the handler**: if the handler on `v` comes to the point, then
on `v` with what the step reads from `s` it comes to the next point, with the calls of the step.
There is a lemma for each kind of point, and `RequestPoint.follows` for all. -/
def RequestPoint.Follows (s : DnsServer Net) (request : Request) (weather : RequestWeather)
    (point : RequestPoint) : Prop :=
  ∀ (v : DnsServer Net) (calls : List HandlerCall),
    Arrives nets u hash display v request point calls →
      Arrives nets u hash display (point.read s v) request
        (point.next nets u hash display s request weather).1
        (calls ++ (point.next nets u hash display s request weather).2)

section Follows

variable (s : DnsServer Net) (request : Request) (weather : RequestWeather)

/-- A permit is taken, or there is none. -/
theorem follows_acquire :
    RequestPoint.Follows nets u hash display s request weather .acquire := by
  rintro v calls rfl
  simp only [RequestPoint.next, RequestPoint.read]
  split
  next exhausted => exact ⟨rfl, exhausted⟩
  next permit => exact ⟨rfl, permit⟩

theorem follows_reject :
    RequestPoint.Follows nets u hash display s request weather .reject := by
  rintro v calls ⟨rfl, exhausted⟩ weather
  exact handleRequest_of_full weather exhausted

/-- The control list is read, and the question looked at. -/
theorem follows_acl : RequestPoint.Follows nets u hash display s request weather .acl := by
  rintro v calls ⟨rfl, permit⟩
  simp only [RequestPoint.next, RequestPoint.read]
  split
  next outside =>
    rw [Bool.not_eq_true'] at outside
    intro weather
    exact handleRequest_of_outside (s := { v with acl := s.acl }) weather permit outside
  next inside =>
  rw [Bool.not_eq_true', Bool.not_eq_false] at inside
  split
  next empty =>
    intro weather
    exact handleRequest_of_empty (s := { v with acl := s.acl }) weather permit inside empty
  next query first =>
  have asks : Asks nets { v with acl := s.acl } request query := ⟨permit, inside, first⟩
  split
  next other =>
    intro weather
    exact handleRequest_of_queryClass weather asks other
  next inClass => exact ⟨rfl, asks, not_not.mp inClass⟩

/-- A rule has an address for the question, or the lists are next. -/
theorem follows_rewrites (query : Query) :
    RequestPoint.Follows nets u hash display s request weather (.rewrites query) := by
  rintro v calls ⟨rfl, served⟩
  simp only [RequestPoint.next, RequestPoint.read]
  split
  next rdata found => exact ⟨rfl, served, found⟩
  next unwritten => exact ⟨rfl, served, unwritten⟩

theorem follows_rewritten (query : Query) (rdata : RData) :
    RequestPoint.Follows nets u hash display s request weather (.rewritten query rdata) := by
  rintro v calls ⟨rfl, served, found⟩ weather
  exact handleRequest_of_rewritten weather served found

/-- Both lists are read at once, so that the handler sees them as they were at one time. -/
theorem follows_lists (query : Query) :
    RequestPoint.Follows nets u hash display s request weather (.lists query) := by
  rintro v calls ⟨rfl, served, unwritten⟩
  simp only [RequestPoint.next, RequestPoint.read]
  split
  next blocked =>
    rw [Bool.and_eq_true, Bool.not_eq_true'] at blocked
    exact ⟨rfl, served, unwritten, blocked.1, blocked.2⟩
  next free =>
    rw [Bool.and_eq_true, Bool.not_eq_true', not_and, Bool.not_eq_true] at free
    refine ⟨rfl, served, unwritten, ?_, rfl⟩
    by_cases listed : s.listed u hash display query .allowlist = true
    · exact Or.inl listed
    · exact Or.inr (free (Bool.eq_false_of_not_eq_true listed))

/-- The mode and the sinkholes do not decide whether a question is blocked. -/
theorem Blocks.congr {v v' : DnsServer Net} {request : Request} {query : Query}
    (blocks : Blocks nets u hash display v request query)
    (permits : v'.availablePermits = v.availablePermits) (acl : v'.acl = v.acl)
    (rewrites : v'.rewrites = v.rewrites) (lists : v'.lists = v.lists) :
    Blocks nets u hash display v' request query := by
  obtain ⟨⟨⟨permit, inside, first⟩, inClass⟩, unwritten, unlisted, listed⟩ := blocks
  refine ⟨⟨⟨?_, ?_, first⟩, inClass⟩, ?_, ?_, ?_⟩
  · rwa [permits]
  · rwa [acl]
  · rwa [DnsServer.rewriteRdata, rewrites]
  · rwa [DnsServer.listed, lists]
  · rwa [DnsServer.listed, lists]

theorem follows_blocked (query : Query) :
    RequestPoint.Follows nets u hash display s request weather (.blocked query) := by
  rintro v calls ⟨rfl, blocks⟩
  exact ⟨rfl, blocks⟩

theorem follows_mode (query : Query) :
    RequestPoint.Follows nets u hash display s request weather (.mode query) := by
  rintro v calls ⟨rfl, blocks⟩
  exact ⟨rfl, blocks.congr rfl rfl rfl rfl, rfl⟩

theorem follows_sinkholeIpv4 (query : Query) (mode : BlockResponseMode) :
    RequestPoint.Follows nets u hash display s request weather (.sinkholeIpv4 query mode) := by
  rintro v calls ⟨rfl, blocks, reads⟩
  exact ⟨rfl, blocks.congr rfl rfl rfl rfl, reads, rfl⟩

/-- The last that is read for a blocked question; what it is answered with was read at three
times. -/
theorem follows_sinkholeIpv6 (query : Query) (mode : BlockResponseMode) (ipv4 : Ipv4Addr) :
    RequestPoint.Follows nets u hash display s request weather
      (.sinkholeIpv6 query mode ipv4) := by
  rintro v calls ⟨rfl, blocks, rfl, rfl⟩ weather
  exact handleRequest_of_blocks (s := { v with sinkholeIpv6 := s.sinkholeIpv6 }) weather
    (blocks.congr rfl rfl rfl rfl)

theorem follows_respond (response : Message) :
    RequestPoint.Follows nets u hash display s request weather (.respond response) :=
  fun _ _ arrives => ⟨weather, arrives weather⟩

/-- The forwarder resolves the question, or it fails. -/
theorem follows_resolve (query : Query) (action : QueryAction) :
    RequestPoint.Follows nets u hash display s request weather (.resolve query action) := by
  rintro v calls ⟨rfl, served, unwritten, passes, rfl⟩
  have whole := handleRequest_of_free weather served unwritten passes
  simp only [RequestPoint.next, RequestPoint.read]
  unfold DnsServer.forward at whole
  cases resolved : weather.resolved with
  | none =>
      rw [resolved] at whole
      exact ⟨weather, whole⟩
  | some result =>
      rw [resolved] at whole
      exact ⟨weather, whole⟩

theorem follows_resolved (entry : QueryEntry) (info : ResponseInfo) :
    RequestPoint.Follows nets u hash display s request weather (.resolved entry info) :=
  fun _ _ arrives => arrives

theorem follows_done (info : ResponseInfo) :
    RequestPoint.Follows nets u hash display s request weather (.done info) := by
  intro v calls arrives
  simp only [RequestPoint.next, RequestPoint.read, List.append_nil]
  exact arrives

/-- **A step that reads from `s` is one of the handler on the server it has read.** -/
theorem RequestPoint.follows (point : RequestPoint) :
    point.Follows nets u hash display s request weather := by
  cases point with
  | acquire => exact follows_acquire s request weather
  | reject => exact follows_reject s request weather
  | acl => exact follows_acl s request weather
  | rewrites query => exact follows_rewrites s request weather query
  | rewritten query rdata => exact follows_rewritten s request weather query rdata
  | lists query => exact follows_lists s request weather query
  | blocked query => exact follows_blocked s request weather query
  | mode query => exact follows_mode s request weather query
  | sinkholeIpv4 query mode => exact follows_sinkholeIpv4 s request weather query mode
  | sinkholeIpv6 query mode ipv4 => exact follows_sinkholeIpv6 s request weather query mode ipv4
  | respond response => exact follows_respond s request weather response
  | resolve query action => exact follows_resolve s request weather query action
  | resolved entry info => exact follows_resolved s request weather entry info
  | done info => exact follows_done s request weather info

end Follows

end Comparison

/-! ## What a request has seen

A request never sees the server as a whole.  `SeenIn` says that everything it has read was there
in some state since it began, each thing perhaps in another one; the permits and the counters are
not among these things. -/

section Views

variable {Net : Type}

/-- **What was read of the server was there** in one of the states that were seen, though not
all of it in the same.  The number of permits is not among what was seen: it changes with the
other requests, between the states that are kept. -/
structure SeenIn (seen : List (DnsServer Net)) (v : DnsServer Net) : Prop where
  acl : ∃ t ∈ seen, t.acl = v.acl
  rewrites : ∃ t ∈ seen, t.rewrites = v.rewrites
  /-- The two lists were read together. -/
  lists : ∃ t ∈ seen, t.lists = v.lists
  blockResponseMode : ∃ t ∈ seen, t.blockResponseMode = v.blockResponseMode
  sinkholeIpv4 : ∃ t ∈ seen, t.sinkholeIpv4 = v.sinkholeIpv4
  sinkholeIpv6 : ∃ t ∈ seen, t.sinkholeIpv6 = v.sinkholeIpv6

/-- The same but for the permits and the counters, which no request has seen in the sense of
`SeenIn`. -/
def SameRules (s t : DnsServer Net) : Prop :=
  { s with
    availablePermits := t.availablePermits
    rejected := t.rejected
    queryLog := t.queryLog } = t

theorem SameRules.seenIn {seen : List (DnsServer Net)} {s t : DnsServer Net} (mem : s ∈ seen)
    (same : SameRules s t) : SeenIn seen t := by
  unfold SameRules at same
  rw [← same]
  exact ⟨⟨s, mem, rfl⟩, ⟨s, mem, rfl⟩, ⟨s, mem, rfl⟩, ⟨s, mem, rfl⟩, ⟨s, mem, rfl⟩,
    ⟨s, mem, rfl⟩⟩

theorem SeenIn.mono {seen later : List (DnsServer Net)} {v : DnsServer Net}
    (here : SeenIn seen v) (more : ∀ t ∈ seen, t ∈ later) : SeenIn later v := by
  have lift : ∀ {p : DnsServer Net → Prop}, (∃ t ∈ seen, p t) → ∃ t ∈ later, p t :=
    fun ⟨t, mem, holds⟩ => ⟨t, more t mem, holds⟩
  exact ⟨lift here.acl, lift here.rewrites, lift here.lists, lift here.blockResponseMode,
    lift here.sinkholeIpv4, lift here.sinkholeIpv6⟩

/-- What is read next is what the server is now. -/
theorem SeenIn.read {seen : List (DnsServer Net)} {s v : DnsServer Net} (now : SeenIn seen s)
    (here : SeenIn seen v) (point : RequestPoint) : SeenIn seen (point.read s v) := by
  cases point with
  | acl => exact { here with acl := now.acl }
  | rewrites query => exact { here with rewrites := now.rewrites }
  | lists query => exact { here with lists := now.lists }
  | mode query => exact { here with blockResponseMode := now.blockResponseMode }
  | sinkholeIpv4 query mode => exact { here with sinkholeIpv4 := now.sinkholeIpv4 }
  | sinkholeIpv6 query mode ipv4 => exact { here with sinkholeIpv6 := now.sinkholeIpv6 }
  | acquire => exact ⟨here.acl, here.rewrites, here.lists, here.blockResponseMode,
      here.sinkholeIpv4, here.sinkholeIpv6⟩
  | reject | rewritten query rdata | blocked query | respond response | resolve query action
  | resolved entry info | done info => exact here

/-- The number of requests that a call turns away. -/
def HandlerCall.rejects : HandlerCall → Bool
  | recordReject => true
  | _ => false

/-- **What calls do to the server**: they count. -/
theorem foldl_perform (calls : List HandlerCall) (s : DnsServer Net) :
    calls.foldl DnsServer.perform s = { s with
      rejected := s.rejected + UInt64.ofNat (calls.countP HandlerCall.rejects)
      queryLog := (calls.filterMap HandlerCall.entry?).foldl QueryLog.record s.queryLog } := by
  induction calls generalizing s with
  | nil => simp
  | cons call rest ih =>
      rw [List.foldl_cons, ih]
      cases call with
      | recordReject =>
          have one : s.rejected + 1 + UInt64.ofNat (rest.countP HandlerCall.rejects) =
              s.rejected + UInt64.ofNat (rest.countP HandlerCall.rejects + 1) := by
            rw [UInt64.ofNat_add, UInt64.add_assoc, UInt64.add_comm 1]
            rfl
          simp only [DnsServer.perform, List.countP_cons, HandlerCall.rejects, if_true, one]
          rfl
      | respond response => rfl
      | resolve => rfl
      | record entry => rfl

end Views

/-! ## The traffic

What is kept in every state: each request is handled as on one server that was seen in this sense,
no more permits are out than there are, and the counters are those of the calls made so far. -/

section Machine

variable {Net : Type} (nets : IpNets Net) (u : CaseTables) (hash : Bytes → UInt64)
  (display : Name → Str)

/-- **A request is handled as on one server**, which is put together of what was there
meanwhile. -/
structure RequestTask.Traced (server : DnsServer Net) (task : RequestTask Net) : Prop where
  arrives : Arrives nets u hash display task.view task.request task.point task.calls
  seen : SeenIn task.seen task.view
  /-- The last that was seen is what is there now. -/
  now : ∃ t ∈ task.seen, SameRules t server
  /-- A request without a permit waits for one, or it is turned away. -/
  permit : task.permit = false → task.point = .acquire ∨ task.view.availablePermits = 0

/-- The calls of all requests. -/
def DnsTraffic.calls (s : DnsTraffic Net) : List HandlerCall :=
  s.tasks.flatMap RequestTask.calls ++ s.ended.flatMap (fun request => request.1.calls) ++
    s.dropped.flatMap RequestTask.calls

/-- The permits that are taken. -/
def DnsTraffic.held (s : DnsTraffic Net) : Nat := s.tasks.countP RequestTask.permit

/-- **The traffic is in order**, from the server `first` on: no permit is lost, every request is
handled as on one server, and the counters are those of the calls. -/
structure DnsTraffic.InOrder (first : DnsServer Net) (s : DnsTraffic Net) : Prop where
  /-- No permit is lost, and none is made. -/
  permits : s.server.availablePermits + s.held = first.availablePermits
  /-- Every running request has taken one, or it is turned away. -/
  tasks : ∀ task ∈ s.tasks, task.Traced nets u hash display s.server
  /-- A request that has ended has made the calls of the handler. -/
  ended : ∀ request ∈ s.ended, SeenIn request.1.seen request.1.view ∧ ∃ weather,
    request.1.view.handleRequest nets u hash display request.1.request weather =
      (request.1.calls, request.2)
  rejected : s.server.rejected =
    first.rejected + UInt64.ofNat (s.calls.countP HandlerCall.rejects)
  queryLog : s.server.queryLog =
    (s.calls.filterMap HandlerCall.entry?).foldl QueryLog.record first.queryLog

variable {nets u hash display} {s t : DnsTraffic Net} {first : DnsServer Net}
  {event : TrafficEvent Net} {task : RequestTask Net} {index : Nat}

theorem RequestTask.Traced.congr {server server' : DnsServer Net}
    (traced : task.Traced nets u hash display server)
    (same : ∀ t, SameRules t server → SameRules t server') :
    task.Traced nets u hash display server' :=
  { traced with now := traced.now.imp fun t seen => ⟨seen.1, same t seen.2⟩ }

/-- The permits and the counters are not seen. -/
theorem sameRules_of_counted {server : DnsServer Net} (permits : Nat) (rejected : UInt64)
    (log : QueryLog) (t : DnsServer Net) (same : SameRules t server) :
    SameRules t { server with
      availablePermits := permits
      rejected
      queryLog := log } := by
  unfold SameRules at same ⊢
  rw [← same]

/-- The next step of a request. -/
theorem RequestTask.Traced.advance {server : DnsServer Net}
    (traced : task.Traced nets u hash display server) (weather : RequestWeather) :
    (task.advance nets u hash display server weather).Traced nets u hash display server where
  arrives := task.point.follows server task.request weather task.view task.calls traced.arrives
  seen := by
    obtain ⟨t, mem, same⟩ := traced.now
    exact (same.seenIn mem).read traced.seen task.point
  now := traced.now
  permit without := by
    right
    unfold RequestTask.advance at without ⊢
    cases point : task.point with
    | acquire =>
        simp only [point] at without
        exact not_not.mp (of_decide_eq_false without)
    | acl | rewrites query | lists query | mode query | sinkholeIpv4 query mode
    | sinkholeIpv6 query mode ipv4 | reject | rewritten query rdata | blocked query
    | respond response | resolve query action | resolved entry info | done info =>
        simp only [point] at without
        have before := traced.permit without
        simp only [point, reduceCtorEq, false_or] at before
        exact before

/-! ### One event -/

variable (nets u hash display) in
/-- What an event does: a case for each kind of event, with the request that it is about. -/
inductive DnsTraffic.Does (s : DnsTraffic Net) : TrafficEvent Net → DnsTraffic Net → Prop
  | write (change : DnsServer Net → DnsServer Net) :
      s.Does (.write change) { s with
        server := s.server.edited change
        tasks := s.tasks.map fun task =>
          { task with seen := task.seen ++ [s.server.edited change] } }
  | arrive (request : Request) :
      s.Does (.arrive request) { s with
        tasks := s.tasks ++ [{ request, seen := [s.server], view := s.server }] }
  | advance {index : Nat} {task : RequestTask Net} (weather : RequestWeather)
      (here : s.tasks[index]? = some task) :
      s.Does (.advance index weather) { s with
        server := s.server.effect task (task.advance nets u hash display s.server weather)
          (task.point.next nets u hash display s.server task.request weather).2
        tasks := s.tasks.set index (task.advance nets u hash display s.server weather) }
  | ends {index : Nat} {task : RequestTask Net} {info : ResponseInfo} (weather : RequestWeather)
      (here : s.tasks[index]? = some task) (point : task.point = .done info) :
      s.Does (.advance index weather) { s with
        server := s.server.release task
        tasks := s.tasks.eraseIdx index
        ended := s.ended ++ [(task, info)] }
  | drop {index : Nat} {task : RequestTask Net} (here : s.tasks[index]? = some task) :
      s.Does (.drop index) { s with
        server := s.server.release task
        tasks := s.tasks.eraseIdx index
        dropped := s.dropped ++ [task] }

theorem DnsTraffic.does_of_step (stepped : s.step nets u hash display event = some t) :
    s.Does nets u hash display event t := by
  cases event with
  | write change =>
      obtain rfl := Option.some.inj stepped
      exact .write change
  | arrive request =>
      obtain rfl := Option.some.inj stepped
      exact .arrive request
  | advance index weather =>
      obtain ⟨task, here, stepped⟩ := Option.bind_eq_some_iff.mp stepped
      split at stepped
      next info point =>
        obtain rfl := Option.some.inj stepped
        exact .ends weather here point
      next =>
        obtain rfl := Option.some.inj stepped
        exact .advance weather here
  | drop index =>
      obtain ⟨task, here, stepped⟩ := Option.bind_eq_some_iff.mp stepped
      split at stepped
      next =>
        obtain rfl := Option.some.inj stepped
        exact .drop here
      next => cases stepped

/-- The calls of a request that has taken a step are some more. -/
theorem calls_set (here : s.tasks[index]? = some task) (next : RequestTask Net)
    {more : List HandlerCall} (calls : next.calls = task.calls ++ more) :
    ((s.tasks.set index next).flatMap RequestTask.calls).Perm
      (s.tasks.flatMap RequestTask.calls ++ more) := by
  have now := (Tasks.set_perm here next).flatMap_right RequestTask.calls
  have was := (Tasks.perm_of_getElem? here).flatMap_right RequestTask.calls
  rw [List.flatMap_cons] at now was
  rw [calls, List.append_assoc] at now
  refine now.trans (List.Perm.trans ?_ (was.symm.append_right more))
  rw [List.append_assoc]
  exact (List.perm_append_comm).append_left _

/-- The calls of a request whose future is gone are kept. -/
theorem calls_eraseIdx (here : s.tasks[index]? = some task) :
    (task.calls ++ (s.tasks.eraseIdx index).flatMap RequestTask.calls).Perm
      (s.tasks.flatMap RequestTask.calls) := by
  have was := (Tasks.perm_of_getElem? here).flatMap_right RequestTask.calls
  rw [List.flatMap_cons] at was
  exact was.symm

/-- The counters are those of the calls, in any order. -/
theorem DnsTraffic.InOrder.counted (order : s.InOrder nets u hash display first)
    {calls more : List HandlerCall} (perm : calls.Perm (s.calls ++ more)) :
    s.server.rejected + UInt64.ofNat (more.countP HandlerCall.rejects) =
        first.rejected + UInt64.ofNat (calls.countP HandlerCall.rejects) ∧
      (more.filterMap HandlerCall.entry?).foldl QueryLog.record s.server.queryLog =
        (calls.filterMap HandlerCall.entry?).foldl QueryLog.record first.queryLog := by
  constructor
  · rw [order.rejected, perm.countP_eq, List.countP_append, UInt64.ofNat_add, UInt64.add_assoc]
  · rw [order.queryLog, ← List.foldl_append, ← List.filterMap_append]
    exact (QueryLog.foldl_record_of_perm (perm.filterMap _) _).symm

/-- A step that takes a permit finds one. -/
theorem permit_le (server : DnsServer Net) (weather : RequestWeather) (task : RequestTask Net) :
    (task.advance nets u hash display server weather).permit.toNat ≤
      server.availablePermits + task.permit.toNat := by
  unfold RequestTask.advance
  split
  next =>
    by_cases exhausted : server.availablePermits = 0
    · simp [exhausted]
    · exact (Bool.toNat_le _).trans
        ((Nat.one_le_iff_ne_zero.mpr exhausted).trans (Nat.le_add_right _ _))
  next => exact Nat.le_add_left _ _

/-- A future that is gone gives back its permit, and keeps its calls. -/
theorem DnsTraffic.InOrder.gone (order : s.InOrder nets u hash display first)
    (here : s.tasks[index]? = some task) {t : DnsTraffic Net}
    (server : t.server = s.server.release task) (tasks : t.tasks = s.tasks.eraseIdx index)
    (calls : (t.ended.flatMap (fun request => request.1.calls) ++
        t.dropped.flatMap RequestTask.calls).Perm
      (task.calls ++ (s.ended.flatMap (fun request => request.1.calls) ++
        s.dropped.flatMap RequestTask.calls)))
    (ended : ∀ request ∈ t.ended, SeenIn request.1.seen request.1.view ∧ ∃ weather,
      request.1.view.handleRequest nets u hash display request.1.request weather =
        (request.1.calls, request.2)) : t.InOrder nets u hash display first := by
  have perm : t.calls.Perm (s.calls ++ []) := by
    unfold DnsTraffic.calls
    rw [tasks, List.append_assoc, List.append_nil, List.append_assoc]
    refine (calls.append_left _).trans ?_
    rw [← List.append_assoc]
    exact ((List.perm_append_comm).trans (calls_eraseIdx here)).append_right _
  obtain ⟨rejected, queryLog⟩ := order.counted perm
  refine
    { permits := ?_
      tasks := fun other mem => ?_
      ended := ended
      rejected := ?_
      queryLog := ?_ }
  · have fewer := Tasks.countP_eraseIdx RequestTask.permit here
    have permits := order.permits
    rw [server, DnsTraffic.held, tasks]
    unfold DnsTraffic.held at permits
    change s.server.availablePermits + task.permit.toNat + _ = _
    omega
  · rw [tasks] at mem
    rw [server]
    exact (order.tasks other (List.mem_of_mem_eraseIdx mem)).congr (sameRules_of_counted _ _ _)
  · rw [server]
    exact (UInt64.add_zero _).symm.trans rejected
  · rw [server]
    exact queryLog

/-- An edit reaches the server, and every running request sees it. -/
theorem DnsTraffic.InOrder.write (order : s.InOrder nets u hash display first)
    (change : DnsServer Net → DnsServer Net) :
    DnsTraffic.InOrder nets u hash display first { s with
      server := s.server.edited change
      tasks := s.tasks.map fun task =>
        { task with seen := task.seen ++ [s.server.edited change] } } := by
  have calls : (s.tasks.map fun task => { task with
      seen := task.seen ++ [s.server.edited change] }).flatMap RequestTask.calls =
      s.tasks.flatMap RequestTask.calls := by
    rw [List.flatMap_map]
  have held : (s.tasks.map fun task => { task with
      seen := task.seen ++ [s.server.edited change] }).countP RequestTask.permit =
      s.tasks.countP RequestTask.permit := by
    rw [List.countP_map]
    rfl
  refine
    { permits := ?_
      tasks := fun task mem => ?_
      ended := order.ended
      rejected := ?_
      queryLog := ?_ }
  · refine Eq.trans ?_ order.permits
    exact congrArg (s.server.availablePermits + ·) held
  · obtain ⟨before, running, rfl⟩ := List.mem_map.mp mem
    have traced := order.tasks before running
    exact
      { arrives := traced.arrives
        seen := traced.seen.mono fun t mem => List.mem_append_left _ mem
        now := ⟨_, List.mem_append_right _ (List.mem_singleton_self _), rfl⟩
        permit := traced.permit }
  · rw [DnsTraffic.calls, calls]
    exact order.rejected
  · rw [DnsTraffic.calls, calls]
    exact order.queryLog

/-- A request comes: it has made no calls, and what it sees first is the server as it is. -/
theorem DnsTraffic.InOrder.arrive (order : s.InOrder nets u hash display first)
    (request : Request) :
    DnsTraffic.InOrder nets u hash display first { s with
      tasks := s.tasks ++ [{ request, seen := [s.server], view := s.server }] } := by
  have calls (new : RequestTask Net) (silent : new.calls = []) :
      (s.tasks ++ [new]).flatMap RequestTask.calls = s.tasks.flatMap RequestTask.calls := by
    simp [silent]
  refine
    { permits := ?_
      tasks := fun task mem => ?_
      ended := order.ended
      rejected := ?_
      queryLog := ?_ }
  · refine Eq.trans ?_ order.permits
    simp [DnsTraffic.held]
  · rcases List.mem_append.mp mem with mem | mem
    · exact order.tasks task mem
    · obtain rfl := List.mem_singleton.mp mem
      have here := List.mem_singleton_self s.server
      exact
        { arrives := rfl
          seen := SameRules.seenIn here rfl
          now := ⟨s.server, here, rfl⟩
          permit := fun _ => Or.inl rfl }
  · rw [DnsTraffic.calls, calls _ rfl]
    exact order.rejected
  · rw [DnsTraffic.calls, calls _ rfl]
    exact order.queryLog

/-- A request takes a step: the permit that it may take is one of those left, and its calls are
counted. -/
theorem DnsTraffic.InOrder.advance (order : s.InOrder nets u hash display first)
    (here : s.tasks[index]? = some task) (weather : RequestWeather) :
    DnsTraffic.InOrder nets u hash display first { s with
      server := s.server.effect task (task.advance nets u hash display s.server weather)
        (task.point.next nets u hash display s.server task.request weather).2
      tasks := s.tasks.set index (task.advance nets u hash display s.server weather) } := by
  have traced := order.tasks task (List.mem_of_getElem? here)
  let next := task.advance nets u hash display s.server weather
  let more := (task.point.next nets u hash display s.server task.request weather).2
  have perm : ((s.tasks.set index next).flatMap RequestTask.calls ++
      s.ended.flatMap (fun request => request.1.calls) ++
        s.dropped.flatMap RequestTask.calls).Perm (s.calls ++ more) := by
    unfold DnsTraffic.calls
    rw [List.append_assoc, List.append_assoc (s.tasks.flatMap RequestTask.calls),
      List.append_assoc (s.tasks.flatMap RequestTask.calls)]
    refine ((calls_set here next rfl).append_right _).trans ?_
    rw [List.append_assoc (s.tasks.flatMap RequestTask.calls)]
    exact (List.perm_append_comm).append_left _
  obtain ⟨rejected, queryLog⟩ := order.counted perm
  have effect := foldl_perform more { s.server with
    availablePermits := s.server.availablePermits + task.permit.toNat - next.permit.toNat }
  change s.server.effect task next more = _ at effect
  refine
    { permits := ?_
      tasks := fun other mem => ?_
      ended := order.ended
      rejected := ?_
      queryLog := ?_ }
  · have moved := Tasks.countP_set RequestTask.permit here next
    have enough : next.permit.toNat ≤ s.server.availablePermits + task.permit.toNat :=
      permit_le s.server weather task
    have permits := order.permits
    unfold DnsTraffic.held at permits ⊢
    rw [effect]
    change s.server.availablePermits + task.permit.toNat - next.permit.toNat +
      (s.tasks.set index next).countP RequestTask.permit = _
    omega
  · rw [effect]
    rcases List.mem_cons.mp ((Tasks.set_perm here next).mem_iff.mp mem) with rfl | mem
    · exact (traced.advance weather).congr (sameRules_of_counted _ _ _)
    · exact (order.tasks other (List.mem_of_mem_eraseIdx mem)).congr
        (sameRules_of_counted _ _ _)
  · rw [effect]
    exact rejected
  · rw [effect]
    exact queryLog

/-- A request ends: it has come through the handler. -/
theorem DnsTraffic.InOrder.ends (order : s.InOrder nets u hash display first)
    {info : ResponseInfo} (here : s.tasks[index]? = some task)
    (point : task.point = .done info) :
    DnsTraffic.InOrder nets u hash display first { s with
      server := s.server.release task
      tasks := s.tasks.eraseIdx index
      ended := s.ended ++ [(task, info)] } := by
  refine order.gone here rfl rfl ?_ fun request mem => ?_
  · simp only [List.flatMap_append, List.flatMap_cons, List.flatMap_nil, List.append_nil]
    rw [← List.append_assoc task.calls]
    exact (List.perm_append_comm).append_right _
  · rcases List.mem_append.mp mem with mem | mem
    · exact order.ended request mem
    · obtain rfl := List.mem_singleton.mp mem
      have traced := order.tasks task (List.mem_of_getElem? here)
      have arrives := traced.arrives
      rw [point] at arrives
      exact ⟨traced.seen, arrives⟩

/-- The future of a request is dropped, wherever it waited. -/
theorem DnsTraffic.InOrder.drop (order : s.InOrder nets u hash display first)
    (here : s.tasks[index]? = some task) :
    DnsTraffic.InOrder nets u hash display first { s with
      server := s.server.release task
      tasks := s.tasks.eraseIdx index
      dropped := s.dropped ++ [task] } := by
  refine order.gone here rfl rfl ?_ order.ended
  simp only [List.flatMap_append, List.flatMap_cons, List.flatMap_nil, List.append_nil]
  rw [← List.append_assoc]
  exact List.perm_append_comm

theorem DnsTraffic.InOrder.step (order : s.InOrder nets u hash display first)
    (stepped : s.step nets u hash display event = some t) :
    t.InOrder nets u hash display first := by
  cases DnsTraffic.does_of_step stepped with
  | write change => exact order.write change
  | arrive request => exact order.arrive request
  | advance weather here => exact order.advance here weather
  | ends weather here point => exact order.ends here point
  | drop here => exact order.drop here

/-- **The traffic is in order after every run**, in whatever order the requests take their steps
and edits come between them; and there are never more requests upstream than permits. -/
theorem traffic_of_exec {s₀ : DnsTraffic Net} {events : List (TrafficEvent Net)}
    (start : (dnsTraffic nets u hash display).init s₀)
    (run : (dnsTraffic nets u hash display).exec s₀ events = some s) :
    s.InOrder nets u hash display s₀.server ∧
      (s.tasks.countP fun task => task.point.resolves) ≤ s₀.server.availablePermits := by
  have order : s.InOrder nets u hash display s₀.server := by
    refine (dnsTraffic nets u hash display).exec_invariant
      (fun _ _ _ order _ stepped => order.step stepped) ?_
      ((dnsTraffic nets u hash display).stepsMeet_true events _) run
    rw [start]
    exact
      { permits := rfl
        tasks := fun task mem => absurd mem List.not_mem_nil
        ended := fun request mem => absurd mem List.not_mem_nil
        rejected := (UInt64.add_zero _).symm
        queryLog := rfl }
  refine ⟨order, ?_⟩
  have holds : ∀ task ∈ s.tasks, task.point.resolves = true → task.permit = true := by
    intro task mem resolves
    have traced := order.tasks task mem
    by_contra without
    have waiting := traced.permit (Bool.eq_false_of_not_eq_true without)
    have arrives := traced.arrives
    cases point : task.point with
    | resolve query action =>
        rw [point] at waiting arrives
        obtain ⟨-, ⟨⟨permit, -⟩, -⟩, -⟩ := arrives
        exact waiting.elim (fun other => by cases other) permit
    | acquire | reject | acl | rewrites query | rewritten query rdata | lists query
    | blocked query | mode query | sinkholeIpv4 query mode | sinkholeIpv6 query mode ipv4
    | respond response | resolved entry info | done info =>
        rw [point] at resolves
        cases resolves
  have fewer : (s.tasks.countP fun task => task.point.resolves) ≤ s.held :=
    List.countP_mono_left holds
  have permits := order.permits
  omega

end Machine

/-- A server that blocks `ads.example` and has one permit. -/
def onePermit : DnsServer IpAddr where
  lists
    | .blocklist => (DomainStore.default.insert .ascii (fun _ => 0) "*.ads.example".toList).1
    | .allowlist => .default
  availablePermits := 1

/-- Nothing is sent, and nothing resolved. -/
def silentWeather : RequestWeather where
  sends := fun _ => none
  resolved := none

/-- Two requests, the second of which is turned away, and an edit while the first is handled. -/
def turnedAway : List (TrafficEvent IpAddr) :=
  [.arrive adsRequest, .arrive adsRequest, .advance 0 silentWeather, .advance 1 silentWeather,
    .advance 1 silentWeather, .advance 0 silentWeather, .advance 1 silentWeather,
    .advance 1 silentWeather, .advance 0 silentWeather,
    .write fun s => { s with blockResponseMode := .nullIp }, .advance 0 silentWeather,
    .advance 0 silentWeather, .advance 0 silentWeather, .advance 0 silentWeather,
    .advance 0 silentWeather, .advance 0 silentWeather, .advance 0 silentWeather]

abbrev onePermitTraffic : StateMachine (DnsTraffic IpAddr) (TrafficEvent IpAddr) :=
  dnsTraffic singleAddresses .ascii (fun _ => 0) plainDisplay

theorem init_onePermit : onePermitTraffic.init { server := onePermit } := rfl

theorem traffic_of_exec_turnedAway :
    ∃ s, onePermitTraffic.exec { server := onePermit } turnedAway = some s ∧
      s.server.rejected = 1 ∧ s.server.queryLog.blocked = 1 ∧
      s.InOrder singleAddresses .ascii (fun _ => 0) plainDisplay onePermit := by
  have ends : (onePermitTraffic.exec { server := onePermit } turnedAway).map
      (fun s => (s.server.rejected, s.server.queryLog.blocked)) = some (1, 1) := by decide +kernel
  obtain ⟨s, run, both⟩ := Option.map_eq_some_iff.mp ends
  obtain ⟨rejected, blocked⟩ := Prod.mk.inj both
  exact ⟨s, run, rejected, blocked, (traffic_of_exec init_onePermit run).1⟩

/-! ## What stays is respected

Since what a request has read may come from different moments, only what did not change meanwhile
can be promised.  `Respected` collects these promises; they are read off the calls of a request
that has ended. -/

section Respect

variable {Net : Type} {nets : IpNets Net} {u : CaseTables} {hash : Bytes → UInt64}
  {display : Name → Str} {s : DnsTraffic Net}

variable (nets u hash display) in
/-- The calls of the handler on a server, by what became of the question: the cases of
`DnsServer.Outcome`, as lists of calls. -/
inductive HandlerCalls (v : DnsServer Net) (request : Request) : List HandlerCall → Prop
  | stopped (before : List HandlerCall) {response : Message}
      (unserved : ¬ ∃ query, Served nets v request query)
      (rejects : ∀ call ∈ before, call = .recordReject) :
      HandlerCalls v request (before ++ [.respond response])
  | rewritten {query : Query} {rdata : RData} {response : Message}
      (served : Served nets v request query)
      (found : v.rewriteRdata u display query = some rdata) :
      HandlerCalls v request
        [.record (DnsServer.queryEntry u display request query .rewritten), .respond response]
  | blocked {query : Query} {response : Message}
      (blocks : Blocks nets u hash display v request query) :
      HandlerCalls v request
        [.record (DnsServer.queryEntry u display request query .blocked), .respond response]
  | resolved {query : Query} {entry : QueryEntry} (served : Served nets v request query)
      (unwritten : v.rewriteRdata u display query = none)
      (free : v.listed u hash display query .allowlist = true ∨
        v.listed u hash display query .blocklist = false)
      (action : entry.action =
        if v.listed u hash display query .allowlist then .allowed else .forwarded) :
      HandlerCalls v request [.resolve, .record entry]

variable (nets u hash display) in
theorem handlerCalls_handleRequest (v : DnsServer Net) (request : Request)
    (weather : RequestWeather) :
    HandlerCalls nets u hash display v request
      (v.handleRequest nets u hash display request weather).1 := by
  cases v.outcome nets u hash display request with
  | full permits =>
      rw [handleRequest_of_full weather permits]
      exact .stopped [.recordReject] (unserved_of_full permits) (by simp)
  | outside permit refused =>
      rw [handleRequest_of_outside weather permit refused]
      exact .stopped [] (unserved_of_outside refused) (by simp)
  | empty permit inside empty =>
      rw [handleRequest_of_empty weather permit inside empty]
      exact .stopped [] (unserved_of_empty empty) (by simp)
  | queryClass asks other =>
      rw [handleRequest_of_queryClass weather asks other]
      exact .stopped [] (unserved_of_queryClass asks other) (by simp)
  | rewritten served found =>
      rw [handleRequest_of_rewritten weather served found]
      exact .rewritten served found
  | blocked blocks =>
      rw [handleRequest_of_blocks weather blocks]
      exact .blocked blocks
  | @free query served unwritten passes =>
      obtain ⟨resolved, calls, -, -, -, action⟩ :=
        forward_calls weather (DnsServer.queryEntry u display request query
          (if v.listed u hash display query .allowlist then .allowed else .forwarded))
      rw [handleRequest_of_free weather served unwritten passes, calls]
      exact .resolved served unwritten passes action

variable (nets u hash display) in
/-- **A request is treated as all states demand that it has seen**, where they demand the same.
Where they do not, because what concerns the request was edited meanwhile, nothing is said; what
it then does is still the handler's on some view. -/
structure Respected (seen : List (DnsServer Net)) (request : Request) (query : Query)
    (calls : List HandlerCall) : Prop where
  /-- A client that is kept out is not served. -/
  outside : (∀ t ∈ seen, t.acl.isAllowed nets request.src = false) →
    ∀ call ∈ calls, call.resolves = false ∧ call.entry? = none
  /-- What is rewritten is neither blocked nor forwarded, -/
  rewritten : (∀ t ∈ seen, (t.rewriteRdata u display query).isSome = true) →
    ∀ call ∈ calls, call.resolves = false ∧
      ∀ entry, call.entry? = some entry → entry.action = .rewritten
  /-- what is blocked is not forwarded, -/
  blocked : (∀ t ∈ seen, t.rewriteRdata u display query = none) →
    (∀ t ∈ seen, t.listed u hash display query .allowlist = false ∧
      t.listed u hash display query .blocklist = true) →
    ∀ call ∈ calls, call.resolves = false ∧
      ∀ entry, call.entry? = some entry → entry.action = .blocked
  /-- and what is at no time on the blocklist while off the allowlist is not blocked.  To have a
  rewrite rule is not enough: the rules are read before the lists, so that a rule that is added in
  between comes too late, and the name is blocked if it is listed then. -/
  unblocked : (∀ t ∈ seen, t.listed u hash display query .allowlist = true ∨
      t.listed u hash display query .blocklist = false) →
    ∀ call ∈ calls, ∀ entry, call.entry? = some entry → entry.action ≠ .blocked

section Seen

variable {seen : List (DnsServer Net)} {v : DnsServer Net} {query : Query}

theorem SeenIn.rewriteRdata (within : SeenIn seen v) (u : CaseTables) (display : Name → Str)
    (query : Query) :
    ∃ t ∈ seen, t.rewriteRdata u display query = v.rewriteRdata u display query := by
  obtain ⟨t, mem, same⟩ := within.rewrites
  exact ⟨t, mem, by rw [DnsServer.rewriteRdata, same, DnsServer.rewriteRdata]⟩

theorem SeenIn.listed (within : SeenIn seen v) (u : CaseTables) (hash : Bytes → UInt64)
    (display : Name → Str) (query : Query) : ∃ t ∈ seen, ∀ list,
      t.listed u hash display query list = v.listed u hash display query list := by
  obtain ⟨t, mem, same⟩ := within.lists
  exact ⟨t, mem, fun list => by rw [DnsServer.listed, same, DnsServer.listed]⟩

/-- An entry is logged, and a response sent. -/
theorem entry_of_logged {entry : QueryEntry} {response : Message} {call : HandlerCall}
    (mem : call ∈ [.record entry, .respond response]) :
    call.resolves = false ∧ ∀ other, call.entry? = some other → other = entry := by
  rcases List.mem_pair.mp mem with rfl | rfl
  · exact ⟨rfl, fun other same => (Option.some.inj same).symm⟩
  · exact ⟨rfl, fun other same => by cases same⟩

/-- A served request comes from an address that was allowed at some time. -/
theorem SeenIn.not_outside {request : Request} (within : SeenIn seen v)
    (served : Served nets v request query) :
    ¬ ∀ t ∈ seen, t.acl.isAllowed nets request.src = false := by
  intro all
  obtain ⟨t, mem, same⟩ := within.acl
  have out := all t mem
  rw [same, served.1.2.1] at out
  cases out

/-- A request that is not served logs nothing and is not resolved, so nothing can be wrong. -/
theorem respected_of_stopped {request : Request} {before : List HandlerCall} {response : Message}
    (rejects : ∀ call ∈ before, call = .recordReject) :
    Respected nets u hash display seen request query (before ++ [.respond response]) := by
  have plain : ∀ call ∈ before ++ [.respond response],
      call.resolves = false ∧ call.entry? = none := by
    intro call mem
    rcases List.mem_append.mp mem with mem | mem
    · rw [rejects call mem]
      exact ⟨rfl, rfl⟩
    · rw [List.mem_singleton.mp mem]
      exact ⟨rfl, rfl⟩
  have silent : ∀ call ∈ before ++ [.respond response], ∀ entry : QueryEntry,
      call.entry? ≠ some entry := by
    intro call mem entry same
    rw [(plain call mem).2] at same
    cases same
  exact
    { outside := fun _ => plain
      rewritten := fun _ call mem =>
        ⟨(plain call mem).1, fun entry same => absurd same (silent call mem entry)⟩
      blocked := fun _ _ call mem =>
        ⟨(plain call mem).1, fun entry same => absurd same (silent call mem entry)⟩
      unblocked := fun _ call mem entry same => absurd same (silent call mem entry) }

/-- A rewritten question: its rule was there at some time. -/
theorem respected_of_rewritten {request : Request} {rdata : RData} {response : Message}
    (within : SeenIn seen v) (served : Served nets v request query)
    (found : v.rewriteRdata u display query = some rdata) :
    Respected nets u hash display seen request query
      [.record (DnsServer.queryEntry u display request query .rewritten), .respond response] := by
  obtain ⟨t, mem, same⟩ := within.rewriteRdata u display query
  refine
    { outside := fun all => absurd all (within.not_outside served)
      rewritten := fun _ call mem => ?_
      blocked := fun all => ?_
      unblocked := fun _ call mem entry same => ?_ }
  · obtain ⟨quiet, entry⟩ := entry_of_logged mem
    exact ⟨quiet, fun other same => by rw [entry other same]; rfl⟩
  · have unwritten := all t mem
    rw [same, found] at unwritten
    cases unwritten
  · rw [(entry_of_logged mem).2 entry same]
    exact fun other => by cases other

/-- A blocked question: at some time it had no rule, and at some time it was on the blocklist and
off the allowlist. -/
theorem respected_of_blocked {request : Request} {response : Message} (within : SeenIn seen v)
    (blocks : Blocks nets u hash display v request query) :
    Respected nets u hash display seen request query
      [.record (DnsServer.queryEntry u display request query .blocked), .respond response] := by
  obtain ⟨rewriting, sawRule, rule⟩ := within.rewriteRdata u display query
  obtain ⟨listing, sawLists, lists⟩ := within.listed u hash display query
  refine
    { outside := fun all => absurd all (within.not_outside blocks.served)
      rewritten := fun all => ?_
      blocked := fun _ _ call mem => ?_
      unblocked := fun all => ?_ }
  · have found := all rewriting sawRule
    rw [rule, blocks.unwritten] at found
    cases found
  · obtain ⟨quiet, entry⟩ := entry_of_logged mem
    exact ⟨quiet, fun other same => by rw [entry other same]; rfl⟩
  · have free := all listing sawLists
    rw [lists, lists, blocks.unlisted, blocks.listed] at free
    rcases free with impossible | impossible
    all_goals cases impossible

/-- A question that is resolved: at some time it had no rule, and at some time it was on the
allowlist or off the blocklist. -/
theorem respected_of_resolved {request : Request} {entry : QueryEntry} (within : SeenIn seen v)
    (served : Served nets v request query) (unwritten : v.rewriteRdata u display query = none)
    (free : v.listed u hash display query .allowlist = true ∨
      v.listed u hash display query .blocklist = false)
    (action : entry.action =
      if v.listed u hash display query .allowlist then .allowed else .forwarded) :
    Respected nets u hash display seen request query [.resolve, .record entry] := by
  obtain ⟨rewriting, sawRule, rule⟩ := within.rewriteRdata u display query
  obtain ⟨listing, sawLists, lists⟩ := within.listed u hash display query
  refine
    { outside := fun all => absurd all (within.not_outside served)
      rewritten := fun all => ?_
      blocked := fun _ all => ?_
      unblocked := fun _ call mem other same => ?_ }
  · have found := all rewriting sawRule
    rw [rule, unwritten] at found
    cases found
  · have blocked := all listing sawLists
    rw [lists, lists] at blocked
    rcases free with listed | unlisted
    · rw [blocked.1] at listed
      cases listed
    · rw [blocked.2] at unlisted
      cases unlisted
  · rcases List.mem_pair.mp mem with rfl | rfl
    · cases same
    · rw [← Option.some.inj same, action]
      split
      all_goals exact fun other => by cases other

/-- The calls on a server that is put together of what was seen. -/
theorem HandlerCalls.respected {request : Request} {calls : List HandlerCall}
    (made : HandlerCalls nets u hash display v request calls) (within : SeenIn seen v)
    (first : request.queries.head? = some query) :
    Respected nets u hash display seen request query calls := by
  have only {query' : Query} (served : Served nets v request query') : query' = query :=
    Option.some.inj (served.1.2.2.symm.trans first)
  cases made with
  | stopped before unserved rejects => exact respected_of_stopped rejects
  | rewritten served found =>
      obtain rfl := only served
      exact respected_of_rewritten within served found
  | blocked blocks =>
      obtain rfl := only blocks.served
      exact respected_of_blocked within blocks
  | resolved served unwritten free action =>
      obtain rfl := only served
      exact respected_of_resolved within served unwritten free action

end Seen

/-- **Whatever else changes while a request is handled**, what stays is respected, for every
request that has ended. -/
theorem respected_of_exec {s₀ : DnsTraffic Net} {events : List (TrafficEvent Net)}
    (start : (dnsTraffic nets u hash display).init s₀)
    (run : (dnsTraffic nets u hash display).exec s₀ events = some s)
    {request : RequestTask Net × ResponseInfo} (mem : request ∈ s.ended) {query : Query}
    (first : request.1.request.queries.head? = some query) :
    Respected nets u hash display request.1.seen request.1.request query request.1.calls := by
  obtain ⟨within, weather, whole⟩ := (traffic_of_exec start run).1.ended request mem
  have made := handlerCalls_handleRequest nets u hash display request.1.view request.1.request
    weather
  rw [whole] at made
  exact made.respected within first

end Respect

theorem respected_of_exec_turnedAway :
    ∃ s, onePermitTraffic.exec { server := onePermit } turnedAway = some s ∧
      ∃ request ∈ s.ended, ∃ query, Respected singleAddresses .ascii (fun _ => 0) plainDisplay
        request.1.seen request.1.request query request.1.calls := by
  have ends : (onePermitTraffic.exec { server := onePermit } turnedAway).map
      (fun s => s.ended.map fun request => request.1.request.queries.head?.isSome) =
        some [true, true] := by decide +kernel
  obtain ⟨s, run, both⟩ := Option.map_eq_some_iff.mp ends
  have one : true ∈ s.ended.map fun request => request.1.request.queries.head?.isSome := by
    rw [both]
    exact List.mem_cons_self
  obtain ⟨request, mem, asks⟩ := List.mem_map.mp one
  obtain ⟨query, first⟩ := Option.isSome_iff_exists.mp asks
  exact ⟨s, run, request, mem, query, respected_of_exec init_onePermit run mem first⟩

end RustBlocker
