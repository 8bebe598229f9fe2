import RustBlocker.Handler

/-!
# What the handler filters

The gates of `handle_request` in terms of what was entered: a `Filter` is the two sets of
entries and the rule of each name.  `Forwards`, `Stops` and `Logs` say of a request whether
it is forwarded, with which code it is stopped, and under which action it is logged, and
`Filtered` that the calls of the handler are these.

* **Outcomes.**  Of one request, `DnsServer.Outcome` says which gate stops it, and there is one
  lemma `handleRequest_of_` for each outcome, which says what calls the handler makes then.  No
  other proof unfolds the handler, here or where its steps are taken apart.
* **The filter** is compared with the server by `DnsServer.Holds`: what the lists match is what
  the sets cover, and the map has the rules.  `filtered_handleRequest` has no other assumption,
  so that nothing is asked of the labels, the networks or the weather.
* **Runs.**  `dnsServer_filters` takes the filter from the edits alone, and shows that the server
  holds it.  It assumes that no arena has grown to `2 ^ 32` bytes, where the offsets of its
  entries would no longer be exact.
-/

namespace RustBlocker

/-- What the lists and the rewrite rules stand for: a pair of sets for each list, and the rule of
a name. -/
structure Filter where
  sets : DomainList → DomainSets
  rule : Str → Option RuntimeRewriteRule

/-! ## The gates

What a request goes through, in the words of the specification.  A filter is the pair of lists and
the rules that the operator has in mind; `Filtered` says of the calls of a request that they are
what such a filter asks for. -/

/-- The code a blocked question is answered with. -/
def BlockResponse.code : BlockResponse → ResponseCode
  | answer _ => .noError
  | nxDomain => .nxDomain
  | refused => .refused

section Gates

variable {Net : Type} (nets : IpNets Net) (u : CaseTables) (display : Name → Str)
  (filter : Filter) (s : DnsServer Net) (request : Request)

/-- The request has a permit, comes from an allowed address, and asks a question.  The first
question is the one that counts. -/
def Asks (query : Query) : Prop :=
  s.availablePermits ≠ 0 ∧ s.acl.isAllowed nets request.src = true ∧
    request.queries.head? = some query

/-- The question is of the class that is served. -/
def Served (query : Query) : Prop := Asks nets s request query ∧ query.queryClass = .IN

/-- The address a rewrite rule has for the question. -/
def Filter.rewritten (query : Query) : Option RData :=
  (filter.rule (normalizeDomain u (display query.name))).bind fun rule =>
    rule.rdata query.queryType

/-- The name of the question is in the language of the list. -/
def Filter.Lists (list : DomainList) (query : Query) : Prop :=
  (filter.sets list).Covers (normalizeDomain u (display query.name))

/-- No gate stops the request. -/
def Forwards : Prop :=
  ∃ query, Served nets s request query ∧ filter.rewritten u display query = none ∧
    (filter.Lists u display .allowlist query ∨ ¬ filter.Lists u display .blocklist query)

/-- The first gate that stops the request answers with the code.  The gates are in the order of
the handler, and each case denies the ones before it. -/
inductive Stops : ResponseCode → Prop where
  | permit : s.availablePermits = 0 → Stops .servFail
  | acl : s.availablePermits ≠ 0 → s.acl.isAllowed nets request.src = false → Stops .refused
  | question : s.availablePermits ≠ 0 → s.acl.isAllowed nets request.src = true →
      request.queries = [] → Stops .formErr
  | queryClass {query : Query} : Asks nets s request query → query.queryClass ≠ .IN →
      Stops .refused
  | rewrite {query : Query} {rdata : RData} : Served nets s request query →
      filter.rewritten u display query = some rdata → Stops .noError
  | block {query : Query} : Served nets s request query →
      filter.rewritten u display query = none → ¬ filter.Lists u display .allowlist query →
      filter.Lists u display .blocklist query →
      Stops (blockedResponse s.blockResponseMode query.queryType s.sinkholeIpv4
        s.sinkholeIpv6).code

/-- The action a served question is logged under.  A question on both lists is allowed. -/
inductive Logs (query : Query) : QueryAction → Prop where
  | rewritten {rdata : RData} : filter.rewritten u display query = some rdata →
      Logs query .rewritten
  | allowed : filter.rewritten u display query = none →
      filter.Lists u display .allowlist query → Logs query .allowed
  | blocked : filter.rewritten u display query = none →
      ¬ filter.Lists u display .allowlist query → filter.Lists u display .blocklist query →
      Logs query .blocked
  | forwarded : filter.rewritten u display query = none →
      ¬ filter.Lists u display .allowlist query →
      ¬ filter.Lists u display .blocklist query → Logs query .forwarded

/-- The entry tells of the question and of what became of it. -/
def LoggedAs (query : Query) (entry : QueryEntry) : Prop :=
  entry.clientIp = request.src ∧ entry.domain = normalizeDomain u (display query.name) ∧
    entry.queryType = query.queryType ∧ Logs u display filter query entry.action

/-- **The calls are those of the filter**: what is forwarded, what is answered and with which
code, and what is logged, each of them once. -/
structure Filtered (calls : List HandlerCall) : Prop where
  /-- The forwarder is called exactly for the requests that no gate stops, and once. -/
  resolves : (∃ call ∈ calls, call.resolves = true) ↔ Forwards nets u display filter s request
  once : (calls.filter HandlerCall.resolves).length ≤ 1
  /-- The others are answered once, with the code of the first gate that stops them. -/
  stops : ¬ Forwards nets u display filter s request →
    ∃ response, calls.filterMap HandlerCall.response? = [response] ∧
      Stops nets u display filter s request response.responseCode
  silent : Forwards nets u display filter s request →
    calls.filterMap HandlerCall.response? = []
  /-- A served question is logged once, and nothing else is. -/
  logs : ∀ query, Served nets s request query →
    ∃ entry, calls.filterMap HandlerCall.entry? = [entry] ∧
      LoggedAs u display filter request query entry
  quiet : (¬ ∃ query, Served nets s request query) →
    calls.filterMap HandlerCall.entry? = []

end Gates

/-! ## What becomes of a request

The handler once more, read from its outcomes: for every gate there is a lemma that gives the
calls of a request which it stops, and `DnsServer.outcome` says that one of these cases always
applies.  No later proof unfolds the handler. -/

section Outcomes

variable {Net : Type} (nets : IpNets Net) (u : CaseTables) (hash : Bytes → UInt64)
  (display : Name → Str)

namespace DnsServer

variable (s : DnsServer Net) (request : Request) (query : Query)

/-- The entry for a question. -/
def queryEntry (action : QueryAction) : QueryEntry where
  clientIp := request.src
  domain := normalizeDomain u (display query.name)
  queryType := query.queryType
  action

/-- The address a rule has for a question. -/
def rewriteRdata : Option RData :=
  (s.rewrites.lookup (normalizeDomain u (display query.name))).bind fun rule =>
    rule.rdata query.queryType

/-- A list has the name of a question. -/
def listed (list : DomainList) : Bool :=
  (s.lists list).matches hash (normalizeDomain u (display query.name))

/-- The calls for a question that is forwarded: it is resolved, and the entry tells by whom and
how fast if it was. -/
def forward (weather : RequestWeather) (entry : QueryEntry) : List HandlerCall × ResponseInfo :=
  match weather.resolved with
  | none => ([.resolve, .record entry], serveFailed)
  | some result =>
      ([.resolve, .record { entry with
        resolver := some result.resolver
        latencyUs := some result.latencyUs }], result.info)

end DnsServer

/-- The question is blocked: no rule has an address for it, and its name is on the blocklist and
not on the allowlist. -/
structure Blocks (v : DnsServer Net) (request : Request) (query : Query) : Prop where
  served : Served nets v request query
  unwritten : v.rewriteRdata u display query = none
  unlisted : v.listed u hash display query .allowlist = false
  listed : v.listed u hash display query .blocklist = true

/-- **The first gate that stops a request**, or that none does.  The cases are those of the
handler, in its order; each has one of the `handleRequest_of_` lemmas below. -/
inductive DnsServer.Outcome (s : DnsServer Net) (request : Request) : Prop where
  | full (permits : s.availablePermits = 0)
  | outside (permit : s.availablePermits ≠ 0)
      (refused : s.acl.isAllowed nets request.src = false)
  | empty (permit : s.availablePermits ≠ 0)
      (inside : s.acl.isAllowed nets request.src = true) (empty : request.queries.head? = none)
  | queryClass {query : Query} (asks : Asks nets s request query)
      (other : query.queryClass ≠ .IN)
  | rewritten {query : Query} {rdata : RData} (served : Served nets s request query)
      (found : s.rewriteRdata u display query = some rdata)
  | blocked {query : Query} (blocks : Blocks nets u hash display s request query)
  | free {query : Query} (served : Served nets s request query)
      (unwritten : s.rewriteRdata u display query = none)
      (passes : s.listed u hash display query .allowlist = true ∨
        s.listed u hash display query .blocklist = false)

theorem DnsServer.outcome (s : DnsServer Net) (request : Request) :
    s.Outcome nets u hash display request := by
  by_cases permits : s.availablePermits = 0
  · exact .full permits
  cases inside : s.acl.isAllowed nets request.src with
  | false => exact .outside permits inside
  | true =>
  cases first : request.queries.head? with
  | none => exact .empty permits inside first
  | some query =>
  have asks : Asks nets s request query := ⟨permits, inside, first⟩
  by_cases inClass : query.queryClass = .IN
  · have served : Served nets s request query := ⟨asks, inClass⟩
    cases found : s.rewriteRdata u display query with
    | some rdata => exact .rewritten served found
    | none =>
    cases allowed : s.listed u hash display query .allowlist with
    | true => exact .free served found (Or.inl allowed)
    | false =>
    cases listed : s.listed u hash display query .blocklist with
    | true => exact .blocked ⟨served, found, allowed, listed⟩
    | false => exact .free served found (Or.inr listed)
  · exact .queryClass asks inClass

variable {nets u hash display} {s : DnsServer Net} {request : Request} {query : Query}

theorem Served.unique {query' : Query} (served : Served nets s request query)
    (served' : Served nets s request query') : query' = query :=
  Option.some.inj (served'.1.2.2.symm.trans served.1.2.2)

/-! The first four gates stop a request before its question is served. -/

theorem unserved_of_full (permits : s.availablePermits = 0) :
    ¬ ∃ query, Served nets s request query := by
  rintro ⟨query, ⟨permit, -⟩, -⟩
  exact permit permits

theorem unserved_of_outside (refused : s.acl.isAllowed nets request.src = false) :
    ¬ ∃ query, Served nets s request query := by
  rintro ⟨query, ⟨-, allowed, -⟩, -⟩
  rw [refused] at allowed
  cases allowed

theorem unserved_of_empty (empty : request.queries.head? = none) :
    ¬ ∃ query, Served nets s request query := by
  rintro ⟨query, ⟨-, -, first⟩, -⟩
  rw [empty] at first
  cases first

theorem unserved_of_queryClass (asks : Asks nets s request query)
    (other : query.queryClass ≠ .IN) : ¬ ∃ query, Served nets s request query := by
  rintro ⟨query', ⟨-, -, first⟩, inClass⟩
  rw [Option.some.inj (first.symm.trans asks.2.2)] at inClass
  exact other inClass

section Handled

variable (weather : RequestWeather)

theorem handleRequest_of_full (permits : s.availablePermits = 0) :
    s.handleRequest nets u hash display request weather =
      DnsServer.answer weather [.recordReject] (errorMsg .servFail) :=
  if_pos permits

theorem handleRequest_of_outside (permit : s.availablePermits ≠ 0)
    (refused : s.acl.isAllowed nets request.src = false) :
    s.handleRequest nets u hash display request weather =
      DnsServer.answer weather [] (errorMsg .refused) := by
  unfold DnsServer.handleRequest
  rw [if_neg permit, refused]
  rfl

theorem handleRequest_of_empty (permit : s.availablePermits ≠ 0)
    (inside : s.acl.isAllowed nets request.src = true) (empty : request.queries.head? = none) :
    s.handleRequest nets u hash display request weather =
      DnsServer.answer weather [] (errorMsg .formErr) := by
  unfold DnsServer.handleRequest
  rw [if_neg permit, inside]
  simp only [Bool.not_true, Bool.false_eq_true, if_false, empty]

theorem handleRequest_of_queryClass (asks : Asks nets s request query)
    (other : query.queryClass ≠ .IN) :
    s.handleRequest nets u hash display request weather =
      DnsServer.answer weather [] (errorMsg .refused) := by
  obtain ⟨permit, inside, first⟩ := asks
  unfold DnsServer.handleRequest
  rw [if_neg permit, inside]
  simp only [Bool.not_true, Bool.false_eq_true, if_false, first]
  exact if_pos other

theorem handleRequest_of_rewritten {rdata : RData} (served : Served nets s request query)
    (found : s.rewriteRdata u display query = some rdata) :
    s.handleRequest nets u hash display request weather =
      DnsServer.answer weather
        [.record (DnsServer.queryEntry u display request query .rewritten)]
        { responseCode := .noError, answers := [⟨query.name, 60, rdata⟩] } := by
  obtain ⟨⟨permit, inside, first⟩, inClass⟩ := served
  rw [DnsServer.rewriteRdata] at found
  unfold DnsServer.handleRequest
  rw [if_neg permit, inside]
  simp only [Bool.not_true, Bool.false_eq_true, if_false, first, found]
  exact if_neg (not_not.mpr inClass)

/-- The lists are asked where no rule has an address. -/
theorem handleRequest_of_unwritten (served : Served nets s request query)
    (unwritten : s.rewriteRdata u display query = none) :
    s.handleRequest nets u hash display request weather =
      if !s.listed u hash display query .allowlist && s.listed u hash display query .blocklist then
        DnsServer.answer weather
          [.record (DnsServer.queryEntry u display request query .blocked)]
          (blockedMessage request query.name
            (blockedResponse s.blockResponseMode query.queryType s.sinkholeIpv4 s.sinkholeIpv6))
      else
        DnsServer.forward weather (DnsServer.queryEntry u display request query
          (if s.listed u hash display query .allowlist then .allowed else .forwarded)) := by
  obtain ⟨⟨permit, inside, first⟩, inClass⟩ := served
  rw [DnsServer.rewriteRdata] at unwritten
  unfold DnsServer.handleRequest
  rw [if_neg permit, inside]
  simp only [Bool.not_true, Bool.false_eq_true, if_false, first, unwritten]
  exact if_neg (not_not.mpr inClass)

theorem handleRequest_of_blocks (blocks : Blocks nets u hash display s request query) :
    s.handleRequest nets u hash display request weather =
      DnsServer.answer weather [.record (DnsServer.queryEntry u display request query .blocked)]
        (blockedMessage request query.name
          (blockedResponse s.blockResponseMode query.queryType s.sinkholeIpv4 s.sinkholeIpv6)) := by
  rw [handleRequest_of_unwritten weather blocks.served blocks.unwritten]
  simp only [blocks.unlisted, blocks.listed, Bool.not_false, Bool.and_self, if_true]

theorem handleRequest_of_free (served : Served nets s request query)
    (unwritten : s.rewriteRdata u display query = none)
    (passes : s.listed u hash display query .allowlist = true ∨
      s.listed u hash display query .blocklist = false) :
    s.handleRequest nets u hash display request weather =
      DnsServer.forward weather (DnsServer.queryEntry u display request query
        (if s.listed u hash display query .allowlist then .allowed else .forwarded)) := by
  rw [handleRequest_of_unwritten weather served unwritten]
  refine if_neg ?_
  rcases passes with listed | unlisted
  · simp [listed]
  · simp [unlisted]

/-- Whatever comes of the resolution, the entry keeps what it tells of the question. -/
theorem forward_calls (entry : QueryEntry) :
    ∃ resolved : QueryEntry,
      (DnsServer.forward weather entry).1 = [.resolve, .record resolved] ∧
        resolved.clientIp = entry.clientIp ∧ resolved.domain = entry.domain ∧
          resolved.queryType = entry.queryType ∧ resolved.action = entry.action := by
  unfold DnsServer.forward
  cases weather.resolved with
  | none => exact ⟨entry, rfl, rfl, rfl, rfl, rfl⟩
  | some result => exact ⟨_, rfl, rfl, rfl, rfl, rfl⟩

end Handled

end Outcomes

/-! ## One request

Case by case the calls are compared with the gates.  What the server needs to have for this is
`DnsServer.Holds`: lists that match what the filter covers, and a map with its rules. -/

section OneRequest

variable {Net : Type} {nets : IpNets Net} {u : CaseTables} {hash : Bytes → UInt64}
  {display : Name → Str} {filter : Filter} {s : DnsServer Net} {request : Request}
  {query : Query}

/-- A request that is stopped before its question is looked up: one response, and no entry. -/
theorem filtered_of_not_served {weather : RequestWeather} {before : List HandlerCall}
    {code : ResponseCode} (unserved : ¬ ∃ query, Served nets s request query)
    (quiet : ∀ call ∈ before, call = .recordReject)
    (stops : Stops nets u display filter s request code) :
    Filtered nets u display filter s request
      (DnsServer.answer weather before (errorMsg code)).1 := by
  have stopped : ¬ Forwards nets u display filter s request := by
    rintro ⟨query, served, -⟩
    exact unserved ⟨query, served⟩
  have plain : ∀ {β : Type} (f : HandlerCall → Option β), f .recordReject = none →
      before.filterMap f = [] := by
    intro β f silent
    refine List.filterMap_eq_nil_iff.mpr fun call mem => ?_
    rw [quiet call mem, silent]
  have kept : before.filter HandlerCall.resolves = [] := by
    refine List.filter_eq_nil_iff.mpr fun call mem => ?_
    rw [quiet call mem]
    simp [HandlerCall.resolves]
  refine
    { resolves := ⟨?_, fun forwards => absurd forwards stopped⟩
      once := ?_
      stops := fun _ => ⟨errorMsg code, ?_, stops⟩
      silent := fun forwards => absurd forwards stopped
      logs := fun query served => absurd ⟨query, served⟩ unserved
      quiet := fun _ => ?_ }
  · rintro ⟨call, mem, resolves⟩
    rcases List.mem_append.mp mem with early | last
    · rw [quiet call early] at resolves
      cases resolves
    · rw [List.mem_singleton.mp last] at resolves
      cases resolves
  · rw [DnsServer.answer, List.filter_append, kept]
    exact Nat.zero_le 1
  · rw [DnsServer.answer, List.filterMap_append, plain HandlerCall.response? rfl]
    rfl
  · rw [DnsServer.answer, List.filterMap_append, plain HandlerCall.entry? rfl]
    rfl

/-- A served question that is answered: an entry and a response. -/
theorem filtered_of_answered {weather : RequestWeather} {entry : QueryEntry}
    {response : Message} (served : Served nets s request query)
    (logged : LoggedAs u display filter request query entry)
    (stopped : ¬ Forwards nets u display filter s request)
    (stops : Stops nets u display filter s request response.responseCode) :
    Filtered nets u display filter s request
      (DnsServer.answer weather [.record entry] response).1 where
  resolves := by
    refine ⟨?_, fun forwards => absurd forwards stopped⟩
    rintro ⟨call, mem, resolves⟩
    rcases List.mem_cons.mp mem with rfl | last
    · cases resolves
    · rw [List.mem_singleton.mp last] at resolves
      cases resolves
  once := Nat.zero_le 1
  stops _ := ⟨response, rfl, stops⟩
  silent forwards := absurd forwards stopped
  logs query' served' := by
    obtain rfl := served.unique served'
    exact ⟨entry, rfl, logged⟩
  quiet unserved := absurd ⟨query, served⟩ unserved

/-- A served question that is forwarded: the resolution and an entry. -/
theorem filtered_of_resolved {entry : QueryEntry} (served : Served nets s request query)
    (logged : LoggedAs u display filter request query entry)
    (forwards : Forwards nets u display filter s request) :
    Filtered nets u display filter s request [.resolve, .record entry] where
  resolves := ⟨fun _ => forwards, fun _ => ⟨.resolve, List.mem_cons_self, rfl⟩⟩
  once := Nat.le_refl 1
  stops stopped := absurd forwards stopped
  silent _ := rfl
  logs query' served' := by
    obtain rfl := served.unique served'
    exact ⟨entry, rfl, logged⟩
  quiet unserved := absurd ⟨query, served⟩ unserved

theorem blockedMessage_responseCode (request : Request) (name : Name)
    (response : BlockResponse) :
    (blockedMessage request name response).responseCode = response.code := by
  cases response <;> rfl

/-- **The server holds a filter**: its lists match the names that the filter covers, and its map
has the rules. -/
structure DnsServer.Holds (hash : Bytes → UInt64) (s : DnsServer Net) (filter : Filter) :
    Prop where
  covers : ∀ list name, (s.lists list).matches hash name = true ↔ (filter.sets list).Covers name
  rules : ∀ name, s.rewrites.lookup name = filter.rule name

section Holds

variable (holds : s.Holds hash filter)
include holds

theorem DnsServer.Holds.rewriteRdata (query : Query) :
    s.rewriteRdata u display query = filter.rewritten u display query := by
  rw [DnsServer.rewriteRdata, holds.rules]
  rfl

theorem DnsServer.Holds.listed (list : DomainList) (query : Query) :
    s.listed u hash display query list = true ↔ filter.Lists u display list query :=
  holds.covers list _

theorem DnsServer.Holds.not_listed (list : DomainList) (query : Query) :
    s.listed u hash display query list = false ↔ ¬ filter.Lists u display list query := by
  rw [← holds.listed, Bool.not_eq_true]

/-- A rewritten question: its rule has the address, so that no other gate is reached. -/
theorem filtered_of_rewritten {rdata : RData} (weather : RequestWeather)
    (served : Served nets s request query) (found : s.rewriteRdata u display query = some rdata) :
    Filtered nets u display filter s request
      (s.handleRequest nets u hash display request weather).1 := by
  have rule := found
  rw [holds.rewriteRdata] at rule
  have stopped : ¬ Forwards nets u display filter s request := by
    rintro ⟨query', served', unwritten, -⟩
    rw [served.unique served', rule] at unwritten
    cases unwritten
  rw [handleRequest_of_rewritten weather served found]
  exact filtered_of_answered served ⟨rfl, rfl, rfl, .rewritten rule⟩ stopped
    (.rewrite served rule)

/-- A blocked question. -/
theorem filtered_of_blocks (weather : RequestWeather)
    (blocks : Blocks nets u hash display s request query) :
    Filtered nets u display filter s request
      (s.handleRequest nets u hash display request weather).1 := by
  have unwritten := blocks.unwritten
  rw [holds.rewriteRdata] at unwritten
  have unlisted := (holds.not_listed .allowlist query).mp blocks.unlisted
  have listed := (holds.listed .blocklist query).mp blocks.listed
  have stopped : ¬ Forwards nets u display filter s request := by
    rintro ⟨query', served', -, passes⟩
    rw [blocks.served.unique served'] at passes
    exact passes.elim unlisted fun apart => apart listed
  rw [handleRequest_of_blocks weather blocks]
  refine filtered_of_answered blocks.served ⟨rfl, rfl, rfl, .blocked unwritten unlisted listed⟩
    stopped ?_
  rw [blockedMessage_responseCode]
  exact .block blocks.served unwritten unlisted listed

/-- A question that no gate stops. -/
theorem filtered_of_free (weather : RequestWeather) (served : Served nets s request query)
    (unwritten : s.rewriteRdata u display query = none)
    (passes : s.listed u hash display query .allowlist = true ∨
      s.listed u hash display query .blocklist = false) :
    Filtered nets u display filter s request
      (s.handleRequest nets u hash display request weather).1 := by
  have rule := unwritten
  rw [holds.rewriteRdata] at rule
  have free := passes.imp (holds.listed .allowlist query).mp (holds.not_listed .blocklist query).mp
  have action : Logs u display filter query
      (if s.listed u hash display query .allowlist then .allowed else .forwarded) := by
    split
    next listed => exact .allowed rule ((holds.listed .allowlist query).mp listed)
    next unlisted =>
      have apart : ¬ filter.Lists u display .allowlist query :=
        (holds.not_listed .allowlist query).mp (Bool.eq_false_of_not_eq_true unlisted)
      exact .forwarded rule apart (free.resolve_left apart)
  obtain ⟨resolved, calls, clientIp, domain, queryType, same⟩ :=
    forward_calls weather (DnsServer.queryEntry u display request query
      (if s.listed u hash display query .allowlist then .allowed else .forwarded))
  rw [handleRequest_of_free weather served unwritten passes, calls]
  refine filtered_of_resolved served ⟨clientIp, domain, queryType, ?_⟩
    ⟨query, served, rule, free⟩
  rw [same]
  exact action

/-- **One request.**  If the lists match what the filter covers and the map has its rules,
the handler makes the calls of the filter. -/
theorem filtered_handleRequest (request : Request) (weather : RequestWeather) :
    Filtered nets u display filter s request
      (s.handleRequest nets u hash display request weather).1 := by
  cases s.outcome nets u hash display request with
  | full permits =>
      rw [handleRequest_of_full weather permits]
      exact filtered_of_not_served (unserved_of_full permits) (by simp) (.permit permits)
  | outside permit refused =>
      rw [handleRequest_of_outside weather permit refused]
      exact filtered_of_not_served (unserved_of_outside refused) (by simp) (.acl permit refused)
  | empty permit inside empty =>
      rw [handleRequest_of_empty weather permit inside empty]
      exact filtered_of_not_served (unserved_of_empty empty) (by simp)
        (.question permit inside (List.head?_eq_none_iff.mp empty))
  | queryClass asks other =>
      rw [handleRequest_of_queryClass weather asks other]
      exact filtered_of_not_served (unserved_of_queryClass asks other) (by simp)
        (.queryClass asks other)
  | rewritten served found => exact filtered_of_rewritten holds weather served found
  | blocked blocks => exact filtered_of_blocks holds weather blocks
  | free served unwritten passes => exact filtered_of_free holds weather served unwritten passes

end Holds

end OneRequest

/-! ## Runs

The filter that a run leaves is read off its edits alone: the last edit of a name decides.  The
invariant is that the server holds this filter, and that its counters are those of the requests so
far; the result about one request then applies in every state. -/

section Edits

variable {Net : Type} (u : CaseTables)

/-- The history of a list after one more action. -/
def History.after (list : DomainList) (before : History) : DnsAction Net → History
  | .editList list' edit => if list' = list then before.edited edit else before
  | _ => before

/-- The edits of a list, as a history. -/
def listHistory (list : DomainList) (actions : List (DnsAction Net)) : History :=
  actions.foldl (History.after list) .fresh

/-- What an edit of the rules does to the rule of a name. -/
def RewriteEdit.ruleAfter (name : Str) (before : Option RuntimeRewriteRule) :
    RewriteEdit → Option RuntimeRewriteRule
  | .insert rule =>
      if normalizeDomain u rule.domain = name then some (.fromConfig rule) else before
  | .remove domain => if normalizeDomain u domain = name then none else before
  | .replace rules =>
      (rules.filter fun rule => normalizeDomain u rule.domain = name).getLast?.map .fromConfig

/-- The rule of a name after one more action. -/
def DnsAction.ruleAfter (name : Str) (before : Option RuntimeRewriteRule) :
    DnsAction Net → Option RuntimeRewriteRule
  | .editRewrites edit => edit.ruleAfter u name before
  | _ => before

/-- The rule of a name after the edits. -/
def ruleOf (actions : List (DnsAction Net)) (name : Str) : Option RuntimeRewriteRule :=
  actions.foldl (DnsAction.ruleAfter u name) none

/-- The filter the edits leave. -/
def filterOf (actions : List (DnsAction Net)) : Filter where
  sets list := (listHistory list actions).sets u
  rule := ruleOf u actions

end Edits

section Runs

variable {Net : Type} {nets : IpNets Net} {u : CaseTables} {hash : Bytes → UInt64}
  {display : Name → Str} {first s t : DnsServer Net} {actions : List (DnsAction Net)}
  {action : DnsAction Net}

theorem store_edited (before : History) (edit : ListEdit) :
    (before.edited edit).store u hash = (before.store u hash).edit u hash edit := by
  cases edit <;> rfl

/-- A load finds the last rule of a name. -/
theorem lookup_load_eq_getLast? (rules : List RewriteRow) (name : Str) :
    (RewriteMap.load u rules).lookup name =
      (rules.filter fun rule => normalizeDomain u rule.domain = name).getLast?.map .fromConfig := by
  induction rules using List.reverseRecOn with
  | nil => rfl
  | append_singleton rules rule ih =>
      have step : RewriteMap.load u (rules ++ [rule]) = (RewriteMap.load u rules).insert u rule :=
        List.foldl_append
      rw [step, RewriteMap.lookup_insert, List.filter_append]
      by_cases here : normalizeDomain u rule.domain = name
      · rw [if_pos here.symm, List.filter_cons_of_pos (by simpa using here), List.filter_nil,
          List.getLast?_concat, Option.map_some]
      · rw [if_neg (Ne.symm here), List.filter_cons_of_neg (by simpa using here), List.filter_nil,
          List.append_nil, ih]

theorem lookup_edit (map : RewriteMap) (edit : RewriteEdit) (name : Str) :
    (map.edit u edit).lookup name = edit.ruleAfter u name (map.lookup name) := by
  cases edit with
  | insert rule =>
      show (map.insert u rule).lookup name = _
      rw [RewriteMap.lookup_insert]
      simp only [RewriteEdit.ruleAfter, eq_comm]
  | remove domain =>
      show (map.remove u domain).lookup name = _
      rw [RewriteMap.lookup_remove]
      simp only [RewriteEdit.ruleAfter, eq_comm]
  | replace rules => exact lookup_load_eq_getLast? rules name

/-- The calls of a request leave the lists, the rules and the balance of the log. -/
theorem perform_foldl (calls : List HandlerCall) (s : DnsServer Net) :
    (calls.foldl DnsServer.perform s).lists = s.lists ∧
      (calls.foldl DnsServer.perform s).rewrites = s.rewrites ∧
      (s.queryLog.Balanced → (calls.foldl DnsServer.perform s).queryLog.Balanced) := by
  induction calls generalizing s with
  | nil => exact ⟨rfl, rfl, id⟩
  | cons call rest ih =>
      obtain ⟨lists, rewrites, balanced⟩ := ih (s.perform call)
      rw [List.foldl_cons, lists, rewrites]
      cases call with
      | record entry => exact ⟨rfl, rfl, fun before => balanced (before.record entry)⟩
      | recordReject => exact ⟨rfl, rfl, balanced⟩
      | respond response => exact ⟨rfl, rfl, balanced⟩
      | resolve => exact ⟨rfl, rfl, balanced⟩

/-- What a server holds after some actions: the lists and rules of their edits, and a log in
which every query is counted. -/
structure HoldsEdits (u : CaseTables) (hash : Bytes → UInt64) (actions : List (DnsAction Net))
    (s : DnsServer Net) : Prop where
  lists : ∀ list, s.lists list = (listHistory list actions).store u hash
  rules : ∀ name, s.rewrites.lookup name = ruleOf u actions name
  balanced : s.queryLog.Balanced

/-- One more action. -/
theorem HoldsEdits.step (holds : HoldsEdits u hash actions s)
    (one : s.step nets u hash display action = some t) :
    HoldsEdits u hash (actions ++ [action]) t := by
  have last : ∀ {β : Type} (f : β → DnsAction Net → β) (start : β),
      (actions ++ [action]).foldl f start = f (actions.foldl f start) action :=
    fun f start => List.foldl_append
  cases action with
  | editList list edit =>
      cases one
      refine ⟨fun list' => ?_, fun name => ?_, holds.balanced⟩
      · rw [listHistory, last]
        show Function.update s.lists list _ list' =
          (if list = list' then (listHistory list' actions).edited edit
            else listHistory list' actions).store u hash
        by_cases same : list = list'
        · subst same
          rw [Function.update_self, if_pos rfl, store_edited, holds.lists]
        · rw [Function.update_of_ne (Ne.symm same), if_neg same, holds.lists]
      · rw [ruleOf, last]
        exact holds.rules name
  | editRewrites edit =>
      cases one
      refine ⟨fun list => ?_, fun name => ?_, holds.balanced⟩
      · rw [listHistory, last]
        exact holds.lists list
      · rw [ruleOf, last]
        show (s.rewrites.edit u edit).lookup name = edit.ruleAfter u name (ruleOf u actions name)
        rw [lookup_edit, holds.rules]
  | setAcl acl | setBlockResponse mode ipv4 ipv6 | setPermits available =>
      cases one
      refine ⟨fun list => ?_, fun name => ?_, holds.balanced⟩
      · rw [listHistory, last]
        exact holds.lists list
      · rw [ruleOf, last]
        exact holds.rules name
  | request request weather =>
      cases one
      obtain ⟨lists, rewrites, balanced⟩ :=
        perform_foldl (s.handleRequest nets u hash display request weather).1 s
      refine ⟨fun list => ?_, fun name => ?_, balanced holds.balanced⟩
      · rw [listHistory, last, lists]
        exact holds.lists list
      · rw [ruleOf, last, rewrites]
        exact holds.rules name

/-- Every run. -/
theorem holdsEdits_of_exec (started : (dnsServer nets u hash display).init first)
    (run : (dnsServer nets u hash display).exec first actions = some s) :
    HoldsEdits u hash actions s := by
  induction actions using List.reverseRecOn generalizing s with
  | nil =>
      cases run
      obtain ⟨lists, rewrites, log⟩ := started
      refine ⟨lists, fun name => ?_, ?_⟩
      · rw [rewrites]
        rfl
      · rw [log]
        rfl
  | append_singleton before action ih =>
      rw [StateMachine.exec_append, Option.bind_eq_some_iff] at run
      obtain ⟨mid, reached, run⟩ := run
      obtain ⟨t, one, rest⟩ := (dnsServer nets u hash display).exec_cons_eq_some.mp run
      cases rest
      exact (ih reached).step one

/-- **End-to-end filtering.**  After every run, whatever the control list, the mode and the
permits have become, every request is treated as the entries and rules demand that were
added and not removed since, if no arena reaches `2 ^ 32` bytes; and the counters add up. -/
theorem dnsServer_filters (started : (dnsServer nets u hash display).init first)
    (run : (dnsServer nets u hash display).exec first actions = some s)
    (bounded : ∀ list, (listHistory list actions).Bounded u hash) :
    (∀ request weather, Filtered nets u display (filterOf u actions) s request
        (s.handleRequest nets u hash display request weather).1) ∧
      s.queryLog.Balanced := by
  have holds := holdsEdits_of_exec started run
  refine ⟨fun request weather => ?_, holds.balanced⟩
  refine filtered_handleRequest ⟨fun list name => ?_, holds.rules⟩ request weather
  rw [holds.lists list]
  exact (History.models (bounded list)).matches_iff name

/-- Labels that need no escapes, each followed by a full stop. -/
def plainDisplay (name : Name) : Str :=
  name.flatMap fun label => label.map (fun b => Char.ofNat b.toNat) ++ ['.']

/-- A network of one address, in CIDR notation. -/
def parseSingleAddress (text : Str) : Option IpAddr :=
  match Str.split '/' text with
  | [addr, bits] =>
      match IpAddr.parse addr with
      | some (.v4 addr) => if bits = "32".toList then some (.v4 addr) else none
      | some (.v6 addr) => if bits = "128".toList then some (.v6 addr) else none
      | none => none
  | _ => none

/-- Networks of one address each; other prefixes are not read. -/
def singleAddresses : IpNets IpAddr where
  parse := parseSingleAddress
  contains := fun network addr => network == addr

/-- A question for the address of `x.ads.example`. -/
def adsRequest : Request where
  src := .v4 0xC0000201#32
  queries :=
    [{ name := [Str.utf8 "x".toList, Str.utf8 "Ads".toList, Str.utf8 "example".toList]
       queryType := .a, queryClass := .IN }]

/-- A wildcard is blocked, a name under it allowed and disallowed again, and the name is asked
for. -/
def adsRun : List (DnsAction IpAddr) :=
  [.editList .blocklist (.insert "*.ads.example".toList),
    .editList .allowlist (.insert "x.ads.example".toList),
    .request adsRequest { sends := fun _ => none, resolved := none },
    .editList .allowlist (.remove "X.ads.example.".toList (Reordering.reverse _)),
    .setAcl { networks := [.v4 0xC0000201#32] },
    .request adsRequest { sends := fun _ => none, resolved := none }]

theorem dnsServer_filters_adsRun :
    ∃ s, (dnsServer singleAddresses .ascii (fun _ => 0) plainDisplay).exec {} adsRun = some s ∧
      (∀ request weather, Filtered singleAddresses .ascii plainDisplay (filterOf .ascii adsRun) s
        request (s.handleRequest singleAddresses .ascii (fun _ => 0) plainDisplay request
          weather).1) ∧
      s.queryLog.Balanced := by
  have bounded : ∀ list, (listHistory list adsRun).Bounded .ascii fun _ => 0 := by
    rintro (_ | _)
    · exact ⟨trivial, by decide⟩
    · exact ⟨⟨trivial, by decide⟩, by decide⟩
  obtain ⟨s, run⟩ : ∃ s, (dnsServer singleAddresses .ascii (fun _ => 0) plainDisplay).exec {}
      adsRun = some s := ⟨_, rfl⟩
  exact ⟨s, run, dnsServer_filters ⟨fun _ => rfl, rfl, rfl⟩ run bounded⟩

end Runs

end RustBlocker
