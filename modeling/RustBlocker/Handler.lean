import RustBlocker.Acl
import RustBlocker.Library.StateMachine
import RustBlocker.ListsRefinement
import RustBlocker.Rewrites

/-!
# Answering a DNS request

`handle_request` passes a request through seven gates: a free permit, the access control list, a
question, its class, the rewrite rules, and the two lists.  The first gate that stops it answers;
a request that none stops is forwarded.

* **Calls.**  The handler is a function from the state it reads to the calls it makes, in their
  order: responses it attempts to send, entries it records, and the resolution by the forwarder.
* **Names.**  A question carries labels.  The text that is looked up is what hickory displays of
  them, normalized; the display is a parameter.  It is given the labels of the question as they
  were sent; that `query.name()` is a `LowerName`, whose labels are in lower case, is a matter of
  the display that is put in.
* **Metadata** that is copied from the request is left out of the responses.

`dnsServer` is the machine of the requests among the edits of the two lists and of the rewrite
rules.  What is said of it speaks of the edits only: of the entries that were added and not
removed since.

## What is a parameter

The networks of the control list, the hash of the store, the character data of the toolchain and
the display of names are arguments of the handler.  What happens to the calls it makes, whether a
response can be sent and what the forwarder comes to, is the `RequestWeather` of the request: a
handler that fails to send logs the failure and answers with a code of its own, which is part of
the model.

A request reads the lists, the rules and the settings at one time here.  In the program it reads
them one after the other, each under its own lock; `RustBlocker.InFlight` takes the handler apart
into these steps and compares the two.
-/

namespace RustBlocker

/-- The labels of a name. -/
abbrev Name := List Bytes

inductive RecordType where
  | a
  | aaaa
  | other (code : UInt16)
deriving DecidableEq, Repr

inductive DnsClass where
  | IN
  | other (code : UInt16)
deriving DecidableEq, Repr

inductive ResponseCode where
  | noError
  | formErr
  | servFail
  | nxDomain
  | refused
deriving DecidableEq, Repr

inductive RData where
  | a (addr : Ipv4Addr)
  | aaaa (addr : Ipv6Addr)
  | soa (mname rname : Name) (serial refresh retry expire minimum : Nat)
deriving DecidableEq

structure Record where
  name : Name
  ttl : Nat
  rdata : RData
deriving DecidableEq

structure Edns where
  version : Nat := 0
  maxPayload : Nat
  /-- Options by code. -/
  options : List (Nat × Bytes) := []
deriving DecidableEq

/-- A question.  `name` has the labels as they were sent; the display lower-cases them before it
prints. -/
structure Query where
  name : Name
  queryType : RecordType
  queryClass : DnsClass

/-- A request: where it comes from, its questions, of which only the first is answered, and its
EDNS record. -/
structure Request where
  src : IpAddr
  queries : List Query
  edns : Option Edns := none

/-- A response to a request. -/
structure Message where
  responseCode : ResponseCode
  authoritative : Bool := false
  answers : List Record := []
  soa : List Record := []
  edns : Option Edns := none
deriving DecidableEq

structure ResponseInfo where
  responseCode : ResponseCode

def blockedResponseTtlSecs : Nat := 60

def edeOptionCode : Nat := 15

def edeForgedAnswer : UInt16 := 4

def edeBlocked : UInt16 := 15

/-- `BLOCKED_NXDOMAIN_SOA`; its owner is the root. -/
def blockedNxdomainSoa : Record where
  name := []
  ttl := blockedResponseTtlSecs
  rdata :=
    .soa [Str.utf8 "localhost".toList]
      [Str.utf8 "hostmaster".toList, Str.utf8 "localhost".toList] 1
      blockedResponseTtlSecs blockedResponseTtlSecs blockedResponseTtlSecs
      blockedResponseTtlSecs

/-! ## The query log -/

inductive QueryAction where
  | allowed
  | blocked
  | rewritten
  | forwarded
deriving DecidableEq, Repr

/-- What is logged of a query.  The resolver and the latency are there only if it was forwarded. -/
structure QueryEntry where
  clientIp : IpAddr
  domain : Str
  queryType : RecordType
  action : QueryAction
  resolver : Option Str := none
  latencyUs : Option UInt64 := none

/-- The counters of `QueryLog`; they wrap, as atomic integers do. -/
structure QueryLog where
  total : UInt64 := 0
  blocked : UInt64 := 0
  allowed : UInt64 := 0
  rewritten : UInt64 := 0
  forwarded : UInt64 := 0

/-- `record` -/
def QueryLog.record (log : QueryLog) (entry : QueryEntry) : QueryLog :=
  let log := { log with total := log.total + 1 }
  match entry.action with
  | .blocked => { log with blocked := log.blocked + 1 }
  | .allowed => { log with allowed := log.allowed + 1 }
  | .rewritten => { log with rewritten := log.rewritten + 1 }
  | .forwarded => { log with forwarded := log.forwarded + 1 }

/-- Every query is counted under its action.  The equation is one of numbers that wrap, so it
holds for ever. -/
def QueryLog.Balanced (log : QueryLog) : Prop :=
  log.total = log.blocked + log.allowed + log.rewritten + log.forwarded

theorem QueryLog.Balanced.record {log : QueryLog} (balanced : log.Balanced)
    (entry : QueryEntry) : (log.record entry).Balanced := by
  unfold Balanced at balanced
  cases action : entry.action <;> simp only [Balanced, QueryLog.record, action, balanced] <;> ac_rfl

/-! ## The handler

`handle_request` is a list of the calls it makes, in order, since what it does to the world is to
make calls.  What they come to is given by the weather of the request, and `perform` is what each
of them does to the counters. -/

inductive BlockResponseMode where
  | nxDomain
  | nullIp
deriving DecidableEq, Repr

namespace BlockResponseMode

def asStr : BlockResponseMode → Str
  | nxDomain => "nxdomain".toList
  | nullIp => "null_ip".toList

/-- `from_str` -/
def parse (value : Str) : Option BlockResponseMode :=
  if value = "nxdomain".toList then some nxDomain
  else if value = "null_ip".toList then some nullIp
  else none

end BlockResponseMode

inductive BlockResponse where
  | answer (rdata : RData)
  | nxDomain
  | refused

/-- `blocked_response` -/
def blockedResponse (mode : BlockResponseMode) (queryType : RecordType) (ipv4 : Ipv4Addr)
    (ipv6 : Ipv6Addr) : BlockResponse :=
  match mode, queryType with
  | .nxDomain, _ => .nxDomain
  | .nullIp, .a => .answer (.a ipv4)
  | .nullIp, .aaaa => .answer (.aaaa ipv6)
  | .nullIp, .other _ => .refused

/-- `blocked_response_edns` -/
def blockedResponseEdns (request : Request) (infoCode : UInt16) : Option Edns :=
  request.edns.map fun edns =>
    { maxPayload := edns.maxPayload
      options := [(edeOptionCode, [UInt8.ofNat (infoCode.toNat / 256), infoCode.toUInt8])] }

/-- A call of the handler, to the query log, to the client or to the forwarder. -/
inductive HandlerCall where
  | recordReject
  | respond (response : Message)
  | resolve
  | record (entry : QueryEntry)

namespace HandlerCall

def response? : HandlerCall → Option Message
  | respond response => some response
  | _ => none

def entry? : HandlerCall → Option QueryEntry
  | record entry => some entry
  | _ => none

def resolves : HandlerCall → Bool
  | resolve => true
  | _ => false

end HandlerCall

structure ResolveResult where
  info : ResponseInfo
  resolver : Str
  latencyUs : UInt64

/-- What the calls of a request meet: whether a response is sent, and what comes of the
resolution.  A response that is not sent has no info. -/
structure RequestWeather where
  sends : Message → Option ResponseInfo
  resolved : Option ResolveResult

/-- `serve_failed` -/
def serveFailed : ResponseInfo := { responseCode := .servFail }

/-- `error_msg` -/
def errorMsg (code : ResponseCode) : Message := { responseCode := code }

/-- What the handlers of the server share.  The counters of `queryLog` are those that a query is
recorded in; the rows that are written of it are in `RustBlocker.LogWriter`. -/
structure DnsServer (Net : Type) where
  lists : DomainList → DomainStore := fun _ => .default
  rewrites : RewriteMap := {}
  sinkholeIpv4 : Ipv4Addr := 0
  sinkholeIpv6 : Ipv6Addr := 0
  blockResponseMode : BlockResponseMode := .nxDomain
  acl : Acl Net := {}
  availablePermits : Nat := 512
  rejected : UInt64 := 0
  queryLog : QueryLog := {}

/-- What a rule answers to a question of the type. -/
def RuntimeRewriteRule.rdata (rule : RuntimeRewriteRule) : RecordType → Option RData
  | .a => rule.ipv4.map .a
  | .aaaa => rule.ipv6.map .aaaa
  | .other _ => none

/-- The response to a blocked question, with the extended error that says so where the request has
an EDNS record. -/
def blockedMessage (request : Request) (name : Name) : BlockResponse → Message
  | .answer rdata =>
      { responseCode := .noError
        answers := [⟨name, blockedResponseTtlSecs, rdata⟩]
        edns := blockedResponseEdns request edeForgedAnswer }
  | .nxDomain =>
      { responseCode := .nxDomain
        soa := [blockedNxdomainSoa]
        edns := blockedResponseEdns request edeBlocked }
  | .refused =>
      { responseCode := .refused
        edns := blockedResponseEdns request edeBlocked }

section Handler

variable {Net : Type} (nets : IpNets Net) (u : CaseTables) (hash : Bytes → UInt64)
  (display : Name → Str)

namespace DnsServer

/-- A response is sent, or the failure is logged. -/
def answer (weather : RequestWeather) (before : List HandlerCall) (response : Message) :
    List HandlerCall × ResponseInfo :=
  (before ++ [.respond response], (weather.sends response).getD serveFailed)

/-- `handle_request` -/
def handleRequest (s : DnsServer Net) (request : Request) (weather : RequestWeather) :
    List HandlerCall × ResponseInfo :=
  if s.availablePermits = 0 then answer weather [.recordReject] (errorMsg .servFail)
  else if !s.acl.isAllowed nets request.src then answer weather [] (errorMsg .refused)
  else
    match request.queries.head? with
    | none => answer weather [] (errorMsg .formErr)
    | some query =>
        let domain := normalizeDomain u (display query.name)
        let entry (action : QueryAction) : QueryEntry :=
          { clientIp := request.src, domain, queryType := query.queryType, action }
        if query.queryClass ≠ .IN then answer weather [] (errorMsg .refused)
        else
          match (s.rewrites.lookup domain).bind fun rule => rule.rdata query.queryType with
          | some rdata =>
              answer weather [.record (entry .rewritten)]
                { responseCode := .noError, answers := [⟨query.name, 60, rdata⟩] }
          | none =>
              let allowlisted := (s.lists .allowlist).matches hash domain
              let isDomainBlocked := !allowlisted && (s.lists .blocklist).matches hash domain
              if isDomainBlocked then
                answer weather [.record (entry .blocked)]
                  (blockedMessage request query.name
                    (blockedResponse s.blockResponseMode query.queryType s.sinkholeIpv4
                      s.sinkholeIpv6))
              else
                let action := if allowlisted then QueryAction.allowed else .forwarded
                match weather.resolved with
                | none => ([.resolve, .record (entry action)], serveFailed)
                | some result =>
                    ([.resolve, .record
                        { entry action with
                          resolver := some result.resolver
                          latencyUs := some result.latencyUs }], result.info)

/-- A call changes the counters. -/
def perform (s : DnsServer Net) : HandlerCall → DnsServer Net
  | .recordReject => { s with rejected := s.rejected + 1 }
  | .record entry => { s with queryLog := s.queryLog.record entry }
  | .respond _ | .resolve => s

end DnsServer

end Handler

/-! ## Edits

Between two requests the lists, the rules and the settings change.  An edit is applied to the
store as the code does it, and is remembered as a step of a history, which is what the
specification knows of it. -/

/-- An edit of a list, while the server runs. -/
inductive ListEdit where
  | insert (domain : Str)
  | remove (domain : Str) (order : BucketOrder)
  | merge (other : History) (order : BucketOrder)
  | replaceWith (other : History)
  | clear

/-- The history with one more edit. -/
def History.edited (before : History) : ListEdit → History
  | .insert domain => .insert before domain
  | .remove domain order => .remove before domain order
  | .merge other order => .merge before other order
  | .replaceWith other => .replaceWith before other
  | .clear => .clear before

/-- An edit of the rewrite rules, while the server runs. -/
inductive RewriteEdit where
  | insert (rule : RewriteRow)
  | remove (domain : Str)
  | replace (rules : List RewriteRow)

inductive DnsAction (Net : Type) where
  | editList (list : DomainList) (edit : ListEdit)
  | editRewrites (edit : RewriteEdit)
  | setAcl (acl : Acl Net)
  | setBlockResponse (mode : BlockResponseMode) (ipv4 : Ipv4Addr) (ipv6 : Ipv6Addr)
  /-- Requests that are under way take permits and give them back. -/
  | setPermits (available : Nat)
  | request (request : Request) (weather : RequestWeather)

section Machine

variable {Net : Type} (nets : IpNets Net) (u : CaseTables) (hash : Bytes → UInt64)
  (display : Name → Str)

/-- What the code does of an edit of a list. -/
def DomainStore.edit (store : DomainStore) : ListEdit → DomainStore
  | .insert domain => (store.insert u hash domain).1
  | .remove domain order => store.remove u hash domain order
  | .merge other order => store.merge hash (other.store u hash) order
  | .replaceWith other => store.replaceWith (other.store u hash)
  | .clear => store.clear

/-- What the code does of an edit of the rules. -/
def RewriteMap.edit (map : RewriteMap) : RewriteEdit → RewriteMap
  | .insert rule => map.insert u rule
  | .remove domain => map.remove u domain
  | .replace rules => .load u rules

def DnsServer.step (s : DnsServer Net) : DnsAction Net → Option (DnsServer Net)
  | .editList list edit =>
      some { s with lists := Function.update s.lists list ((s.lists list).edit u hash edit) }
  | .editRewrites edit => some { s with rewrites := s.rewrites.edit u edit }
  | .setAcl acl => some { s with acl }
  | .setBlockResponse blockResponseMode sinkholeIpv4 sinkholeIpv6 =>
      some { s with blockResponseMode, sinkholeIpv4, sinkholeIpv6 }
  | .setPermits availablePermits => some { s with availablePermits }
  | .request request weather =>
      some ((s.handleRequest nets u hash display request weather).1.foldl DnsServer.perform s)

/-- The DNS server, from empty lists on. -/
def dnsServer : StateMachine (DnsServer Net) (DnsAction Net) where
  init s := (∀ list, s.lists list = .default) ∧ s.rewrites = {} ∧ s.queryLog = {}
  step := DnsServer.step nets u hash display

end Machine

end RustBlocker
