import RustBlocker.Access
import RustBlocker.Library.Traversal
import RustBlocker.SyncFrame

/-!
# Upstreams in use and upstreams stored

The rows of `upstreams` are written first, and the forwarder is built anew from them afterwards.
One row whose address does not parse fails the whole reload; the failure is logged, and the old
forwarder runs on.  At the next start the same row is fatal.

* **The table** has no check of the address, only of the port.
* **In step** are a server's table and forwarder when the addresses of the rows, parsed, are the
  clients of the forwarder.
* **Requests** meet no failing call here.

`always_inStep_iff` says which runs of requests and snapshots keep the two in step.

The runs are of requests that succeed and of snapshots that are committed, and the condition is on
what they bring: every address parses.  It is exact, because a row that does not parse stays until
it is deleted, and a forwarder that runs on without it is out of step at once.

A deletion brings no address, and may take a row away that does not parse; the server is then in
step again, but the run has been out of it.
-/

namespace RustBlocker

/-- The client of an upstream, if its address parses. -/
def UpstreamConfig.client (upstream : UpstreamConfig) : Option (IpAddr × Nat) :=
  (IpAddr.parse upstream.address).map fun ip => (ip, upstream.port.getD 53)

def UpstreamRow.client (row : UpstreamRow) : Option (IpAddr × Nat) := row.config.client

/-- The clients of the rows, in the order of their ids. -/
def storedClients (rows : List UpstreamRow) : Option (List (IpAddr × Nat)) :=
  rows.mapM UpstreamRow.client

/-! ## Building a forwarder

A forwarder is built exactly if all addresses parse, and its clients are then the addresses. -/

/-- One address that does not parse is enough to have no clients. -/
theorem storedClients_isSome {rows : List UpstreamRow} :
    (storedClients rows).isSome ↔ ∀ row ∈ rows, (IpAddr.parse row.address).isSome := by
  unfold storedClients
  rw [Traversal.isSome_mapM]
  refine forall₂_congr fun row _ => ?_
  rw [UpstreamRow.client, UpstreamConfig.client, Option.isSome_map]
  rfl

/-- The clients of rows, by their configurations. -/
theorem mapM_config (rows : List UpstreamRow) :
    (rows.map UpstreamRow.config).mapM UpstreamConfig.client = storedClients rows := by
  rw [List.mapM_map]
  rfl

namespace ParallelForwarder

/-- **A forwarder is built exactly if the addresses parse**, and these are its clients. -/
theorem toOption_newWithOptions (upstreams : List UpstreamConfig) (timeoutSecs : Nat)
    (strategy : ForwardStrategy) (hedgeDelayMs : Nat) :
    (newWithOptions upstreams timeoutSecs strategy hedgeDelayMs).toOption =
      (upstreams.mapM UpstreamConfig.client).map fun clients =>
        { clients, health := clients.map fun _ => {}, timeoutSecs, strategy, hedgeDelayMs } := by
  unfold newWithOptions
  rw [← Traversal.toOption_mapM (g := UpstreamConfig.client) (fun upstream => ?_) upstreams]
  · rcases List.mapM (m := Except Str) _ upstreams with error | clients <;> rfl
  · unfold UpstreamConfig.client
    rcases IpAddr.parse upstream.address with _ | ip <;> rfl

/-- A reload takes the rows over if their addresses parse, and is as nothing otherwise. -/
theorem clients_reload (forwarder : ParallelForwarder) (rows : List UpstreamRow)
    (timeoutSecs : Nat) (strategy : ForwardStrategy) (hedgeDelayMs : Nat) :
    (forwarder.reload (rows.map UpstreamRow.config) timeoutSecs strategy hedgeDelayMs).clients =
      (storedClients rows).getD forwarder.clients := by
  have built := toOption_newWithOptions (rows.map UpstreamRow.config) timeoutSecs strategy
    hedgeDelayMs
  rw [mapM_config] at built
  unfold reload
  cases result : newWithOptions (rows.map UpstreamRow.config) timeoutSecs strategy
    hedgeDelayMs with
  | error error =>
      rw [result] at built
      rw [Option.map_eq_none_iff.mp built.symm]
      rfl
  | ok fresh =>
      rw [result] at built
      obtain ⟨clients, stored, same⟩ := Option.map_eq_some_iff.mp built.symm
      rw [stored, ← same]
      rfl

/-- The rows make a forwarder exactly if their addresses parse, whatever the settings. -/
theorem newWithOptions_isOk (rows : List UpstreamRow) (timeoutSecs : Nat)
    (strategy : ForwardStrategy) (hedgeDelayMs : Nat) :
    (newWithOptions (rows.map UpstreamRow.config) timeoutSecs strategy
      hedgeDelayMs).toOption.isSome = (storedClients rows).isSome := by
  rw [toOption_newWithOptions, mapM_config, Option.isSome_map]

end ParallelForwarder

/-! ## Requests and snapshots

The requests that change the upstreams, each with the addresses it brings. -/

/-- What changes the upstreams: an operator adds or deletes one, or a snapshot replaces them
all. -/
inductive UpstreamRequest where
  | add (peer : Option IpAddr) (address : Str) (port : Option Nat)
  | delete (peer : Option IpAddr) (id : Int)
  /-- A snapshot of the upstreams. -/
  | apply (data : Json)

/-- The addresses the request brings, as they are read. -/
def UpstreamRequest.addresses : UpstreamRequest → List Str
  | add _ address _ => [address]
  | delete _ _ => []
  | apply data => ((parseUpstreams data).getD []).map UpstreamRow.address

/-- Every address that the request brings parses.  A request that brings none meets this. -/
def UpstreamRequest.AddressesParse (request : UpstreamRequest) : Prop :=
  ∀ address ∈ request.addresses, (IpAddr.parse address).isSome

section Machine

variable {Net : Type} (env : ApiEnv Net)

namespace WebServer

/-- The part of a server a snapshot is applied to. -/
def node (s : WebServer Net) : SyncedNode where
  db := s.db
  lists := s.lists
  rewrites := s.rewrites
  forwarder := s.forwarder

/-- A server after a snapshot. -/
def setNode (s : WebServer Net) (node : SyncedNode) : WebServer Net :=
  { s with
    db := node.db, lists := node.lists, rewrites := node.rewrites, forwarder := node.forwarder }

/-- A request that is answered with the status, and nothing else, is successful. -/
def onStatus (status : Nat) (reply : Reply Net) : Option (WebServer Net) :=
  if reply.1.status = status then some reply.2 else none

/-- **In step**: the upstreams in use are the ones stored, in the order of their ids, and a
restart finds a forwarder. -/
structure InStep (s : WebServer Net) : Prop where
  /-- The rows are in the order of their ids. -/
  ordered : (s.db.upstreams.rows.map Prod.fst).Pairwise (· < ·)
  inUse : storedClients s.db.upstreams.values = some s.forwarder.clients
  restarts : ∀ timeoutSecs strategy hedgeDelayMs,
    (ParallelForwarder.newWithOptions (s.db.upstreams.values.map UpstreamRow.config) timeoutSecs
      strategy hedgeDelayMs).toOption.isSome

end WebServer

/-- The requests that succeed and the snapshots that are committed, while every call of the
database does.  A request that is refused changes nothing and is no step. -/
def upstreamRequests : StateMachine (WebServer Net) UpstreamRequest where
  init := WebServer.InStep
  step s
    | .add peer address port =>
        WebServer.onStatus 201 (s.addUpstream env {} peer address port)
    | .delete peer id => WebServer.onStatus 200 (s.deleteUpstream env {} peer id)
    | .apply data =>
        let category := SyncCategory.upstreams.name
        if (applySnapshotBlocking env.caseTables env.hash {} category data
            { db := s.db, runtime := s.lists }).committed then
          some (s.setNode (applySnapshot env.caseTables env.hash {} category data s.node))
        else none

end Machine

/-! ## One step

A step writes the table and reloads the forwarder from it.  The reload succeeds exactly if every
row parses; in a server that is in step this depends on the new rows alone. -/

section Step

variable {Net : Type} {env : ApiEnv Net} {s t : WebServer Net}

namespace WebServer

theorem onStatus_eq_some {status : Nat} {reply : Reply Net} :
    onStatus status reply = some t ↔ reply.1.status = status ∧ reply.2 = t := by
  unfold onStatus
  rw [Option.ite_none_right_eq_some, Option.some_inj]

/-- A reload after the table was written. -/
theorem clients_reloadForwarder (s : WebServer Net) :
    (s.reloadForwarder {}).forwarder.clients =
      (storedClients s.db.upstreams.values).getD s.forwarder.clients :=
  ParallelForwarder.clients_reload _ _ _ _ _

end WebServer

/-- **What a step does**: the rows of the request come in, others may go, and the forwarder
is reloaded. -/
structure UpstreamStep (request : UpstreamRequest) (s t : WebServer Net) : Prop where
  ordered : (s.db.upstreams.rows.map Prod.fst).Pairwise (· < ·) →
    (t.db.upstreams.rows.map Prod.fst).Pairwise (· < ·)
  origin : ∀ row ∈ t.db.upstreams.values,
    row ∈ s.db.upstreams.values ∨ row.address ∈ request.addresses
  brought : ∀ address ∈ request.addresses, ∃ row ∈ t.db.upstreams.values, row.address = address
  reloaded : t.forwarder.clients =
    (storedClients t.db.upstreams.values).getD s.forwarder.clients

/-- A row that goes in goes in after the others. -/
theorem ordered_insert {table table' : UpstreamTable} {row : UpstreamRow}
    (inserted : table.insert row = some table')
    (ordered : (table.rows.map Prod.fst).Pairwise (· < ·)) :
    (table'.rows.map Prod.fst).Pairwise (· < ·) := by
  obtain ⟨-, rows, -⟩ := SqlTable.insert_eq_some inserted
  rw [rows, List.map_append, List.pairwise_append]
  refine ⟨ordered, List.pairwise_singleton _ _, fun id mem new here => ?_⟩
  obtain ⟨old, inside, rfl⟩ := List.mem_map.mp mem
  rw [List.mem_singleton.mp here]
  exact Nat.lt_succ_of_le (table.ids_le old inside)

theorem ordered_insertRows {rows : List UpstreamRow} {table table' : UpstreamTable}
    (inserted : insertRows table rows = some table')
    (ordered : (table.rows.map Prod.fst).Pairwise (· < ·)) :
    (table'.rows.map Prod.fst).Pairwise (· < ·) := by
  induction rows generalizing table with
  | nil =>
      cases inserted
      exact ordered
  | cons row rest ih =>
      rw [insertRows, List.foldlM_cons, Option.bind_eq_bind, Option.bind_eq_some_iff] at inserted
      obtain ⟨one, first, later⟩ := inserted
      exact ih later (ordered_insert first ordered)

/-- The table after an upstream was added. -/
theorem addUpstream_created {peer : Option IpAddr} {address : Str} {port : Option Nat}
    (created : (s.addUpstream env {} peer address port).1.status = 201) :
    ∃ upstreams, s.db.upstreams.insert { address, port := port.getD 53 } = some upstreams ∧
      (s.addUpstream env {} peer address port).2 =
        { s with db := { s.db with upstreams } }.reloadForwarder {} := by
  revert created
  unfold WebServer.addUpstream WebServer.guarded
  split
  · simp only
    split
    · intro impossible
      cases impossible
    · unfold insertUpstream
      split
      · intro impossible
        cases impossible
      next table inserted =>
        intro _
        refine ⟨table, ?_, rfl⟩
        revert inserted
        split
        next row here =>
          intro same
          obtain rfl : row = table := Except.ok.inj same
          exact (Option.ite_none_right_eq_some.mp here).2
        · intro impossible
          cases impossible
  · intro impossible
    cases impossible

/-- The table after an upstream was deleted. -/
theorem deleteUpstream_ok {peer : Option IpAddr} {id : Int}
    (deleted : (s.deleteUpstream env {} peer id).1.status = 200) :
    (s.deleteUpstream env {} peer id).2 =
      { s with
        db := { s.db with
          upstreams := s.db.upstreams.deleteWhere fun row => row.1 == id.toNat }
        }.reloadForwarder {} := by
  revert deleted
  unfold WebServer.deleteUpstream WebServer.guarded
  split
  · split
    · intro _
      rfl
    · intro impossible
      cases impossible
  · intro impossible
    cases impossible

/-- The node after a snapshot of the upstreams was committed. -/
theorem applySnapshot_upstreams (data : Json) (node : SyncedNode)
    (committed : (applySnapshotBlocking env.caseTables env.hash {} SyncCategory.upstreams.name data
      { db := node.db, runtime := node.lists }).committed = true) :
    ∃ items upstreams, parseUpstreams data = some items ∧
      insertRows node.db.upstreams.deleteAll items = some upstreams ∧
      applySnapshot env.caseTables env.hash {} SyncCategory.upstreams.name data node =
        { node with
          db := { node.db with upstreams }
          forwarder := reloadWith {} { node.db with upstreams } items node.forwarder } := by
  have known : SyncCategory.ofName? SyncCategory.upstreams.name = some .upstreams := by decide
  have blocking : applySnapshotBlocking env.caseTables env.hash {} SyncCategory.upstreams.name data
      { db := node.db, runtime := node.lists } =
        applyUpstreams {} data { db := node.db, runtime := node.lists } := by
    unfold applySnapshotBlocking
    rw [known]
  rw [blocking] at committed
  unfold applyUpstreams at committed blocking
  rcases applyRows_cases {} ((parseUpstreams data).filter fun items =>
      !items.any fun item => item.port == 0) insertUpstream node.db.upstreams.deleteAll
      (fun upstreams => { node.db with upstreams }) { db := node.db, runtime := node.lists } with
    ⟨items, upstreams, read, -, folded, out⟩ | ⟨-, out⟩
  · obtain ⟨parsed, ports⟩ := Option.filter_eq_some_iff.mp read
    refine ⟨items, upstreams, parsed, ?_, ?_⟩
    · rw [← folded, foldlM_insertUpstream fun item mem =>
        ⟨?_, port_of_parseUpstreams parsed item mem⟩]
      intro zero
      simp only [Bool.not_eq_true', List.any_eq_false, beq_iff_eq] at ports
      exact ports item mem zero
    · unfold applySnapshot
      rw [known]
      have written := blocking.trans out
      simp only [written, parsed]
      rfl
  · rw [out] at committed
    cases committed

/-- **A request or a snapshot that succeeds is a step of the table, and a reload.** -/
theorem upstreamStep {request : UpstreamRequest}
    (step : (upstreamRequests env).step s request = some t) : UpstreamStep request s t := by
  cases request with
  | add peer address port =>
      obtain ⟨status, rfl⟩ := WebServer.onStatus_eq_some.mp step
      obtain ⟨upstreams, inserted, after⟩ := addUpstream_created status
      rw [after]
      have values := SqlTable.values_insert inserted
      refine ⟨ordered_insert inserted, fun row mem => ?_, fun brought mem => ?_,
        WebServer.clients_reloadForwarder _⟩
      · rcases List.mem_append.mp (values ▸ mem) with old | new
        · exact Or.inl old
        · rw [List.mem_singleton.mp new]
          exact Or.inr List.mem_cons_self
      · refine ⟨{ address, port := port.getD 53 }, ?_, (List.mem_singleton.mp mem).symm⟩
        show _ ∈ upstreams.values
        rw [values]
        exact List.mem_append_right _ List.mem_cons_self
  | delete peer id =>
      obtain ⟨status, rfl⟩ := WebServer.onStatus_eq_some.mp step
      rw [deleteUpstream_ok status]
      refine ⟨fun ordered => ?_, fun row mem => ?_, fun brought mem => ?_,
        WebServer.clients_reloadForwarder _⟩
      · exact ordered.sublist (List.filter_sublist.map _)
      · obtain ⟨id, inside, -⟩ := SqlTable.mem_values_deleteWhere.mp mem
        exact Or.inl (SqlTable.mem_values.mpr ⟨id, inside⟩)
      · exact absurd mem List.not_mem_nil
  | apply data =>
      obtain ⟨committed, same⟩ := Option.ite_none_right_eq_some.mp step
      obtain rfl := Option.some.inj same
      obtain ⟨items, upstreams, parsed, inserted, after⟩ :=
        @applySnapshot_upstreams _ env data s.node committed
      rw [after]
      -- the table was emptied, so its rows are those of the payload
      have values := (insertRows_eq_some inserted).1
      rw [SqlTable.values_deleteAll, List.nil_append] at values
      have addresses : (UpstreamRequest.apply data).addresses = items.map UpstreamRow.address := by
        show ((parseUpstreams data).getD []).map _ = _
        rw [parsed]
        rfl
      rw [show items = upstreams.values from values.symm] at addresses
      refine ⟨fun _ => ordered_insertRows inserted List.Pairwise.nil, fun row mem => Or.inr ?_,
        fun address mem => ?_, ?_⟩
      · rw [addresses]
        exact List.mem_map_of_mem mem
      · rw [addresses] at mem
        exact List.mem_map.mp mem
      · show (reloadWith {} _ items s.forwarder).clients = _
        rw [← values]
        exact ParallelForwarder.clients_reload _ _ _ _ _

/-- **One step keeps a server in step exactly if the addresses of the request parse.** -/
theorem inStep_iff_addressesParse {request : UpstreamRequest} (inStep : s.InStep)
    (step : (upstreamRequests env).step s request = some t) :
    t.InStep ↔ request.AddressesParse := by
  obtain ⟨ordered, origin, brought, reloaded⟩ := upstreamStep step
  have parsed : ∀ row ∈ s.db.upstreams.values, (IpAddr.parse row.address).isSome :=
    storedClients_isSome.mp (by rw [inStep.inUse]; rfl)
  constructor
  · intro after address mem
    obtain ⟨row, stored, rfl⟩ := brought address mem
    have isSome : (storedClients t.db.upstreams.values).isSome := by
      rw [after.inUse]
      rfl
    exact storedClients_isSome.mp isSome row stored
  · intro parse
    have isSome : (storedClients t.db.upstreams.values).isSome := by
      refine storedClients_isSome.mpr fun row mem => ?_
      rcases origin row mem with old | new
      · exact parsed row old
      · exact parse row.address new
    obtain ⟨clients, stored⟩ := Option.isSome_iff_exists.mp isSome
    refine ⟨ordered inStep.ordered, ?_, fun timeoutSecs strategy hedgeDelayMs => ?_⟩
    · rw [reloaded, stored]
      rfl
    · rw [ParallelForwarder.newWithOptions_isOk]
      exact isSome

end Step

/-! ## Every run -/

/-- **The upstreams in use are the ones stored exactly as long as the addresses parse.**  A
run of successful requests and snapshots keeps a server in step in all its states iff every
address it brings parses. -/
theorem always_inStep_iff {Net : Type} {env : ApiEnv Net} {s t : WebServer Net}
    {requests : List UpstreamRequest} (start : (upstreamRequests env).init s)
    (run : (upstreamRequests env).exec s requests = some t) :
    (upstreamRequests env).Always WebServer.InStep s requests ↔
      ∀ request ∈ requests, request.AddressesParse := by
  rw [← (upstreamRequests env).stepsMeet_const run]
  exact (upstreamRequests env).always_iff_stepsMeet
    (fun _ _ _ inStep step => inStep_iff_addressesParse inStep step) start run

/-! ## A name for an address

A name is stored, since the table checks ports only, and the reload fails from then on. -/

/-- A server that runs the upstream of its table. -/
def oneUpstreamServer : WebServer IpAddr where
  db := failingNode.db
  forwarder := failingNode.forwarder
  key := []

theorem oneUpstreamServer_inStep : oneUpstreamServer.InStep := by
  refine ⟨by decide, by decide, fun timeoutSecs strategy hedgeDelayMs => ?_⟩
  rw [ParallelForwarder.newWithOptions_isOk]
  decide

/-- **One name instead of an address**: it is stored, the forwarder runs on without it, and
the next start fails. -/
theorem not_inStep_name :
    oneUpstreamServer.InStep ∧
      ∃ t, (upstreamRequests plainEnv).exec oneUpstreamServer
          [.add none "dns.google".toList none] = some t ∧
        ¬ t.InStep ∧
        t.db.upstreams.values.map UpstreamRow.address =
          ["192.0.2.1".toList, "dns.google".toList] ∧
        t.forwarder.clients = oneUpstreamServer.forwarder.clients ∧
        ∀ timeoutSecs strategy hedgeDelayMs,
          (ParallelForwarder.newWithOptions (t.db.upstreams.values.map UpstreamRow.config)
            timeoutSecs strategy hedgeDelayMs).toOption = none := by
  refine ⟨oneUpstreamServer_inStep, ?_⟩
  have ends : ((upstreamRequests plainEnv).exec oneUpstreamServer
      [.add none "dns.google".toList none]).map (fun t =>
        (t.db.upstreams.values.map UpstreamRow.address,
          (storedClients t.db.upstreams.values).isNone, t.forwarder.clients)) =
      some (["192.0.2.1".toList, "dns.google".toList], true,
        oneUpstreamServer.forwarder.clients) := by
    decide +kernel
  obtain ⟨t, run, ends⟩ := Option.map_eq_some_iff.mp ends
  obtain ⟨addresses, ends⟩ := Prod.mk.inj ends
  obtain ⟨isNone, clients⟩ := Prod.mk.inj ends
  have stored := Option.isNone_iff_eq_none.mp isNone
  refine ⟨t, run, fun inStep => ?_, addresses, clients, fun timeoutSecs strategy hedgeDelayMs => ?_⟩
  · rw [inStep.inUse] at stored
    cases stored
  · rw [ParallelForwarder.toOption_newWithOptions, mapM_config, stored]
    rfl

/-- An upstream that is added by its address, and then deleted. -/
theorem always_inStep_iff_address :
    ∃ t, (upstreamRequests plainEnv).exec oneUpstreamServer
        [.add none "192.0.2.2".toList none, .delete none 2] = some t ∧
      ((upstreamRequests plainEnv).Always WebServer.InStep oneUpstreamServer
          [.add none "192.0.2.2".toList none, .delete none 2] ↔
        ∀ request ∈ [UpstreamRequest.add none "192.0.2.2".toList none, .delete none 2],
          request.AddressesParse) := by
  have runs : ((upstreamRequests plainEnv).exec oneUpstreamServer
      [.add none "192.0.2.2".toList none, .delete none 2]).isSome := by
    decide +kernel
  obtain ⟨t, run⟩ := Option.isSome_iff_exists.mp runs
  exact ⟨t, run, always_inStep_iff oneUpstreamServer_inStep run⟩

end RustBlocker
