import RustBlocker.Library.StateMachine
import RustBlocker.Pruning
import RustBlocker.Snapshots

/-!
# List requests under the mutation lock

Every request that changes a list does its slow work first (a fetch, an upload), then takes
`SOURCE_MUTATION_LOCK`, commits its database transaction, updates the runtime store of the list,
and lets the lock go.  `listRequests` is the machine of all such requests at once: one action is
one of these steps of one request, and an action list is one interleaving.

* **Outside the lock** a request is a `Task`: an `add_source` between its insert and its select, a
  refresh that waits for its fetch, or a job that waits for the lock.  A refresh carries the
  `DbSource` it read when it started.
* **Inside the lock** there is at most one request, the `Holding`: before its commit, after its
  commit with the runtime update still to come, or after both.
* `apply_sources` of the replica runs in a transaction of its own and without the lock, and so do
  the two statements of `add_source` and the reads of a source.

`refresh_all` and the timed refresh read their sources once and refresh them one after the other;
the sources still to come travel with the request.

## What a step is

The steps are cut where another request can come in between: at a transaction, at the lock, at a
fetch.  What lies between two cuts is one step, and the database calls inside a transaction are
part of its commit, with a plan of those that fail.  A commit that fails leaves the database as it
was and nothing to do for the store.

The commit and the update of the store are two steps on purpose.  Between them the table and the
store disagree, under the lock, and a reload reads the table in a step of its own, which may fail;
then the old store goes on.  Whether what is left agrees with the table at the end is what the
modules on top of this one are about.

The tasks form a list and have no order: a step names the task it is about, and any task may come
next.  Fairness is nowhere assumed.
-/

namespace RustBlocker

/-- A domain in the form `parse_domain_line` gives it. -/
abbrev ListedDomain := { domain : Str // Canonical domain }

/-- What a request does under the lock: one transaction, and at most one update of a store. -/
inductive Job where
  | addDomain (list : DomainList) (domain : ListedDomain)
  | deleteDomain (list : DomainList) (id : Nat)
  | bulkImport (list : DomainList) (content : Str)
  | deleteSource (id : Nat)
  | refresh (source : DbSource) (content : Str)
  | applySnapshot (list : DomainList) (domains : List ListedDomain)

/-- The update of a runtime store that follows a commit.  A commit that has changed nothing, or
has failed, leaves `nothing` to do. -/
inductive Effect where
  | nothing
  | insert (list : DomainList) (domain : Str)
  | remove (list : DomainList) (domain : Str)
  | merge (list : DomainList) (store : DomainStore)
  /-- The table of the list is to be read again. -/
  | rebuild (list : DomainList)
  | replace (list : DomainList) (store : DomainStore)

/-- Where a request stands outside the lock, with what it has read or fetched so far. -/
inductive Stage where
  /-- `add_source` after its insert. -/
  | adding (url listType : Str) (intervalHours : Int)
  | fetching (source : DbSource)
  | waiting (job : Job)

/-- A request outside the lock, and the sources it will refresh after this one. -/
structure Task where
  stage : Stage
  later : List DbSource := []

/-- Where the request that holds the lock stands: before its commit, before its update, or after
both. -/
inductive Progress where
  | locked (job : Job)
  | committed (effect : Effect)
  | updated

/-- The request that holds the lock.  The sources it still has to refresh are with it, since a
round lets the lock go between two of them. -/
structure Holding where
  progress : Progress
  later : List DbSource := []

/-- The server, as far as the lists are concerned.  At most one request holds the lock; the others
are tasks. -/
structure Server where
  db : Db := {}
  runtime : DomainList → DomainStore := fun _ => .default
  tasks : List Task := []
  holder : Option Holding := none

/-- What a commit meets: the time, and the calls that fail.  Each field is read by one kind of job
only. -/
structure Weather where
  now : Str := []
  add : Plan AddDomainCall := .clear
  delete : Plan DeleteDomainCall := .clear
  bulk : Plan ImportCall := .clear
  deleteSource : Plan DeleteSourceCall := .clear
  leftover : Finset Str := ∅
  refresh : Plan RefreshCall := .clear
  snapshotFails : Bool := false

/-- No call fails. -/
def Weather.fair (now : Str) : Weather := { now := now }

/-- A step of some request.  The environment chooses which request, what a fetch brings, and which
calls fail. -/
inductive Action where
  /-- A request other than a refresh is ready to take the lock. -/
  | submit (job : Job)
  /-- `add_source`: the insert. -/
  | addSource (url listType : Str) (intervalHours : Int)
  /-- `add_source`: the select, after which the new source is refreshed. -/
  | selectId (task : Nat)
  | refreshOne (id : Nat)
  | refreshAll
  /-- The timed refresh; `stale` stands for the comparison of the times. -/
  | refreshStale (stale : DbSource → Bool)
  | fetched (task : Nat) (content : Str)
  | fetchFailed (task : Nat) (now error : Str)
  | acquire (task : Nat)
  | commit (weather : Weather)
  | load (scan : Reordering Str) (fails : Plan LoadCall)
  | update (order : BucketOrder)
  | release
  /-- `apply_sources` with the rows of a snapshot; a failed transaction changes
  nothing. -/
  | applySources (items : List SourceItem)

/-! ## Steps

The effects of a commit first, as functions of the database; then the step function, which says
for each action whether some request is at that step, and what becomes of it. -/

section Steps

variable (u : CaseTables) (hash : Bytes → UInt64)

/-- The database part of a job: the new database, and the runtime update it
leaves to do. -/
def commitJob (weather : Weather) (db : Db) : Job → Db × Effect
  | .addDomain list domain =>
      match addDomain u weather.add db list domain.1 with
      | .ok (_, written) => (written, .insert list domain.1)
      | .error _ => (db, .nothing)
  | .deleteDomain list id =>
      match deleteDomainById weather.delete db list id with
      | (written, some domain) => (written, .remove list domain)
      | (written, none) => (written, .nothing)
  | .bulkImport list content =>
      match bulkImport u hash weather.bulk db list content with
      | .ok (result, written) => (written, .merge list result.store)
      | .error _ => (db, .nothing)
  | .deleteSource id =>
      match deleteSourceWithCleanup weather.deleteSource weather.leftover db id with
      | (written, some listType) => (written, .rebuild (.ofType listType))
      | (written, none) => (written, .nothing)
  | .refresh source content =>
      let list := DomainList.ofType source.listType
      match replaceSourceDomains weather.refresh weather.now db source.id list content with
      | .ok (_, written) => (written, .rebuild list)
      | .error error =>
          (db.updateSourceStatus weather.now source.id (failedStatus error), .nothing)
  | .applySnapshot list domains =>
      if weather.snapshotFails then (db, .nothing)
      else
        (db.applyDomains list (domains.map Subtype.val),
          .replace list (storeOf u hash (domains.map Subtype.val)))

/-- The runtime part of a job, once a rebuilt store has been read. -/
def applyEffect (order : BucketOrder) (runtime : DomainList → DomainStore) :
    Effect → Option (DomainList → DomainStore)
  | .nothing => some runtime
  | .insert list domain =>
      some (Function.update runtime list ((runtime list).insert u hash domain).1)
  | .remove list domain =>
      some (Function.update runtime list ((runtime list).remove u hash domain order))
  | .merge list store =>
      some (Function.update runtime list ((runtime list).merge hash store order))
  | .rebuild _ => none
  | .replace list store =>
      some (Function.update runtime list ((runtime list).replaceWith store))

/-- The task that refreshes the first of the given sources and then the others. -/
def refreshTask : List DbSource → List Task
  | [] => []
  | source :: later => [{ stage := .fetching source, later := later }]

/-- One step of one request; `none` where the request is not at that step. -/
def Server.step (s : Server) : Action → Option Server
  | .submit (.refresh _ _) => none
  | .submit job => some { s with tasks := s.tasks ++ [{ stage := .waiting job }] }
  | .addSource url listType hours =>
      some
        { s with
          db := insertSource s.db url listType hours
          tasks := s.tasks ++ [{ stage := .adding url listType hours }] }
  | .selectId i =>
      match s.tasks[i]? with
      | some { stage := .adding url listType hours, later := later } =>
          -- the source is built from the request, not from the stored row
          let source : DbSource :=
            { id := selectSourceId s.db url, url := url, listType := listType,
              updateIntervalHours := hours }
          some
            { s with
              tasks := s.tasks.eraseIdx i ++ [{ stage := .fetching source, later := later }] }
      | _ => none
  | .refreshOne id =>
      match s.db.getSourceById id with
      | some source => some { s with tasks := s.tasks ++ refreshTask [source] }
      | none => none
  | .refreshAll =>
      some { s with
        tasks := s.tasks ++ refreshTask (s.db.getSources.filter fun source => source.enabled) }
  | .refreshStale stale =>
      some { s with
        tasks := s.tasks ++
          refreshTask (s.db.getSources.filter fun source => source.enabled && stale source) }
  | .fetched i content =>
      match s.tasks[i]? with
      | some { stage := .fetching source, later := later } =>
          some { s with
            tasks := s.tasks.eraseIdx i ++
              [{ stage := .waiting (.refresh source content), later := later }] }
      | _ => none
  | .fetchFailed i now error =>
      match s.tasks[i]? with
      | some { stage := .fetching source, later := later } =>
          some { s with
            db := s.db.updateSourceStatus now source.id (failedStatus error)
            tasks := s.tasks.eraseIdx i ++ refreshTask later }
      | _ => none
  | .acquire i =>
      match s.holder, s.tasks[i]? with
      | none, some { stage := .waiting job, later := later } =>
          some { s with
            tasks := s.tasks.eraseIdx i
            holder := some { progress := .locked job, later := later } }
      | _, _ => none
  | .commit weather =>
      match s.holder with
      | some { progress := .locked job, later := later } =>
          let (db, effect) := commitJob u hash weather s.db job
          some { s with
            db := db, holder := some { progress := .committed effect, later := later } }
      | _ => none
  | .load scan fails =>
      match s.holder with
      | some { progress := .committed (.rebuild list), later := later } =>
          let store := loadDomainStoreFromConn u hash fails scan s.db list
          some { s with
            holder := some { progress := .committed (.replace list store), later := later } }
      | _ => none
  | .update order =>
      match s.holder with
      | some { progress := .committed effect, later := later } =>
          (applyEffect u hash order s.runtime effect).map fun runtime =>
            { s with runtime := runtime, holder := some { progress := .updated, later := later } }
      | _ => none
  | .release =>
      match s.holder with
      | some { progress := .updated, later := later } =>
          some { s with holder := none, tasks := s.tasks ++ refreshTask later }
      | _ => none
  | .applySources items => some { s with db := (s.db.applySources items).getD s.db }

/-- A commit by the request that holds the lock. -/
theorem Server.step_commit {s : Server} {job : Job} {later : List DbSource}
    (held : s.holder = some { progress := .locked job, later := later }) (weather : Weather) :
    s.step u hash (.commit weather) = some
      { s with
        db := (commitJob u hash weather s.db job).1
        holder := some
          { progress := .committed (commitJob u hash weather s.db job).2, later := later } } := by
  simp only [Server.step, held]

/-- Whether an action writes the database. -/
def Action.writes : Action → Bool
  | .commit _ | .applySources _ | .addSource .. | .fetchFailed .. => true
  | _ => false

/-- The other steps leave the database alone. -/
theorem Server.step_db {s t : Server} {a : Action} (quiet : a.writes = false)
    (step : s.step u hash a = some t) : t.db = s.db := by
  cases a with
  | submit job => cases job <;> cases step <;> rfl
  | refreshAll | refreshStale =>
      cases step
      rfl
  | update order =>
      simp only [Server.step] at step
      split at step
      · obtain ⟨runtime, -, rfl⟩ := Option.map_eq_some_iff.mp step
        rfl
      · cases step
  | selectId | refreshOne | fetched | acquire | load | release =>
      simp only [Server.step] at step
      split at step
      · cases step
        rfl
      · cases step
  | commit | applySources | addSource | fetchFailed => cases quiet

end Steps

/-- A server right after its start: no request under way, the lists loaded from
the database. -/
def Server.Started (u : CaseTables) (hash : Bytes → UInt64) (s : Server) : Prop :=
  s.tasks = [] ∧ s.holder = none ∧ ∀ list, s.runtime list = loadStoreFromDb u hash s.db list

/-- **The machine of all list requests.** -/
def listRequests (u : CaseTables) (hash : Bytes → UInt64) : StateMachine Server Action where
  init := Server.Started u hash
  step := Server.step u hash

end RustBlocker
