import RustBlocker.ListRequests
import RustBlocker.ListWrites

/-!
# The list a source feeds

`refresh_source` as a whole, and the four requests that call it: `add_source`, the refresh of one
source, the refresh of all and the timed refresh.  Requests come one after the other here;
`refreshSource_run` says that a call is a run of `listRequests` in which its steps follow each
other.

* **The source of a call.**  `refresh_source` takes the table to write and the runtime store to
  replace from the `list_type` of the `DbSource` it is given.  Three of the four requests read
  that value from the stored row.  `add_source` builds it from the request, after an insert that
  is ignored when the url is stored already.
* **What is observed.**  A call that commits leaves a `DomainWrite`: the table and the store it
  wrote, next to the `list_type` stored under the id.

`home_iff_agrees` says when every write of a run of requests goes to the list the source is stored
under: exactly if no `add_source` that commits names a url which is stored under the other list.

The record of the writes is an account that no request reads.  `refreshSource_wrote` ties it to
the tables and the stores: where a write is on record its table has the domains of the content,
and no table and no store has changed but those on record.

That requests follow each other is no restriction of the result, but of the module.  What the
interleaving of their steps adds is in the modules on the list requests, and the runs of this one
are among theirs.
-/

namespace RustBlocker

/-! ## `refresh_source`

The function with all its exits.  Each failure on the way is recorded in the status of the source,
if that works, and the commit is followed by the rebuild of one store. -/

/-- What a call of `refresh_source` meets: its clock, its fetch, and the calls that fail. -/
structure RefreshWeather where
  now : Str := []
  /-- The answer of `fetch_source`. -/
  fetched : Except Str Str
  /-- A panic of the blocking task, which rolls its transaction back. -/
  panicked : Option Str := none
  calls : Plan RefreshCall := .clear
  /-- The update of the status after a failure fails itself. -/
  statusFails : Bool := false
  load : Plan LoadCall := .clear
  scan : Reordering Str := .id _

/-- Domains written by a refresh: under which id, in which table, and into which runtime store the
rebuilt list went. -/
structure DomainWrite where
  sourceId : Nat
  /-- The `list_type` of the row with that id, if there is one. -/
  stored : Option Str
  table : DomainList
  installed : DomainList
deriving DecidableEq, Repr

/-- What a call of `refresh_source` leaves behind and returns; the write is an account of it. -/
structure Refreshed where
  site : Site
  status : Str
  write : Option DomainWrite

section Refresh

variable (u : CaseTables) (hash : Bytes → UInt64)

/-- The exit of `refresh_source` after a failure: record the status, if that
works, and return it. -/
def failRefresh (weather : RefreshWeather) (site : Site) (source : DbSource) (error : Str) :
    Refreshed :=
  let status := failedStatus error
  { site :=
      if weather.statusFails then site
      else { site with db := site.db.updateSourceStatus weather.now source.id status }
    status := status
    write := none }

/-- `refresh_source`. -/
def refreshSource (weather : RefreshWeather) (site : Site) (source : DbSource) : Refreshed :=
  let table := DomainList.ofType source.listType
  match weather.fetched with
  | .error error => failRefresh weather site source error
  | .ok content =>
    match weather.panicked with
    | some error =>
        failRefresh weather site source ("database task failed: ".toList ++ error)
    | none =>
      match replaceSourceDomains weather.calls weather.now site.db source.id table content with
      | .error error => failRefresh weather site source error
      | .ok (count, db) =>
          let rebuilt := loadDomainStoreFromConn u hash weather.load weather.scan db table
          let store := DomainList.ofType source.listType
          { site :=
              { db := db
                runtime := Function.update site.runtime store
                  ((site.runtime store).replaceWith rebuilt) }
            status := okStatus count
            write := some
              { sourceId := source.id
                stored := (site.db.sources.find? source.id).map SourceRow.listType
                table := table
                installed := store } }

/-! ## The requests

The four callers differ in where the source comes from.  Three of them read it from its row; one
builds it from the request. -/

/-- The calls of the `add_source` of `db.rs`. -/
inductive AddSourceCall where
  | connection
  | insert
  | select
deriving DecidableEq

/-- The `add_source` of `db.rs`: the id of the url and the new database.  A select
that fails gives the id zero. -/
def addSource (fails : Plan AddSourceCall) (db : Db) (url listType : Str) (hours : Int) :
    Except DbError (Nat × Db) := do
  fails.attempt .connection .pool
  fails.attempt .insert .sql
  let inserted := insertSource db url listType hours
  let id := if (fails .select).isSome then 0 else selectSourceId inserted url
  return (id, inserted)

/-- A request, with what it meets. -/
inductive SourceRequest where
  | add (url : Str) (listType : Option Str) (hours : Option Int)
      (fails : Plan AddSourceCall) (weather : RefreshWeather)
  | refreshOne (id : Nat) (lookupFails : Bool) (weather : RefreshWeather)
  /-- `readable` are the rows that `get_sources` does not drop. -/
  | refreshAll (fails : Option DbError) (readable : DbSource → Bool)
      (weather : DbSource → RefreshWeather)
  /-- `stale` stands for the comparison of the times. -/
  | refreshStale (fails : Bool) (stale : DbSource → Bool) (weather : DbSource → RefreshWeather)

/-- What a request answers. -/
inductive SourceResponse where
  | failed (error : DbError)
  | notFound
  | created (id : Nat) (status : Str)
  /-- The id, url and status of each source that was refreshed. -/
  | refreshed (results : List (Nat × Str × Str))

/-- What a request leaves behind and answers. -/
structure Handled where
  site : Site
  response : SourceResponse
  writes : List DomainWrite := []

/-- The source `add_source` refreshes: built from the request. -/
def requestedSource (id : Nat) (url listType : Str) (hours : Int) : DbSource :=
  { id := id, url := url, listType := listType, enabled := true, updateIntervalHours := hours }

/-- The loop over the sources that were read. -/
def refreshEach (weather : DbSource → RefreshWeather) :
    List DbSource → Site → Site × List (Nat × Str × Str) × List DomainWrite
  | [], site => (site, [], [])
  | source :: later, site =>
      let out := refreshSource u hash (weather source) site source
      let (last, results, writes) := refreshEach weather later out.site
      (last, (source.id, source.url, out.status) :: results, out.write.toList ++ writes)

/-- The handlers of `api.rs` and the timed task of `main.rs`. -/
def handleSource (site : Site) : SourceRequest → Handled
  | .add url listType hours fails weather =>
      let listType := listType.getD "blocklist".toList
      let interval := hours.getD 24
      match addSource fails site.db url listType interval with
      | .error error => { site := site, response := .failed error }
      | .ok (id, db) =>
          -- the url may be stored under another `list_type`; the request's is used
          let out := refreshSource u hash weather { site with db := db }
            (requestedSource id url listType interval)
          { site := out.site, response := .created id out.status, writes := out.write.toList }
  | .refreshOne id lookupFails weather =>
      match if lookupFails then none else site.db.getSourceById id with
      | none => { site := site, response := .notFound }
      | some source =>
          let out := refreshSource u hash weather site source
          { site := out.site
            response := .refreshed [(source.id, source.url, out.status)]
            writes := out.write.toList }
  | .refreshAll fails readable weather =>
      match fails with
      | some error => { site := site, response := .failed error }
      | none =>
          let sources := site.db.getSources.filter fun source => source.enabled && readable source
          let (last, results, writes) := refreshEach u hash weather sources site
          { site := last, response := .refreshed results, writes := writes }
  | .refreshStale fails stale weather =>
      let sources :=
        if fails then []
        else site.db.getSources.filter fun source => source.enabled && stale source
      let (last, results, writes) := refreshEach u hash weather sources site
      { site := last, response := .refreshed results, writes := writes }

end Refresh

/-- A run of requests: where it stands, and the writes so far, which no request reads. -/
structure SourceLog where
  site : Site := {}
  writes : List DomainWrite := []

/-- **Requests for sources, one after the other.** -/
def sourceRequests (u : CaseTables) (hash : Bytes → UInt64) :
    StateMachine SourceLog SourceRequest where
  init log := log.writes = []
  step log request :=
    let handled := handleSource u hash log.site request
    some { site := handled.site, writes := log.writes ++ handled.writes }

/-! ## What a call writes

A call that commits writes to the list of the source it was given.  It is at home if this is the
list of the stored row, which no refresh changes. -/

/-- Whether a call of `refresh_source` reaches its commit. -/
def RefreshWeather.Commits (weather : RefreshWeather) (db : Db) (source : DbSource) : Prop :=
  ∃ content, weather.fetched = .ok content ∧ weather.panicked = none ∧
    RefreshCommits weather.calls db source.id (.ofType source.listType) content

/-- The source is stored with the `list_type` it has here, so that a refresh of it is at home. -/
def Db.StoredAs (db : Db) (source : DbSource) : Prop :=
  (db.sources.find? source.id).map SourceRow.listType = some source.listType

/-- **A write at home**: both its table and its store belong to the `list_type`
stored under its id. -/
def DomainWrite.AtHome (write : DomainWrite) : Prop :=
  ∃ listType, write.stored = some listType ∧
    write.table = DomainList.ofType listType ∧ write.installed = DomainList.ofType listType

section Writes

variable (u : CaseTables) (hash : Bytes → UInt64)

/-- **A call writes exactly if it commits**, and then to the list of the source it
was given. -/
theorem refreshSource_write {weather : RefreshWeather} {site : Site} {source : DbSource}
    {write : DomainWrite} :
    (refreshSource u hash weather site source).write = some write ↔
      weather.Commits site.db source ∧
        write =
          { sourceId := source.id
            stored := (site.db.sources.find? source.id).map SourceRow.listType
            table := .ofType source.listType
            installed := .ofType source.listType } := by
  unfold RefreshWeather.Commits refreshSource
  cases weather.fetched with
  | error error => simp [failRefresh]
  | ok content =>
    cases weather.panicked with
    | some error =>
        constructor
        · intro impossible
          cases impossible
        · rintro ⟨⟨_, _, impossible, _⟩, -⟩
          cases impossible
    | none =>
      have commits := replaceSourceDomains_isOk weather.calls weather.now site.db source.id
        (.ofType source.listType) content
      simp only [Except.ok.injEq, exists_eq_left', true_and]
      rw [← commits]
      cases replaceSourceDomains weather.calls weather.now site.db source.id
          (.ofType source.listType) content with
      | error error =>
          constructor
          · intro impossible
            cases impossible
          · rintro ⟨⟨out, impossible⟩, -⟩
            cases impossible
      | ok out =>
          obtain ⟨count, db⟩ := out
          constructor
          · intro same
            exact ⟨⟨_, rfl⟩, (Option.some.inj same).symm⟩
          · rintro ⟨-, rfl⟩
            rfl

/-- A call fails and records that, or it replaces what its source owns. -/
theorem refreshSource_cases (weather : RefreshWeather) (site : Site) (source : DbSource) :
    (∃ error, refreshSource u hash weather site source =
      failRefresh weather site source error) ∨
    ∃ content newList, weather.fetched = .ok content ∧
      parseSourceDomains content = .ok newList ∧
      (refreshSource u hash weather site source).site.db =
        site.db.replaceOwned weather.now source.id (.ofType source.listType) newList ∧
      ∃ store, (refreshSource u hash weather site source).site.runtime =
        Function.update site.runtime (.ofType source.listType) store := by
  unfold refreshSource
  split
  · exact Or.inl ⟨_, rfl⟩
  next content fetched =>
    split
    · exact Or.inl ⟨_, rfl⟩
    simp only
    split
    · exact Or.inl ⟨_, rfl⟩
    next replaced =>
      obtain ⟨newList, parsed, -, rfl⟩ := replaceSourceDomains_eq_ok replaced
      exact Or.inr ⟨content, newList, fetched, parsed, rfl, _, rfl⟩

/-- **What a write stands for**: the fetched domains are in its table, and no other
table and no other store has changed. -/
theorem refreshSource_wrote {weather : RefreshWeather} {site : Site} {source : DbSource}
    {write : DomainWrite} (wrote : (refreshSource u hash weather site source).write = some write) :
    let after := (refreshSource u hash weather site source).site
    (∃ content, weather.fetched = .ok content ∧
      ∀ d ∈ contentDomains content, d ∈ (after.db.domains write.table).values) ∧
    ∀ list, (list ≠ write.table → after.db.domains list = site.db.domains list) ∧
      (list ≠ write.installed → after.runtime list = site.runtime list) := by
  obtain ⟨-, rfl⟩ := (refreshSource_write u hash).mp wrote
  rcases refreshSource_cases u hash weather site source with
    ⟨error, failed⟩ | ⟨content, newList, fetched, parsed, db, store, runtime⟩
  · rw [failed] at wrote
    cases wrote
  refine ⟨⟨content, fetched, fun d mem => ?_⟩, fun list => ⟨fun ne => ?_, fun ne => ?_⟩⟩
  · rw [db, Db.mem_replaceOwned_domains]
    exact Or.inl ((mem_parseSourceDomains parsed).mpr mem)
  · rw [db, Db.replaceOwned_domains_of_ne ne]
  · rw [runtime, Function.update_of_ne ne]

theorem listType_updateSourceStatus (db : Db) (now : Str) (id : Nat) (status : Str) (id' : Nat) :
    ((db.updateSourceStatus now id status).sources.find? id').map SourceRow.listType =
      (db.sources.find? id').map SourceRow.listType := by
  rw [Db.updateSourceStatus, SqlTable.find?_update, Option.map_map]
  congr 1
  funext row
  show SourceRow.listType (if _ then _ else _) = _
  split <;> rfl

/-- A call leaves the `list_type` of every source as it is. -/
theorem listType_refreshSource (weather : RefreshWeather) (site : Site) (source : DbSource)
    (id : Nat) :
    ((refreshSource u hash weather site source).site.db.sources.find? id).map
        SourceRow.listType =
      (site.db.sources.find? id).map SourceRow.listType := by
  rcases refreshSource_cases u hash weather site source with
    ⟨error, failed⟩ | ⟨content, newList, -, -, db, -⟩
  · rw [failed, failRefresh]
    split
    · rfl
    · exact listType_updateSourceStatus _ _ _ _ _
  · rw [db, Db.replaceOwned_sources]
    exact listType_updateSourceStatus _ _ _ _ _

/-- A source that was read from its row is refreshed at home. -/
theorem refreshSource_atHome {weather : RefreshWeather} {site : Site} {source : DbSource}
    (stored : site.db.StoredAs source) {write : DomainWrite}
    (wrote : (refreshSource u hash weather site source).write = some write) : write.AtHome := by
  obtain ⟨-, rfl⟩ := (refreshSource_write u hash).mp wrote
  exact ⟨source.listType, stored, rfl, rfl⟩

/-- So are all the sources of one read, one after the other. -/
theorem refreshEach_atHome (weather : DbSource → RefreshWeather) {sources : List DbSource}
    {site : Site} (stored : ∀ source ∈ sources, site.db.StoredAs source) :
    ∀ write ∈ (refreshEach u hash weather sources site).2.2, write.AtHome := by
  induction sources generalizing site with
  | nil => simp [refreshEach]
  | cons source later ih =>
      intro write mem
      rcases List.mem_append.mp mem with here | there
      · exact refreshSource_atHome u hash (stored source List.mem_cons_self)
          (Option.mem_toList.mp here)
      · refine ih (fun source' mem' => ?_) write there
        rw [Db.StoredAs, listType_refreshSource]
        exact stored source' (List.mem_cons_of_mem _ mem')

end Writes

theorem storedAs_of_getSourceById {db : Db} {id : Nat} {source : DbSource}
    (found : db.getSourceById id = some source) : db.StoredAs source := by
  obtain ⟨row, here, rfl⟩ := Option.map_eq_some_iff.mp found
  show (db.sources.find? id).map _ = _
  rw [here]
  rfl

theorem storedAs_of_mem_getSources {db : Db} {source : DbSource}
    (mem : source ∈ db.getSources) : db.StoredAs source := by
  obtain ⟨row, inside, rfl⟩ := List.mem_map.mp mem
  show (db.sources.find? row.1).map _ = _
  rw [SqlTable.find?_eq_some.mpr inside]
  rfl

/-! ## A call as a run of its steps -/

section Steps

variable (u : CaseTables) (hash : Bytes → UInt64)

/-- The calls of a commit that belong to a refresh. -/
def RefreshWeather.weather (weather : RefreshWeather) : Weather :=
  { now := weather.now, refresh := weather.calls }

/-- The steps of a request that refreshes the source it is at and then goes on. -/
def refreshSteps (weather : RefreshWeather) (wrote : Bool) (i last : Nat) (content : Str) :
    List Action :=
  [.fetched i content, .acquire last, .commit weather.weather] ++
    (if wrote then [.load weather.scan weather.load] else []) ++ [.update (.id _), .release]

/-- **A call of `refresh_source` is a run of its steps** on a server whose lock is
free: it leaves the database and the runtime stores of the call, and the request
goes on with its next source. -/
theorem refreshSource_run {s : Server} {i : Nat} {source : DbSource} {later : List DbSource}
    (free : s.holder = none) (here : s.tasks[i]? = some ⟨.fetching source, later⟩)
    {weather : RefreshWeather} {content : Str} (fetched : weather.fetched = .ok content)
    (alive : weather.panicked = none) (recorded : weather.statusFails = false) :
    let out := refreshSource u hash weather ⟨s.db, s.runtime⟩ source
    (listRequests u hash).exec s
        (refreshSteps weather out.write.isSome i (s.tasks.length - 1) content) =
      some { s with
        db := out.site.db, runtime := out.site.runtime
        tasks := s.tasks.eraseIdx i ++ refreshTask later } := by
  intro out
  let job := Job.refresh source content
  let erased := s.tasks.eraseIdx i
  have inside : i < s.tasks.length := (List.getElem?_eq_some_iff.mp here).1
  have size : s.tasks.length - 1 = erased.length := (List.length_eraseIdx_of_lt inside).symm
  have fetch : s.step u hash (.fetched i content) =
      some { s with tasks := erased ++ [⟨.waiting job, later⟩] } := by
    simp only [Server.step, here]
    rfl
  have acquire : Server.step u hash { s with tasks := erased ++ [⟨.waiting job, later⟩] }
      (.acquire (s.tasks.length - 1)) =
        some { s with tasks := erased, holder := some ⟨.locked job, later⟩ } := by
    simp only [Server.step, free, size, List.getElem?_concat_length,
      List.eraseIdx_append_of_length_le (Nat.le_refl _), Nat.sub_self, List.eraseIdx_zero,
      List.tail_cons, List.append_nil]
  have commit := @Server.step_commit u hash
    { s with tasks := erased, holder := some ⟨.locked job, later⟩ } job later rfl weather.weather
  have front : ∀ rest, (listRequests u hash).exec s
      ([.fetched i content, .acquire (s.tasks.length - 1), .commit weather.weather] ++ rest) =
        (listRequests u hash).exec
          { s with
            db := (commitJob u hash weather.weather s.db job).1
            tasks := erased
            holder := some
              ⟨.committed (commitJob u hash weather.weather s.db job).2, later⟩ } rest := by
    intro rest
    rw [StateMachine.exec_append]
    simp only [StateMachine.exec_cons, listRequests, fetch, acquire, commit, Option.bind_some,
      StateMachine.exec_nil]
  cases replaced : replaceSourceDomains weather.calls weather.now s.db source.id
      (.ofType source.listType) content with
  | error error =>
      have fails : out = failRefresh weather ⟨s.db, s.runtime⟩ source error := by
        simp only [out, refreshSource, fetched, alive, replaced]
      have committed : commitJob u hash weather.weather s.db job =
          (s.db.updateSourceStatus weather.now source.id (failedStatus error), .nothing) := by
        simp only [job, commitJob, RefreshWeather.weather, replaced]
      rw [refreshSteps, List.append_assoc, front, committed, fails, failRefresh, recorded, free]
      rfl
  | ok written =>
      obtain ⟨count, db⟩ := written
      have writes : out =
        { site :=
            { db := db
              runtime := Function.update s.runtime (.ofType source.listType)
                (loadDomainStoreFromConn u hash weather.load weather.scan db
                  (.ofType source.listType)) }
          status := okStatus count
          write := some
              { sourceId := source.id
                stored := (s.db.sources.find? source.id).map SourceRow.listType
                table := .ofType source.listType
                installed := .ofType source.listType } } := by
        simp only [out, refreshSource, fetched, alive, replaced]
        rfl
      have committed : commitJob u hash weather.weather s.db job =
          (db, .rebuild (.ofType source.listType)) := by
        simp only [job, commitJob, RefreshWeather.weather, replaced]
      rw [refreshSteps, List.append_assoc, front, committed, writes, free]
      rfl

end Steps

/-! ## Adding a source -/

/-- **The row of a url after its insert** is the one that was there, or else the
new one. -/
theorem find?_selectSourceId (db : Db) (url listType : Str) (hours : Int) :
    ∃ row, (insertSource db url listType hours).sources.find?
        (selectSourceId (insertSource db url listType hours) url) = some row ∧
      row.url = url ∧
      (row ∈ db.sources.values ∨
        (∀ row' ∈ db.sources.values, row'.url ≠ url) ∧ row.listType = listType) := by
  let new : SourceRow := { url := url, listType := listType, updateIntervalHours := hours }
  let table := db.sources.insertOrIgnore new
  have selected : ∀ row ∈ table.values, row.url = url →
      table.find? ((table.idOf? url).getD 0) = some row := by
    intro row mem named
    obtain ⟨id, found⟩ := Option.isSome_iff_exists.mp
      (SqlTable.idOf?_isSome mem (congrArg some named))
    obtain ⟨row', here, held⟩ := SqlTable.find?_of_idOf? found
    have mem' : row' ∈ table.values :=
      SqlTable.mem_values.mpr ⟨id, SqlTable.find?_eq_some.mp here⟩
    rw [found, Option.getD_some, here,
      SqlTable.eq_of_key mem' mem held (congrArg some named)]
  cases clash : db.sources.clashes new with
  | true =>
      obtain ⟨old, mem, k, held, same⟩ := SqlTable.clashes_eq_true.mp clash
      have named : old.url = url := Option.some.inj (held.trans same.symm)
      have kept : table.values = db.sources.values := by
        rw [show table = db.sources.skipId from SqlTable.insertOrIgnore_of_clashes clash,
          SqlTable.values_skipId]
      exact ⟨old, selected old (by rw [kept]; exact mem) named, named, Or.inl mem⟩
  | false =>
      have added : table.values = db.sources.values ++ [new] :=
        SqlTable.values_insertOrIgnore_of_not_clashes clash
      refine ⟨new, selected new (by simp [added]) rfl, rfl, Or.inr ⟨?_, rfl⟩⟩
      intro row mem named
      rw [Bool.eq_false_iff] at clash
      exact clash (SqlTable.clashes_eq_true.mpr ⟨row, mem, url, congrArg some named, rfl⟩)

/-- **A request that agrees with the stored sources**: an `add_source` whose
refresh commits got its id from the select, and its url is not stored under a
`list_type` of the other list. -/
def Agrees (log : SourceLog) : SourceRequest → Prop
  | .add url listType hours fails weather =>
      fails .connection = none → fails .insert = none →
      let listType := listType.getD "blocklist".toList
      let interval := hours.getD 24
      let id :=
        if (fails .select).isSome then 0
        else selectSourceId (insertSource log.site.db url listType interval) url
      weather.Commits log.site.db (requestedSource id url listType interval) →
        fails .select = none ∧
          ∀ row ∈ log.site.db.sources.values, row.url = url →
            DomainList.ofType row.listType = DomainList.ofType listType
  | _ => True

/-- Every write so far is at home. -/
def AllHome (log : SourceLog) : Prop := ∀ write ∈ log.writes, write.AtHome

theorem addSource_eq_ok {fails : Plan AddSourceCall} {db db' : Db} {url listType : Str}
    {hours : Int} {id : Nat} :
    addSource fails db url listType hours = .ok (id, db') ↔
      fails .connection = none ∧ fails .insert = none ∧
        (if (fails .select).isSome then 0
          else selectSourceId (insertSource db url listType hours) url) = id ∧
        insertSource db url listType hours = db' := by
  rw [addSource, Plan.attempt_bind_eq_ok, Plan.attempt_bind_eq_ok]
  simp only [pure, Except.pure, Except.ok.injEq, Prod.mk.injEq]

section Runs

variable (u : CaseTables) (hash : Bytes → UInt64)

/-- **A call for an added source** writes at home exactly if the url belongs to the
requested list. -/
theorem added_atHome_iff (weather : RefreshWeather) {site : Site} {url listType : Str}
    {hours : Int} {fails : Plan AddSourceCall} {id : Nat} {db : Db}
    (added : addSource fails site.db url listType hours = .ok (id, db)) :
    (∀ write ∈ (refreshSource u hash weather { site with db := db }
        (requestedSource id url listType hours)).write, write.AtHome) ↔
      (weather.Commits site.db (requestedSource id url listType hours) →
        fails .select = none ∧
          ∀ row ∈ site.db.sources.values, row.url = url →
            DomainList.ofType row.listType = DomainList.ofType listType) := by
  obtain ⟨-, -, rfl, rfl⟩ := addSource_eq_ok.mp added
  obtain ⟨row, found, named, origin⟩ := find?_selectSourceId site.db url listType hours
  constructor
  · intro home commits
    obtain ⟨stored, here, table, -⟩ := home _ ((refreshSource_write u hash).mpr ⟨commits, rfl⟩)
    simp only [requestedSource] at here table
    cases selected : fails .select with
    | some error =>
        rw [selected, Option.isSome_some, if_pos rfl, SqlTable.find?_zero] at here
        cases here
    | none =>
        rw [selected, Option.isSome_none, if_neg Bool.false_ne_true, found] at here
        have same : row.listType = stored := Option.some.inj here
        refine ⟨rfl, fun row' mem named' => ?_⟩
        rcases origin with old | ⟨fresh, -⟩
        · rw [SqlTable.eq_of_key mem old (congrArg some named') (congrArg some named), same,
            table]
        · exact absurd named' (fresh row' mem)
  · intro agrees write wrote
    obtain ⟨commits, rfl⟩ := (refreshSource_write u hash).mp wrote
    obtain ⟨selected, stored⟩ := agrees commits
    have same : DomainList.ofType listType = DomainList.ofType row.listType := by
      rcases origin with old | ⟨-, new⟩
      · exact (stored row old named).symm
      · rw [new]
    refine ⟨row.listType, ?_, same, same⟩
    simp only [requestedSource, selected, Option.isSome_none, if_neg Bool.false_ne_true, found,
      Option.map_some]

/-- **One request**: its writes are at home exactly if it agrees with the stored
sources. -/
theorem handleSource_atHome_iff (log : SourceLog) (request : SourceRequest) :
    (∀ write ∈ (handleSource u hash log.site request).writes, write.AtHome) ↔
      Agrees log request := by
  cases request with
  | add url listType hours fails weather =>
      simp only [handleSource]
      cases added : addSource fails log.site.db url (listType.getD "blocklist".toList)
          (hours.getD 24) with
      | error error =>
          -- no row was written, so the request meets its condition
          refine ⟨fun _ connection insert => ?_, fun _ write mem => ?_⟩
          · rw [addSource_eq_ok.mpr ⟨connection, insert, rfl, rfl⟩] at added
            cases added
          · cases mem
      | ok out =>
          obtain ⟨id, db⟩ := out
          have exactly := added_atHome_iff u hash weather added
          obtain ⟨connection, insert, rfl, rfl⟩ := addSource_eq_ok.mp added
          simp only [Option.mem_toList]
          exact exactly.trans ⟨fun met _ _ => met, fun met => met connection insert⟩
  | refreshOne id lookupFails weather =>
      refine ⟨fun _ => trivial, fun _ => ?_⟩
      simp only [handleSource]
      split
      · intro write mem
        cases mem
      next source found =>
        have read : log.site.db.getSourceById id = some source := by
          revert found
          cases lookupFails with
          | false => exact fun here => here
          | true =>
              intro absent
              cases absent
        intro write mem
        exact refreshSource_atHome u hash (storedAs_of_getSourceById read)
          (Option.mem_toList.mp mem)
  | refreshAll fails readable weather =>
      refine ⟨fun _ => trivial, fun _ => ?_⟩
      simp only [handleSource]
      split
      · intro write mem
        cases mem
      · exact refreshEach_atHome u hash weather fun source mem =>
          storedAs_of_mem_getSources (List.mem_filter.mp mem).1
  | refreshStale fails stale weather =>
      refine ⟨fun _ => trivial, fun _ => ?_⟩
      refine refreshEach_atHome u hash weather fun source mem => ?_
      split at mem
      · cases mem
      · exact storedAs_of_mem_getSources (List.mem_filter.mp mem).1

/-- **Every write of a run is at home exactly if every request agrees with the
sources stored at its time.** -/
theorem home_iff_agrees (site : Site) (requests : List SourceRequest) :
    (sourceRequests u hash).Always AllHome { site := site } requests ↔
      (sourceRequests u hash).StepsMeet Agrees { site := site } requests := by
  obtain ⟨last, run⟩ := Option.isSome_iff_exists.mp
    ((sourceRequests u hash).exec_isSome (fun _ _ => rfl) requests { site := site })
  have start : AllHome { site := site } := by
    intro write mem
    cases mem
  refine (sourceRequests u hash).always_iff_stepsMeet ?_ start run
  intro log request next home step
  cases step
  rw [← handleSource_atHome_iff u hash log request]
  constructor
  · intro home' write mem
    exact home' write (List.mem_append_right _ mem)
  · intro new write mem
    rcases List.mem_append.mp mem with old | here
    · exact home write old
    · exact new write here

end Runs

/-! ## A source under the wrong list -/

/-- A url is added as a blocklist, while its fetch fails; then it is added again,
as an allowlist. -/
def addedTwice : List SourceRequest :=
  [.add "https://a".toList none none .clear { fetched := .error "timeout".toList },
    .add "https://a".toList (some "allowlist".toList) none .clear { fetched := .ok tenDomains }]

/-- The second request writes the domains of a blocklist source to the allowlist. -/
theorem not_home_after_second_add :
    ∃ last, (sourceRequests .ascii fun _ => 0).exec {} addedTwice = some last ∧
      ∃ write ∈ last.writes, ¬ write.AtHome := by
  have ends : ((sourceRequests .ascii fun _ => 0).exec {} addedTwice).map SourceLog.writes =
      some [⟨1, some "blocklist".toList, .allowlist, .allowlist⟩] := by
    decide +kernel
  obtain ⟨last, run, writes⟩ := Option.map_eq_some_iff.mp ends
  refine ⟨last, run, _, by rw [writes]; exact List.mem_singleton_self _, ?_⟩
  rintro ⟨listType, stored, table, -⟩
  cases stored
  cases table

end RustBlocker
