import RustBlocker.Library.StateMachine
import RustBlocker.ListLoading
import RustBlocker.ListWrites
import RustBlocker.Mirroring

/-!
# What a replica keeps of a snapshot

Two writers own the list tables of a replica.  The sync replaces a table by a snapshot of the
master; the timed refresh, which a replica runs like every server, writes what it fetched from a
source and prunes what the source used to own.  A snapshot leaves the ownership rows and the
manual marks as they are, so a refresh may prune a row that the snapshot brought, and no later
poll brings it back while the master does not change.

`replicaLists` is the machine of the two writers, in the steps of `ListRequests` and with payloads
of any kind:

* **Refreshes.**  A round reads the sources it will refresh and goes through them one after the
  other.  A fetch gives any content, or fails.
* **Polls.**  The snapshot of a list is applied under the lock; the snapshots of the other
  categories are applied without it.
* **No other requests.**  Nobody edits the lists of the replica.

`keeps_mirrored` says that the rows of a snapshot stay, in the table and in the running store,
along every run in which no refresh that commits prunes one of them.

The run begins right after a snapshot was applied, with refreshes of any stage under way: a round
that has read its sources before the snapshot, and fetches after it, belongs to the run.  Further
snapshots of the list may follow, and bring the same rows, because the master does not change.

`SparesMirrored` is a condition on the refresh that commits, read off the database before it: each
row of the snapshot that the source owns is in the new content, or owned by another source, or
marked by hand.  That the entries of the table fit into an arena is part of the condition, since a
reload that overflows would lose entries for another reason.
-/

namespace RustBlocker

namespace ReplicaLists

/-- What is done to a list under the lock: a refresh with its content, or a snapshot with its
payload. -/
inductive Job where
  | refresh (source : DbSource) (content : Str)
  | snapshot (list : DomainList) (data : Json)

/-- Where a refresh or a poll stands outside the lock. -/
inductive Stage where
  | fetching (source : DbSource)
  | waiting (job : Job)

/-- A refresh or a poll outside the lock, and the sources of the round still to come. -/
structure Task where
  stage : Stage
  later : List DbSource := []

/-- Where the holder of the lock stands: before its commit, or with a store still to be read or
installed. -/
inductive Turn where
  | locked (job : Job)
  /-- After the commit of a refresh: the table is to be read. -/
  | reload (list : DomainList)
  /-- The running store is to be replaced. -/
  | install (list : DomainList) (store : DomainStore)
  | done

/-- The holder of the lock. -/
structure Holding where
  turn : Turn
  later : List DbSource := []

/-- What a commit meets: the time, the calls of a refresh that fail, and those of a snapshot. -/
structure Weather where
  now : Str := []
  refresh : Plan RefreshCall := .clear
  apply : ApplyWeather := {}

/-- A step of a refresh or of the sync. -/
inductive Action where
  /-- A round of refreshes reads its sources: one of them, the enabled ones, or those
  that are stale. -/
  | read (keep : DbSource → Bool)
  | fetched (task : Nat) (content : Str)
  | fetchFailed (task : Nat) (now error : Str)
  /-- The sync has fetched the snapshot of a list. -/
  | poll (list : DomainList) (data : Json)
  /-- The sync applies the snapshot of another category. -/
  | apply (weather : ApplyWeather) (category : SyncCategory) (data : Json)
  | acquire (task : Nat)
  | commit (weather : Weather)
  | load (scan : Reordering Str) (fails : Plan LoadCall)
  | update
  | release

end ReplicaLists

/-- A replica, as far as its lists are concerned: the tables, the running stores, and the two
writers. -/
structure ReplicaLists where
  db : Db := {}
  runtime : DomainList → DomainStore := fun _ => .default
  tasks : List ReplicaLists.Task := []
  holder : Option ReplicaLists.Holding := none

/-! ## Steps

The steps of the two writers.  A refresh and a snapshot of a list meet at the lock; the other
snapshots do not, but change no list. -/

namespace ReplicaLists

section Steps

variable (u : CaseTables) (hash : Bytes → UInt64)

/-- The database part of a job, and what is left to do after it. -/
def commitJob (weather : Weather) (db : Db) : Job → Db × Turn
  | .refresh source content =>
      let list := DomainList.ofType source.listType
      match replaceSourceDomains weather.refresh weather.now db source.id list content with
      | .ok (_, written) => (written, .reload list)
      | .error error => (db.updateSourceStatus weather.now source.id (failedStatus error), .done)
  | .snapshot list data =>
      let out := applyRows weather.apply (parseDomains data)
        (fun table domain => some (table.insertOrIgnore domain)) (db.domains list).deleteAll
        (db.setDomains list) { db := db }
      (out.site.db,
        if out.committed && (weather.apply.plan .install).isNone then
          .install list (storeOf u hash ((parseDomains data).getD []))
        else .done)

/-- The task that refreshes the first of the given sources and then the others. -/
def refreshTask : List DbSource → List Task
  | [] => []
  | source :: later => [{ stage := .fetching source, later := later }]

/-- One step; `none` where nothing is at that step. -/
def step (s : ReplicaLists) : Action → Option ReplicaLists
  | .read keep => some { s with tasks := s.tasks ++ refreshTask (s.db.getSources.filter keep) }
  | .fetched i content =>
      match s.tasks[i]? with
      | some { stage := .fetching source, later := later } =>
          some { s with
            tasks := s.tasks.eraseIdx i ++
              [{ stage := .waiting (.refresh source content), later := later }] }
      | _ => none
  | .fetchFailed i now error =>
      match s.tasks[i]? with
      | some { stage := .fetching source, later := later } =>
          some { s with
            db := s.db.updateSourceStatus now source.id (failedStatus error)
            tasks := s.tasks.eraseIdx i ++ refreshTask later }
      | _ => none
  | .poll list data =>
      some { s with tasks := s.tasks ++ [{ stage := .waiting (.snapshot list data) }] }
  | .apply _ (.domains _) _ => none
  | .apply weather category data =>
      some { s with
        db := (applySnapshotBlocking u hash weather category.name data { db := s.db }).site.db }
  | .acquire i =>
      match s.holder, s.tasks[i]? with
      | none, some { stage := .waiting job, later := later } =>
          some { s with
            tasks := s.tasks.eraseIdx i
            holder := some { turn := .locked job, later := later } }
      | _, _ => none
  | .commit weather =>
      match s.holder with
      | some { turn := .locked job, later := later } =>
          let (db, turn) := commitJob u hash weather s.db job
          some { s with db := db, holder := some { turn := turn, later := later } }
      | _ => none
  | .load scan fails =>
      match s.holder with
      | some { turn := .reload list, later := later } =>
          let store := loadDomainStoreFromConn u hash fails scan s.db list
          some { s with holder := some { turn := .install list store, later := later } }
      | _ => none
  | .update =>
      match s.holder with
      | some { turn := .install list store, later := later } =>
          some { s with
            runtime := Function.update s.runtime list ((s.runtime list).replaceWith store)
            holder := some { turn := .done, later := later } }
      | _ => none
  | .release =>
      match s.holder with
      | some { turn := .done, later := later } =>
          some { s with holder := none, tasks := s.tasks ++ refreshTask later }
      | _ => none

end Steps

end ReplicaLists

/-- **The machine of the refreshes and the sync of a replica.** -/
def replicaLists (u : CaseTables) (hash : Bytes → UInt64) :
    StateMachine ReplicaLists ReplicaLists.Action where
  init s := s.tasks = [] ∧ s.holder = none ∧
    ∀ list, s.runtime list = loadStoreFromDb u hash s.db list
  step := ReplicaLists.step u hash

namespace ReplicaLists

/-! ## The rows of a snapshot -/

section Mirrored

variable (u : CaseTables) (hash : Bytes → UInt64) (list : DomainList) (mirrored : List Str)

/-- The store has the entry of every given domain that has one: an entry that is empty or
longer than 65535 bytes is in no store. -/
def Finds (store : DomainStore) : Prop :=
  ∀ d ∈ mirrored, (entryOf (normalizeDomain u d)).Admissible →
    store.holdsEntry hash (entryOf (normalizeDomain u d)) = true

/-- **The replica keeps what it mirrored**, in the table and in the running store.  More rows may
come in beside it. -/
structure KeepsMirrored (s : ReplicaLists) : Prop where
  table : ∀ d ∈ mirrored, d ∈ (s.db.domains list).values
  runtime : Finds u hash mirrored (s.runtime list)

/-- The snapshot of a list has just been applied: its rows are in the table and its store is
running, and only refreshes are under way.  These may be at any of their steps. -/
structure JustMirrored (s : ReplicaLists) : Prop where
  table : ∀ d, d ∈ (s.db.domains list).values ↔ d ∈ mirrored
  store : s.runtime list = storeOf u hash mirrored
  free : s.holder = none
  refreshes : ∀ task ∈ s.tasks, ∀ list' data, task.stage ≠ .waiting (.snapshot list' data)

/-- The master does not change: every snapshot of the list is the one that was applied. -/
def MasterUnchanged (data : Json) : Action → Prop
  | .poll list' data' => list' = list → data' = data
  | _ => True

/-- **A step that spares the rows of the snapshot.**  A refresh of the list that commits
finds each of them that its source owns in the new content, or owned by another source,
or marked manual; the entries the table may hold afterwards fit into an arena; and the
rebuild that follows reads them. -/
def SparesMirrored (s : ReplicaLists) : Action → Prop
  | .commit weather => ∀ source content later,
      s.holder = some { turn := .locked (.refresh source content), later := later } →
      DomainList.ofType source.listType = list →
      RefreshCommits weather.refresh s.db source.id list content →
        (∀ d ∈ mirrored, (source.id, d) ∈ s.db.sourceDomains →
          d ∈ contentDomains content ∨ (∃ id, id ≠ source.id ∧ (id, d) ∈ s.db.sourceDomains) ∨
            (list, d) ∈ s.db.manualDomains) ∧
        (storedSets u (contentDomains content ++ (s.db.domains list).values)).bytes < 2 ^ 32
  | .load _ fails => ∀ later, s.holder = some { turn := .reload list, later := later } →
      fails .prepare = none ∧ fails .query = none ∧ ∀ d ∈ mirrored, fails (.row d) = none
  | _ => True

end Mirrored

/-! ## Stores that find the rows -/

section Finds

variable {u : CaseTables} {hash : Bytes → UInt64} {mirrored domains : List Str}

/-- A store built from domains that fit finds those among them. -/
theorem finds_storeOf (room : (storedSets u domains).bytes < 2 ^ 32)
    (sub : ∀ d ∈ mirrored, d ∈ domains) : Finds u hash mirrored (storeOf u hash domains) := by
  intro d mem admissible
  have models := models_storeOf_storedSets u hash room
  exact (models.holdsEntry_iff _).mpr (mem_storedSets.mpr ⟨admissible, d, sub d mem, rfl⟩)

/-- So does the store that is read from a table, if the rows are read. -/
theorem finds_load {db : Db} {list : DomainList} {fails : Plan LoadCall}
    (room : (storedSets u (db.domains list).values).bytes < 2 ^ 32)
    (sub : ∀ d ∈ mirrored, d ∈ (db.domains list).values) (prepare : fails .prepare = none)
    (query : fails .query = none) (rows : ∀ d ∈ mirrored, fails (.row d) = none)
    (scan : Reordering Str) :
    Finds u hash mirrored (loadDomainStoreFromConn u hash fails scan db list) := by
  have read : loadDomainStoreFromConn u hash fails scan db list =
      storeOf u hash ((scan.apply (db.domains list).values).filter
        fun domain => (fails (.row domain)).isNone) := by
    rw [loadDomainStoreFromConn, prepare, query]
    rfl
  rw [read]
  refine finds_storeOf (Nat.lt_of_le_of_lt (bytes_storedSets_mono fun d mem => ?_) room)
    fun d mem => ?_
  · exact scan.mem_apply.mp (List.mem_filter.mp mem).1
  · refine List.mem_filter.mpr ⟨scan.mem_apply.mpr (sub d mem), ?_⟩
    rw [rows d mem]
    rfl

end Finds

/-! ## The invariant

The rows are in the table and in the running store, and a store that is still to be installed has
them too.  The commit of a refresh is the step that takes the condition. -/

section Invariant

variable (u : CaseTables) (hash : Bytes → UInt64) (list : DomainList) (mirrored : List Str)
variable (data : Json)

/-- A snapshot of the list is the one that was applied. -/
def Job.Mirrors : Job → Prop
  | .refresh _ _ => True
  | .snapshot list' data' => list' = list → data' = data

def Stage.Mirrors : Stage → Prop
  | .fetching _ => True
  | .waiting job => job.Mirrors list data

/-- A store that is to be installed finds the rows. -/
def Turn.Mirrors : Turn → Prop
  | .locked job => job.Mirrors list data
  | .install list' store => list' = list → Finds u hash mirrored store
  | .reload _ | .done => True

/-- **The invariant**: the rows are in the table and in the running store, and every writer at
work will leave them there.  A store that is read but not installed yet has them too. -/
structure Mirroring (s : ReplicaLists) : Prop where
  keeps : KeepsMirrored u hash list mirrored s
  room : (storedSets u (s.db.domains list).values).bytes < 2 ^ 32
  turn : ∀ held, s.holder = some held → held.turn.Mirrors u hash list mirrored data
  stages : ∀ task ∈ s.tasks, task.stage.Mirrors list data

variable {u hash list mirrored data} {s t : ReplicaLists}

/-- A step that leaves the table and the running store alone. -/
theorem Mirroring.congr (inv : Mirroring u hash list mirrored data s)
    (domains : t.db.domains = s.db.domains) (runtime : t.runtime = s.runtime)
    (turn : ∀ held, t.holder = some held → held.turn.Mirrors u hash list mirrored data)
    (stages : ∀ task ∈ t.tasks, task.stage.Mirrors list data) :
    Mirroring u hash list mirrored data t where
  keeps := ⟨by rw [domains]; exact inv.keeps.table, by rw [runtime]; exact inv.keeps.runtime⟩
  room := by
    rw [domains]
    exact inv.room
  turn := turn
  stages := stages

/-- What is left of a round of refreshes mirrors nothing else. -/
theorem stages_refreshTask (later : List DbSource) :
    ∀ task ∈ refreshTask later, task.stage.Mirrors list data := by
  intro task mem
  cases later with
  | nil => cases mem
  | cons source rest =>
      rw [List.mem_singleton.mp mem]
      trivial

theorem Mirroring.stages_append (inv : Mirroring u hash list mirrored data s)
    {kept added : List Task} (sub : ∀ task ∈ kept, task ∈ s.tasks)
    (ok : ∀ task ∈ added, task.stage.Mirrors list data) :
    ∀ task ∈ kept ++ added, task.stage.Mirrors list data := by
  intro task mem
  rcases List.mem_append.mp mem with old | new
  · exact inv.stages task (sub task old)
  · exact ok task new

/-- **A refresh that commits** keeps the rows, under the condition. -/
theorem rows_replaceOwned {db : Db} {now : Str} {source : DbSource} {content : Str}
    {newList : List Str} (parsed : parseSourceDomains content = .ok newList)
    (rows : ∀ d ∈ mirrored, d ∈ (db.domains list).values)
    (spared : ∀ d ∈ mirrored, (source.id, d) ∈ db.sourceDomains →
      d ∈ contentDomains content ∨ (∃ id, id ≠ source.id ∧ (id, d) ∈ db.sourceDomains) ∨
        (list, d) ∈ db.manualDomains) :
    ∀ d ∈ mirrored, d ∈ ((db.replaceOwned now source.id list newList).domains list).values := by
  intro d mem
  rw [Db.mem_replaceOwned_domains, mem_parseSourceDomains parsed]
  refine or_iff_not_imp_left.mpr fun absent => ⟨rows d mem, ?_⟩
  rintro ⟨owned, alone, unmarked⟩
  rcases spared d mem owned with new | ⟨id, other, row⟩ | manual
  · exact absent new
  · exact alone id other row
  · exact unmarked manual

/-- The commit of a refresh. -/
theorem mirroring_commit_refresh (inv : Mirroring u hash list mirrored data s)
    {source : DbSource} {content : Str} {later : List DbSource}
    (held : s.holder = some { turn := .locked (.refresh source content), later := later })
    {weather : Weather} (spares : SparesMirrored u list mirrored s (.commit weather)) :
    Mirroring u hash list mirrored data
      { s with
        db := (commitJob u hash weather s.db (.refresh source content)).1
        holder := some
          { turn := (commitJob u hash weather s.db (.refresh source content)).2
            later := later } } := by
  have commits := replaceSourceDomains_isOk weather.refresh weather.now s.db source.id
    (.ofType source.listType) content
  simp only [commitJob]
  cases replaced : replaceSourceDomains weather.refresh weather.now s.db source.id
      (.ofType source.listType) content with
  | error error =>
      refine inv.congr rfl rfl ?_ inv.stages
      rintro _ ⟨rfl⟩
      trivial
  | ok out =>
      obtain ⟨n, written⟩ := out
      obtain ⟨newList, parsed, -, rfl⟩ := replaceSourceDomains_eq_ok replaced
      by_cases here : DomainList.ofType source.listType = list
      · rw [here] at commits replaced
        obtain ⟨spared, room⟩ := spares source content later held here
          (commits.mp ⟨_, replaced⟩)
        subst here
        refine ⟨⟨rows_replaceOwned parsed inv.keeps.table spared, inv.keeps.runtime⟩, ?_, ?_,
          inv.stages⟩
        · refine Nat.lt_of_le_of_lt (bytes_storedSets_mono fun d mem => ?_) room
          rcases Db.mem_replaceOwned_domains.mp mem with new | ⟨old, -⟩
          · exact List.mem_append_left _ ((mem_parseSourceDomains parsed).mp new)
          · exact List.mem_append_right _ old
        · rintro _ ⟨rfl⟩
          trivial
      · have other : ((s.db.replaceOwned weather.now source.id (.ofType source.listType)
            newList).domains list) = s.db.domains list :=
          Db.replaceOwned_domains_of_ne fun same => here same.symm
        refine ⟨⟨?_, inv.keeps.runtime⟩, ?_, ?_, inv.stages⟩
        · show ∀ d ∈ mirrored, d ∈ ((Db.replaceOwned _ _ _ _ _).domains list).values
          rw [other]
          exact inv.keeps.table
        · show (storedSets u ((Db.replaceOwned _ _ _ _ _).domains list).values).bytes < _
          rw [other]
          exact inv.room
        · rintro _ ⟨rfl⟩
          trivial

/-- The commit of a snapshot writes its rows or nothing. -/
theorem commitJob_snapshot (weather : Weather) (db : Db) (list' : DomainList) (data' : Json) :
    commitJob u hash weather db (.snapshot list' data') = (db, .done) ∨
      ∃ domains turn, parseDomains data' = some domains ∧
        commitJob u hash weather db (.snapshot list' data') =
          (db.applyDomains list' domains, turn) ∧
        (turn = .done ∨ turn = .install list' (storeOf u hash domains)) := by
  rcases applyRows_cases weather.apply (parseDomains data')
      (fun table domain => some (SqlTable.insertOrIgnore table domain))
      (db.domains list').deleteAll (db.setDomains list') { db := db } with
    ⟨domains, table, parsed, -, folded, out⟩ | ⟨-, out⟩
  · rw [foldlM_insertOrIgnore] at folded
    obtain rfl := Option.some.inj folded
    refine Or.inr ⟨domains, _, parsed, by rw [commitJob, out, parsed]; rfl, ?_⟩
    split
    · exact Or.inr rfl
    · exact Or.inl rfl
  · left
    rw [commitJob, out]
    rfl

theorem mirroring_commit_snapshot (parsed : parseDomains data = some mirrored)
    (fits : (storedSets u mirrored).bytes < 2 ^ 32)
    (inv : Mirroring u hash list mirrored data s) {list' : DomainList} {data' : Json}
    {later : List DbSource}
    (held : s.holder = some { turn := .locked (.snapshot list' data'), later := later })
    (weather : Weather) :
    Mirroring u hash list mirrored data
      { s with
        db := (commitJob u hash weather s.db (.snapshot list' data')).1
        holder := some
          { turn := (commitJob u hash weather s.db (.snapshot list' data')).2
            later := later } } := by
  have same : list' = list → data' = data := inv.turn _ held
  rcases commitJob_snapshot (u := u) weather s.db list' data' with
    nothing | ⟨domains, turn, read, written, rest⟩
  · rw [nothing]
    refine inv.congr rfl rfl ?_ inv.stages
    rintro _ ⟨rfl⟩
    trivial
  · rw [written]
    by_cases here : list' = list
    · rw [same here, parsed] at read
      obtain rfl := Option.some.inj read
      subst here
      have rows : ∀ d, d ∈ ((s.db.applyDomains list' mirrored).domains list').values ↔
          d ∈ mirrored := fun d => Db.mem_applyDomains
      refine ⟨⟨fun d mem => (rows d).mpr mem, inv.keeps.runtime⟩, ?_, ?_, inv.stages⟩
      · exact Nat.lt_of_le_of_lt (bytes_storedSets_mono fun d mem => (rows d).mp mem) fits
      · rintro _ ⟨rfl⟩
        rcases rest with rfl | rfl
        · trivial
        · exact fun _ => finds_storeOf fits fun d mem => mem
    · have other : (s.db.applyDomains list' domains).domains list = s.db.domains list :=
        Db.applyDomains_domains_of_ne (fun same => here same.symm) domains
      refine ⟨⟨?_, inv.keeps.runtime⟩, ?_, ?_, inv.stages⟩
      · show ∀ d ∈ mirrored, d ∈ ((Db.applyDomains _ _ _).domains list).values
        rw [other]
        exact inv.keeps.table
      · show (storedSets u ((Db.applyDomains _ _ _).domains list).values).bytes < _
        rw [other]
        exact inv.room
      · rintro _ ⟨rfl⟩
        rcases rest with rfl | rfl
        · trivial
        · exact fun same => absurd same here

/-- A snapshot of a category that is no list leaves the lists alone. -/
theorem mirroring_apply (inv : Mirroring u hash list mirrored data s) (weather : ApplyWeather)
    {c : SyncCategory} (apart : ∀ list', c ≠ .domains list') (data' : Json) :
    Mirroring u hash list mirrored data
      { s with
        db := (applySnapshotBlocking u hash weather c.name data' { db := s.db }).site.db } := by
  have frame := siteFrame_applySnapshotBlocking u hash weather c.name data' { db := s.db }
  rw [SyncCategory.ofName?_name] at frame
  have kept : ∀ list', some c ≠ some (SyncCategory.domains list') :=
    fun list' same => apart list' (Option.some.inj same)
  exact inv.congr (funext fun list' => (frame.lists list' (kept list')).1) rfl inv.turn inv.stages

/-- The running stores after what a commit left to do. -/
def Turn.finish (runtime : DomainList → DomainStore) : Turn → DomainList → DomainStore
  | .install list store => Function.update runtime list ((runtime list).replaceWith store)
  | _ => runtime

/-- **The steps of a snapshot are `apply_domains_inner`.** -/
theorem applyDomains_eq_commitJob (weather : ApplyWeather) (list : DomainList) (data : Json)
    (site : Site) :
    (RustBlocker.applyDomains u hash weather list data site).site =
      { db := (commitJob u hash { apply := weather } site.db (.snapshot list data)).1
        runtime := (commitJob u hash { apply := weather } site.db (.snapshot list data)).2.finish
          site.runtime } := by
  have outcome := applyRows_cases weather (parseDomains data)
    (fun table domain => some (SqlTable.insertOrIgnore table domain))
    (site.db.domains list).deleteAll (site.db.setDomains list)
  rcases outcome site with ⟨rows, table, parsed, clear, folded, out⟩ | ⟨refused, out⟩
  · rcases outcome { db := site.db } with ⟨_, _, parsed', -, folded', out'⟩ | ⟨refused', -⟩
    · obtain rfl := Option.some.inj (parsed.symm.trans parsed')
      obtain rfl := Option.some.inj (folded.symm.trans folded')
      simp only [RustBlocker.applyDomains, commitJob, out, out']
      cases (weather.plan .install).isNone <;> rfl
    · exact absurd ⟨rows, parsed, clear, by rw [folded]; rfl⟩ refused'
  · rcases outcome { db := site.db } with ⟨rows, table, parsed, clear, folded, -⟩ | ⟨-, out'⟩
    · exact absurd ⟨rows, parsed, clear, by rw [folded]; rfl⟩ refused
    · simp only [RustBlocker.applyDomains, commitJob, out, out']
      rfl

/-- The lock is taken: the job that waited for it keeps what it mirrors. -/
theorem mirroring_acquire (inv : Mirroring u hash list mirrored data s) {i : Nat} {job : Job}
    {later : List DbSource}
    (waits : s.tasks[i]? = some { stage := .waiting job, later := later }) :
    Mirroring u hash list mirrored data
      { s with
        tasks := s.tasks.eraseIdx i
        holder := some { turn := .locked job, later := later } } := by
  refine inv.congr rfl rfl ?_ fun task mem => inv.stages task (List.mem_of_mem_eraseIdx mem)
  rintro _ ⟨rfl⟩
  exact inv.stages _ (List.mem_of_getElem? waits)

/-- The table is read after the commit of a refresh: under the condition every row of the snapshot
can be read. -/
theorem mirroring_load (inv : Mirroring u hash list mirrored data s) {list' : DomainList}
    {later : List DbSource}
    (held : s.holder = some { turn := .reload list', later := later }) {scan : Reordering Str}
    {fails : Plan LoadCall} (spares : SparesMirrored u list mirrored s (.load scan fails)) :
    Mirroring u hash list mirrored data
      { s with
        holder := some
          { turn := .install list' (loadDomainStoreFromConn u hash fails scan s.db list')
            later := later } } := by
  refine inv.congr rfl rfl ?_ inv.stages
  rintro _ ⟨rfl⟩ here
  subst here
  obtain ⟨prepare, query, rows⟩ := spares later held
  exact finds_load inv.room inv.keeps.table prepare query rows scan

/-- A store is installed, which finds the rows if it is the one of the list. -/
theorem mirroring_update (inv : Mirroring u hash list mirrored data s) {list' : DomainList}
    {store : DomainStore} {later : List DbSource}
    (held : s.holder = some { turn := .install list' store, later := later }) :
    Mirroring u hash list mirrored data
      { s with
        runtime := Function.update s.runtime list' ((s.runtime list').replaceWith store)
        holder := some { turn := .done, later := later } } := by
  have found : list' = list → Finds u hash mirrored store := inv.turn _ held
  refine ⟨⟨inv.keeps.table, ?_⟩, inv.room, ?_, inv.stages⟩
  · show Finds u hash mirrored (Function.update s.runtime list' store list)
    by_cases here : list' = list
    · subst here
      rw [Function.update_self]
      exact found rfl
    · rw [Function.update_of_ne fun same => here same.symm]
      exact inv.keeps.runtime
  · rintro _ ⟨rfl⟩
    trivial

/-- **One step** under the condition keeps the invariant. -/
theorem mirroring_step (parsed : parseDomains data = some mirrored)
    (fits : (storedSets u mirrored).bytes < 2 ^ 32)
    (inv : Mirroring u hash list mirrored data s) {a : Action}
    (unchanged : MasterUnchanged list data a) (spares : SparesMirrored u list mirrored s a)
    (step : s.step u hash a = some t) : Mirroring u hash list mirrored data t := by
  cases a with
  | read keep =>
      cases step
      exact inv.congr rfl rfl inv.turn
        (inv.stages_append (fun _ mem => mem) (stages_refreshTask _))
  | poll list' data' =>
      cases step
      refine inv.congr rfl rfl inv.turn (inv.stages_append (fun _ mem => mem) fun task mem => ?_)
      rw [List.mem_singleton.mp mem]
      exact unchanged
  | fetched i content =>
      simp only [ReplicaLists.step] at step
      split at step
      · cases step
        refine inv.congr rfl rfl inv.turn
          (inv.stages_append (fun _ => List.mem_of_mem_eraseIdx) fun task mem => ?_)
        rw [List.mem_singleton.mp mem]
        trivial
      · cases step
  | fetchFailed i now error =>
      simp only [ReplicaLists.step] at step
      split at step
      · cases step
        exact inv.congr rfl rfl inv.turn
          (inv.stages_append (fun _ => List.mem_of_mem_eraseIdx) (stages_refreshTask _))
      · cases step
  | apply weather category data' =>
      cases category with
      | domains list' => cases step
      | settings | upstreams | rewrites | sources =>
          cases step
          exact mirroring_apply inv weather (fun list' => SyncCategory.noConfusion) data'
  | acquire i =>
      simp only [ReplicaLists.step] at step
      split at step
      next job later free waits =>
        cases step
        exact mirroring_acquire inv waits
      · cases step
  | commit weather =>
      simp only [ReplicaLists.step] at step
      split at step
      next job later held =>
        cases step
        cases job with
        | refresh source content => exact mirroring_commit_refresh inv held spares
        | snapshot list' data' => exact mirroring_commit_snapshot parsed fits inv held weather
      · cases step
  | load scan fails =>
      simp only [ReplicaLists.step] at step
      split at step
      next list' later held =>
        cases step
        exact mirroring_load inv held spares
      · cases step
  | update =>
      simp only [ReplicaLists.step] at step
      split at step
      next list' store later held =>
        cases step
        exact mirroring_update inv held
      · cases step
  | release =>
      simp only [ReplicaLists.step] at step
      split at step
      next later held =>
        cases step
        refine inv.congr rfl rfl ?_ (inv.stages_append (fun _ mem => mem) (stages_refreshTask _))
        rintro _ ⟨⟩
      · cases step

/-- The invariant holds when the snapshot has just been applied. -/
theorem JustMirrored.mirroring (start : JustMirrored u hash list mirrored s)
    (fits : (storedSets u mirrored).bytes < 2 ^ 32) (data : Json) :
    Mirroring u hash list mirrored data s where
  keeps := by
    refine ⟨fun d mem => (start.table d).mpr mem, ?_⟩
    rw [start.store]
    exact finds_storeOf fits fun d mem => mem
  room := Nat.lt_of_le_of_lt (bytes_storedSets_mono fun d mem => (start.table d).mp mem) fits
  turn held here := by
    rw [start.free] at here
    cases here
  stages task mem := by
    cases at_ : task.stage with
    | fetching source => trivial
    | waiting job =>
        cases job with
        | refresh source content => trivial
        | snapshot list' data' => exact absurd at_ (start.refreshes task mem list' data')

end Invariant

/-! ## Runs

The rule for guarded runs gives the result.  Of the two examples one is a refresh whose content
still has the mirrored domain, and in the other it does not. -/

/-- **A replica keeps what it mirrored** along every run of refreshes and polls in which
the master does not change and every step spares the rows of the snapshot. -/
theorem keeps_mirrored (u : CaseTables) (hash : Bytes → UInt64) {list : DomainList} {data : Json}
    {mirrored : List Str} (parsed : parseDomains data = some mirrored)
    (fits : (storedSets u mirrored).bytes < 2 ^ 32) {s : ReplicaLists} {acts : List Action}
    (start : JustMirrored u hash list mirrored s)
    (meets : (replicaLists u hash).StepsMeet
      (fun s a => MasterUnchanged list data a ∧ SparesMirrored u list mirrored s a) s acts) :
    (replicaLists u hash).Always (KeepsMirrored u hash list mirrored) s acts :=
  (replicaLists u hash).always_of_stepsMeet
    (fun _ _ _ inv met step => mirroring_step parsed fits inv met.1 met.2 step)
    (fun _ inv => inv.keeps) (start.mirroring fits data) meets

/-- Ten domains, one of them `ads.example`. -/
def adsAndNine : Str := "ads.example\na1\na2\na3\na4\na5\na6\na7\na8\na9".toList

/-- The sync applies the master's sources, one, and its blocklist, one domain. -/
def mirroring : List Action :=
  [.apply {} .sources (.array [.object [("url".toList, .string "https://a".toList),
      ("list_type".toList, .string "blocklist".toList),
      ("update_interval_hours".toList, .int 24)]]),
    .poll .blocklist (.array [.string "ads.example".toList]), .acquire 0, .commit {}, .update,
    .release]

/-- The replica after that. -/
def mirroredOne : ReplicaLists := ((replicaLists .ascii fun _ => 0).exec {} mirroring).getD {}

theorem exec_mirroring :
    (replicaLists .ascii fun _ => 0).exec {} mirroring = some mirroredOne := rfl

theorem justMirrored_one :
    JustMirrored .ascii (fun _ => 0) .blocklist ["ads.example".toList] mirroredOne where
  table _ := Iff.rfl
  store := rfl
  free := rfl
  refreshes task mem := by
    have idle : mirroredOne.tasks = [] := rfl
    rw [idle] at mem
    cases mem

/-- A round of refreshes with the given content. -/
def refreshRound (content : Str) : List Action :=
  [.read fun _ => true, .fetched 0 content, .acquire 0, .commit {}, .load (.id _) .clear,
    .update, .release]

theorem keeps_mirrored_adsAndNine :
    (replicaLists .ascii fun _ => 0).Always
      (KeepsMirrored .ascii (fun _ => 0) .blocklist ["ads.example".toList]) mirroredOne
      (refreshRound adsAndNine) := by
  have parsed : parseDomains (.array [.string "ads.example".toList]) =
      some ["ads.example".toList] := rfl
  refine keeps_mirrored _ _ parsed (by decide +kernel) justMirrored_one ?_
  refine (StateMachine.stepsMeet_cons _ rfl).mpr ⟨⟨trivial, trivial⟩, ?_⟩
  refine (StateMachine.stepsMeet_cons _ rfl).mpr ⟨⟨trivial, trivial⟩, ?_⟩
  refine (StateMachine.stepsMeet_cons _ rfl).mpr ⟨⟨trivial, trivial⟩, ?_⟩
  refine (StateMachine.stepsMeet_cons _ rfl).mpr ⟨⟨trivial, ?_⟩, ?_⟩
  · rintro source content later ⟨⟩ - -
    refine ⟨fun d mem _ => Or.inl ?_, by decide +kernel⟩
    rw [List.mem_singleton.mp mem]
    decide +kernel
  refine (StateMachine.stepsMeet_cons _ rfl).mpr ⟨⟨trivial, ?_⟩, ?_⟩
  · exact fun _ _ => ⟨rfl, rfl, fun _ _ => rfl⟩
  refine (StateMachine.stepsMeet_cons _ rfl).mpr ⟨⟨trivial, trivial⟩, ?_⟩
  exact (StateMachine.stepsMeet_cons _ rfl).mpr ⟨⟨trivial, trivial⟩, trivial⟩

/-- The source gives the mirrored domain once and then no more: the second refresh
prunes it. -/
theorem not_keeps_mirrored :
    (replicaLists .ascii fun _ => 0).exec {} mirroring = some mirroredOne ∧
      JustMirrored .ascii (fun _ => 0) .blocklist ["ads.example".toList] mirroredOne ∧
      ∃ t, (replicaLists .ascii fun _ => 0).exec mirroredOne
          (refreshRound adsAndNine ++ refreshRound tenDomains) = some t ∧
        ¬ KeepsMirrored .ascii (fun _ => 0) .blocklist ["ads.example".toList] t := by
  refine ⟨exec_mirroring, justMirrored_one, ?_⟩
  have ends : ((replicaLists .ascii fun _ => 0).exec mirroredOne
      (refreshRound adsAndNine ++ refreshRound tenDomains)).map
        (fun t => (t.db.domains .blocklist).values.contains "ads.example".toList) =
      some false := by
    decide +kernel
  obtain ⟨t, run, gone⟩ := Option.map_eq_some_iff.mp ends
  refine ⟨t, run, fun keeps => ?_⟩
  have present := keeps.table _ List.mem_cons_self
  rw [← List.contains_iff_mem, gone] at present
  cases present

end ReplicaLists

end RustBlocker
