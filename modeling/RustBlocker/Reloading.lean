import RustBlocker.Answers
import RustBlocker.StoredText

/-!
# Reading a list again after a commit

A refresh and a deletion of a source commit their transaction and then read the whole table
into a new store, which replaces the running one.  The reader of the reload returns a store
whatever happens: without its statement an empty one, without a row the store of the other
rows.  (The reader of the start, which is another function, returns the first failure instead;
after a start there is no store before that could be kept.)

* **A reload** is one of the two callers with what it meets.  The failures are a plan: any set of
  the calls may fail, each on its own, so that nothing is assumed of how a database breaks.
* **Keeps** is the property: the installed store has the entries of the store before, or every
  entry of the table.  It compares entries, not stores, since a rebuilt store may have its arena
  laid out in another way.
* **Covers** says it of the calls that fail: the rows that are read stand for every entry of
  the table, or for exactly the entries of the store before.  It is a condition on what was there
  before the step and on which calls fail, and mentions no store that the reload computes.
-/

namespace RustBlocker

/-! ## The reload

A call commits, reads the table again, and installs what it has read.  Reads may fail row by row,
so that what is installed can be less than the table. -/

/-- A call that reads a list again after its commit: a refresh, or a deletion of a source. -/
inductive Reload where
  | refresh (meets : RefreshWeather) (source : DbSource)
  | delete (weather : ApiWeather) (peer : Option IpAddr) (id : Int)

namespace Reload

/-- The calls of the reload that fail. -/
def fails : Reload → Plan LoadCall
  | refresh meets _ => meets.load
  | delete weather _ _ => weather.load

section Callers

variable {Net : Type} (env : ApiEnv Net) (s : WebServer Net)

/-- The server after the call. -/
def run : Reload → WebServer Net
  | refresh meets source => (s.refreshSource env meets source).2
  | delete weather peer id => (s.deleteSource env weather peer id).2

/-- The list that the call reads again, and the database it committed; `none` where it does
not come to its commit. -/
def committed : Reload → Option (DomainList × Db)
  | refresh meets source =>
      match meets.fetched, meets.panicked with
      | .ok content, none =>
          match replaceSourceDomains meets.calls meets.now s.db source.id
              (.ofType source.listType) content with
          | .ok (_, db) => some (.ofType source.listType, db)
          | .error _ => none
      | _, _ => none
  | delete weather peer id =>
      if s.checkAcl env peer = true ∧ weather.task = none then
        match deleteSourceWithCleanup weather.deleteSource weather.leftover s.db id.toNat with
        | (db, some listType) => some (.ofType listType, db)
        | (_, none) => none
      else none

end Callers

end Reload

section Statement

variable (u : CaseTables) (hash : Bytes → UInt64)

/-- The rows the reload reads. -/
def readRows (fails : Plan LoadCall) (rows : List Str) : List Str :=
  if (fails .prepare).isSome || (fails .query).isSome then []
  else rows.filter fun row => (fails (.row row)).isNone

/-- **The installed store** has the entries of the store before, or every entry of the
table. -/
def Keeps (before installed : DomainStore) (rows : List Str) : Prop :=
  SameEntries hash installed before ∨
    ∀ e ∈ storedSets u rows, installed.holdsEntry hash e = true

/-- **The rows that are read** stand for every entry of the table, or for exactly the entries
of the store before. -/
def Covers (fails : Plan LoadCall) (before : DomainStore) (rows : List Str) : Prop :=
  (∀ row ∈ rows, Present u (readRows fails rows) (normalizeDomain u row)) ∨
    ∀ e, e ∈ storedSets u (readRows fails rows) ↔ before.holdsEntry hash e = true

end Statement

/-! ## What is installed -/

section Installed

variable {u : CaseTables} {hash : Bytes → UInt64} {fails : Plan LoadCall}

theorem mem_readRows {rows : List Str} {row : Str} :
    row ∈ readRows fails rows → row ∈ rows := by
  unfold readRows
  split
  · intro mem
    cases mem
  · exact fun mem => (List.mem_filter.mp mem).1

/-- The reload builds the store of the rows it reads. -/
theorem models_reloaded {db : Db} {list : DomainList} (scan : Reordering Str)
    (room : (storedSets u (db.domains list).values).bytes < 2 ^ 32) :
    Models hash (loadDomainStoreFromConn u hash fails scan db list)
      (storedSets u (readRows fails (db.domains list).values)) := by
  have fits : (storedSets u (readRows fails (db.domains list).values)).bytes < 2 ^ 32 :=
    Nat.lt_of_le_of_lt (bytes_storedSets_mono fun _ mem => mem_readRows mem) room
  unfold loadDomainStoreFromConn
  by_cases stopped : ((fails .prepare).isSome || (fails .query).isSome) = true
  · rw [if_pos stopped, readRows, if_pos stopped]
    exact models_default hash
  · rw [if_neg stopped]
    rw [readRows, if_neg stopped] at fits ⊢
    have same : storedSets u ((scan.apply (db.domains list).values).filter
          fun domain => (fails (.row domain)).isNone) =
        storedSets u ((db.domains list).values.filter
          fun domain => (fails (.row domain)).isNone) :=
      storedSets_congr fun d => by simp only [List.mem_filter, scan.mem_apply]
    rw [← same] at fits ⊢
    exact models_storeOf_storedSets u hash fits

/-- A store keeps what it should exactly if the rows it was built of cover it. -/
theorem keeps_iff_covers {before installed : DomainStore} {rows : List Str}
    (models : Models hash installed (storedSets u (readRows fails rows))) :
    Keeps u hash before installed rows ↔ Covers u hash fails before rows := by
  refine or_comm.trans (or_congr ?_ ?_)
  · constructor
    · intro every row mem
      refine present_iff.mpr fun ok => (models.holdsEntry_iff _).mp (every _ ?_)
      exact mem_storedSets.mpr ⟨ok, row, mem, rfl⟩
    · intro every e mem
      obtain ⟨ok, row, inside, rfl⟩ := mem_storedSets.mp mem
      exact (models.holdsEntry_iff _).mpr (present_iff.mp (every row inside) ok)
  · refine forall_congr' fun e => ?_
    rw [← models.holdsEntry_iff e]
    exact Bool.eq_iff_iff

end Installed

/-! ## Both callers

What is read covers the table, or is what the store had before; otherwise an entry is gone from
the running store that neither the table nor the request has taken away. -/

section Callers

variable {Net : Type} {env : ApiEnv Net} {s : WebServer Net} {list : DomainList} {db : Db}

/-- After its commit a call has stored the database, and installed what it reads of the list. -/
theorem Reload.run_eq {reload : Reload} (commits : reload.committed env s = some (list, db)) :
    (reload.run env s).db = db ∧
      ∃ scan, (reload.run env s).lists list =
        loadDomainStoreFromConn env.caseTables env.hash reload.fails scan db list := by
  cases reload with
  | refresh meets source =>
      unfold Reload.committed at commits
      simp only at commits
      split at commits
      next content fetched calm =>
        -- the rows are read after the commit, on the same connection
        split at commits
        next count written replaced =>
          cases commits
          have ends : (Reload.refresh meets source).run env s =
            (s.refreshSource env meets source).2 := rfl
          unfold WebServer.refreshSource RustBlocker.refreshSource at ends
          simp only [fetched, calm, replaced] at ends
          rw [ends]
          exact ⟨rfl, meets.scan, Function.update_self ..⟩
        next => cases commits
      next => cases commits
  | delete weather peer id =>
      unfold Reload.committed at commits
      obtain ⟨⟨allowed, calm⟩, commits⟩ := Option.ite_none_right_eq_some.mp commits
      split at commits
      next written listType deleted =>
        cases commits
        have ends : (Reload.delete weather peer id).run env s =
          (s.deleteSource env weather peer id).2 := rfl
        unfold WebServer.deleteSource at ends
        rw [guarded_of_allowed allowed,
          dbBlocking_eq_ok.mpr ⟨calm, congrArg Except.ok deleted⟩] at ends
        rw [ends]
        exact ⟨rfl, weather.scan, Function.update_self ..⟩
      next => cases commits

/-- **After a commit the installed store keeps the entries exactly if the rows that are read
cover them**, for both callers, every database and every call that fails, as long as the
entries of the table fit an arena. -/
theorem reload_keeps_iff (reload : Reload) (s : WebServer Net)
    (commits : reload.committed env s = some (list, db))
    (room : (storedSets env.caseTables (db.domains list).values).bytes < 2 ^ 32) :
    Keeps env.caseTables env.hash (s.lists list) ((reload.run env s).lists list)
        (db.domains list).values ↔
      Covers env.caseTables env.hash reload.fails (s.lists list) (db.domains list).values := by
  obtain ⟨-, scan, installed⟩ := Reload.run_eq commits
  rw [installed]
  exact keeps_iff_covers (models_reloaded scan room)

end Callers

/-! ## The statement that fails -/

/-- A server with a source, and one blocked name that is not of the source. -/
def blockingServer : WebServer IpAddr where
  db := insertSource (({} : Db).insertDomain .blocklist "ads.example".toList)
    "https://list".toList "blocklist".toList 24
  lists := fun _ => (DomainStore.default.insert .ascii (fun _ => 0) "ads.example".toList).1
  key := []

/-- The source is deleted, and the reload meets the failures. -/
def deletion (fails : Plan LoadCall) : Reload := .delete { load := fails } none 1

/-- **The blocker is emptied**: the source is deleted, and the statement that reads the table
again cannot be prepared. -/
theorem not_keeps_deletion :
    let reload := deletion fun call =>
      if call = .prepare then some "disk I/O error".toList else none
    ∃ db, reload.committed plainEnv blockingServer = some (.blocklist, db) ∧
      (db.domains .blocklist).values = ["ads.example".toList] ∧
      (blockingServer.lists .blocklist).matches plainEnv.hash "ads.example".toList = true ∧
      ((reload.run plainEnv blockingServer).lists .blocklist).isEmpty = true ∧
      ¬ Keeps plainEnv.caseTables plainEnv.hash (blockingServer.lists .blocklist)
        ((reload.run plainEnv blockingServer).lists .blocklist)
        (db.domains .blocklist).values := by
  intro reload
  refine ⟨(deleteSourceWithCleanup .clear ∅ blockingServer.db 1).1, rfl, by decide, by decide,
    by decide, ?_⟩
  rintro (same | every)
  · have here := same (.exact "ads.example".toList)
    revert here
    decide
  · have here := every (.exact "ads.example".toList)
      (mem_storedSets.mpr ⟨by decide, "ads.example".toList, by decide, by decide⟩)
    revert here
    decide

theorem reload_keeps_iff_deletion :
    ∃ db, (deletion .clear).committed plainEnv blockingServer = some (.blocklist, db) ∧
      (Keeps plainEnv.caseTables plainEnv.hash (blockingServer.lists .blocklist)
          (((deletion .clear).run plainEnv blockingServer).lists .blocklist)
          (db.domains .blocklist).values ↔
        Covers plainEnv.caseTables plainEnv.hash .clear (blockingServer.lists .blocklist)
          (db.domains .blocklist).values) :=
  ⟨(deleteSourceWithCleanup .clear ∅ blockingServer.db 1).1, rfl,
    reload_keeps_iff (deletion .clear) blockingServer rfl (by decide)⟩

end RustBlocker
