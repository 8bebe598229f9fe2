import RustBlocker.ListRequests
import RustBlocker.ListWrites

/-!
# Ownership by sources that do not exist

`source_domains` has no foreign key.  Whether each of its rows names a source that is still there
is a matter of the order in which the requests take their steps, and two steps do not look:

* a refresh commits the domains it fetched under the id it read when it started, also if that
  source has been deleted or replaced in the meantime;
* `apply_sources` deletes every source and inserts the ones of the snapshot under new ids, and
  leaves the ownership rows of the old ids behind.

`Careful` is the condition under which a step does neither of the two, and `owned_iff_careful`
says that these are all the ways the property is lost: a run keeps it in every state exactly if
each of its steps is careful.

The runs are those of `listRequests`, from any state in which the rows are owned, with calls that
fail wherever they like.  A commit that fails is careful for the reason that it writes nothing.

Both conditions look at the state before the step and at the step.  The one on a refresh is weaker
than it may seem: a refresh may commit under an id that has been deleted as long as its content is
refused, since nothing is written then.
-/

namespace RustBlocker

/-- Every ownership row names a source that is there. -/
def Owned (db : Db) : Prop :=
  ∀ id d, (id, d) ∈ db.sourceDomains → (db.sources.find? id).isSome

/-! ## Ownership after a step

How each write of the database changes the rows of ownership and the sources.  Two of the lemmas
are equivalences, and they are the two conditions. -/

section Steps

variable {db db' : Db}

/-- Keeping the ownership rows and the ids of the sources keeps the property, in
both directions. -/
theorem owned_congr (rows : db'.sourceDomains = db.sourceDomains)
    (ids : ∀ id, (db'.sources.find? id).isSome = (db.sources.find? id).isSome) :
    Owned db' ↔ Owned db := by
  unfold Owned
  rw [rows]
  simp only [ids]

theorem SameOwnership.owned (same : SameOwnership db db') (owned : Owned db) : Owned db' :=
  (owned_congr same.sourceDomains fun id => by rw [same.sources]).mpr owned

theorem isSome_updateSourceStatus (db : Db) (now : Str) (id : Nat) (status : Str) (id' : Nat) :
    ((db.updateSourceStatus now id status).sources.find? id').isSome =
      (db.sources.find? id').isSome := by
  rw [Db.updateSourceStatus, SqlTable.find?_update, Option.isSome_map]

theorem owned_updateSourceStatus (owned : Owned db) (now : Str) (id : Nat) (status : Str) :
    Owned (db.updateSourceStatus now id status) :=
  (@owned_congr db (db.updateSourceStatus now id status) rfl
    (isSome_updateSourceStatus db now id status)).mpr owned

theorem owned_insertSource (owned : Owned db) (url listType : Str) (hours : Int) :
    Owned (insertSource db url listType hours) := by
  intro id d mem
  have present := owned id d mem
  unfold insertSource SqlTable.insertOrIgnore
  simp only
  cases inserted : db.sources.insert
      { url := url, listType := listType, updateIntervalHours := hours } with
  | none => exact present
  | some table =>
      rw [Option.getD_some, SqlTable.find?_isSome, (SqlTable.insert_eq_some inserted).2.1,
        List.map_append]
      exact List.mem_append_left _ (SqlTable.find?_isSome.mp present)

theorem owned_deleteSource (owned : Owned db) (id : Nat) :
    Owned ((db.disown id).deleteSource id) := by
  intro id' d mem
  obtain ⟨ne, old⟩ := Db.mem_disown.mp mem
  obtain ⟨source, found⟩ := Option.isSome_iff_exists.mp (owned id' d old)
  have row := SqlTable.find?_eq_some.mp found
  refine Option.isSome_iff_exists.mpr ⟨source, SqlTable.find?_eq_some.mpr ?_⟩
  exact List.mem_filter.mpr ⟨row, by simpa using ne⟩

/-- **A refresh that writes** keeps the property exactly if its source is
there. -/
theorem owned_replaceOwned_iff (owned : Owned db) (now : Str) {sourceId : Nat}
    (list : DomainList) {newList : List Str} (nonempty : newList ≠ []) :
    Owned (db.replaceOwned now sourceId list newList) ↔ (db.sources.find? sourceId).isSome := by
  have ids : ∀ id, ((db.replaceOwned now sourceId list newList).sources.find? id).isSome =
      (db.sources.find? id).isSome := by
    intro id
    rw [Db.replaceOwned_sources, isSome_updateSourceStatus]
  obtain ⟨domain, rest, rfl⟩ := List.exists_cons_of_ne_nil nonempty
  constructor
  · intro owned'
    rw [← ids]
    exact owned' sourceId domain
      (Db.mem_replaceOwned_sourceDomains.mpr (Or.inl ⟨rfl, List.mem_cons_self⟩))
  · intro present id d mem
    rw [ids]
    rcases Db.mem_replaceOwned_sourceDomains.mp mem with ⟨rfl, -⟩ | ⟨-, old⟩
    · exact present
    · exact owned id d old

/-- **A snapshot of sources that is applied** keeps the property exactly if there
are no ownership rows: the new ids are all larger than the old ones. -/
theorem owned_applySources_iff (owned : Owned db) {items : List SourceItem}
    (applied : db.applySources items = some db') : Owned db' ↔ db.sourceDomains = ∅ := by
  obtain ⟨table, inserted, rfl⟩ := Option.map_eq_some_iff.mp applied
  obtain ⟨-, -, ids⟩ := insertRows_eq_some inserted
  constructor
  · intro owned'
    refine Finset.eq_empty_of_forall_notMem ?_
    rintro ⟨id, d⟩ mem
    obtain ⟨old, foundOld⟩ := Option.isSome_iff_exists.mp (owned id d mem)
    obtain ⟨new, foundNew⟩ := Option.isSome_iff_exists.mp (owned' id d mem)
    have small : id ≤ db.sources.seq :=
      db.sources.ids_le _ (SqlTable.find?_eq_some.mp foundOld)
    rcases ids _ (SqlTable.find?_eq_some.mp foundNew) with gone | large
    · cases gone
    · exact absurd small (Nat.not_le.mpr large)
  · intro empty id d mem
    change (id, d) ∈ db.sourceDomains at mem
    rw [empty] at mem
    cases mem

end Steps

/-! ## Runs

The commit of a refresh and the snapshot of sources take the condition, every other step keeps the
property anyway. -/

section Runs

variable (u : CaseTables) (hash : Bytes → UInt64)

/-- A step that loses no source from under an ownership row: a refresh commits
only while its source is there, and a snapshot of sources is applied only while
no source owns a domain. -/
def Careful (s : Server) : Action → Prop
  | .commit weather =>
      ∀ source content later,
        s.holder = some { progress := .locked (.refresh source content), later := later } →
        RefreshCommits weather.refresh s.db source.id (.ofType source.listType) content →
        (s.db.sources.find? source.id).isSome
  | .applySources items =>
      (s.db.applySources items).isSome → s.db.sourceDomains = ∅
  | _ => True

/-- The database part of a job other than a refresh keeps the property. -/
theorem owned_commitJob {weather : Weather} {db : Db} (owned : Owned db) {job : Job}
    (other : ∀ source content, job ≠ .refresh source content) :
    Owned (commitJob u hash weather db job).1 := by
  cases job with
  | addDomain list domain =>
      cases added : addDomain u weather.add db list domain.1 with
      | error error => simpa only [commitJob, added] using owned
      | ok out =>
          obtain ⟨id, written⟩ := out
          have same : SameOwnership db written := by
            rw [addDomain_eq_ok added]
            exact ⟨rfl, rfl⟩
          simpa only [commitJob, added] using same.owned owned
  | deleteDomain list id =>
      have same := deleteDomainById_sameOwnership weather.delete db list id
      rcases deleted : deleteDomainById weather.delete db list id with ⟨written, _ | domain⟩
      all_goals
        rw [deleted] at same
        simpa only [commitJob, deleted] using same.owned owned
  | bulkImport list content =>
      cases imported : bulkImport u hash weather.bulk db list content with
      | error error => simpa only [commitJob, imported] using owned
      | ok out =>
          obtain ⟨result, written⟩ := out
          have same : SameOwnership db written := by
            rw [(bulkImport_eq_ok imported).1]
            exact Db.importAll_sameOwnership ..
          simpa only [commitJob, imported] using same.owned owned
  | deleteSource id =>
      have kept := deleteSourceWithCleanup_ownership weather.deleteSource weather.leftover db id
      rcases deleted : deleteSourceWithCleanup weather.deleteSource weather.leftover db id
        with ⟨written, _ | listType⟩
      all_goals
        rw [deleted] at kept
        simp only [commitJob, deleted]
        rcases kept with rfl | same
        · exact owned
        · exact same.owned (owned_deleteSource owned id)
  | refresh source content => exact absurd rfl (other source content)
  | applySnapshot list domains =>
      simp only [commitJob]
      split
      · exact owned
      · exact SameOwnership.owned ⟨rfl, rfl⟩ owned

/-- A refresh keeps the property exactly if its source is there or it does not
commit. -/
theorem owned_commitJob_refresh_iff {weather : Weather} {db : Db} (owned : Owned db)
    (source : DbSource) (content : Str) :
    Owned (commitJob u hash weather db (.refresh source content)).1 ↔
      (RefreshCommits weather.refresh db source.id (.ofType source.listType) content →
        (db.sources.find? source.id).isSome) := by
  have commits := replaceSourceDomains_isOk weather.refresh weather.now db source.id
    (.ofType source.listType) content
  rw [← commits]
  simp only [commitJob]
  cases replaced : replaceSourceDomains weather.refresh weather.now db source.id
      (.ofType source.listType) content with
  | error error =>
      refine ⟨fun _ => ?_, fun _ => owned_updateSourceStatus owned _ _ _⟩
      rintro ⟨out, ok⟩
      cases ok
  | ok out =>
      obtain ⟨n, written⟩ := out
      obtain ⟨newList, parsed, -, rfl⟩ := replaceSourceDomains_eq_ok replaced
      have nonempty : newList ≠ [] := by
        rintro rfl
        unfold parseSourceDomains at parsed
        simp only at parsed
        split at parsed
        · cases parsed
        next enough =>
          have same := Except.ok.inj parsed
          rw [same] at enough
          exact enough (by decide)
      rw [owned_replaceOwned_iff owned _ _ nonempty]
      exact ⟨fun present _ => present, fun present => present ⟨_, rfl⟩⟩

/-- **One step**: from a state with the property, the next state has it exactly
if the step is careful. -/
theorem owned_step_iff {s t : Server} {a : Action} (owned : Owned s.db)
    (step : s.step u hash a = some t) : Owned t.db ↔ Careful s a := by
  cases a with
  | commit weather =>
      simp only [Server.step] at step
      split at step
      next job later held =>
        cases step
        change Owned (commitJob u hash weather s.db job).1 ↔ _
        by_cases isRefresh : ∃ source content, job = .refresh source content
        · obtain ⟨source, content, rfl⟩ := isRefresh
          rw [owned_commitJob_refresh_iff u hash owned]
          unfold Careful
          rw [held]
          constructor
          · intro kept source' content' later' same
            cases same
            exact kept
          · intro kept
            exact kept source content later rfl
        · have other : ∀ source content, job ≠ .refresh source content :=
            fun source content same => isRefresh ⟨source, content, same⟩
          refine ⟨fun _ source content later' same => ?_, fun _ =>
            owned_commitJob u hash owned other⟩
          rw [held] at same
          cases same
          exact absurd rfl (other source content)
      next => cases step
  | applySources items =>
      cases step
      unfold Careful
      cases applied : s.db.applySources items with
      | none =>
          rw [Option.getD_none]
          refine ⟨fun _ isSome => ?_, fun _ => owned⟩
          rw [applied] at isSome
          cases isSome
      | some db' =>
          rw [Option.getD_some, owned_applySources_iff owned applied]
          exact ⟨fun empty _ => empty, fun empty => empty (by rw [applied]; rfl)⟩
  | addSource url listType hours =>
      cases step
      exact ⟨fun _ => trivial, fun _ => owned_insertSource owned _ _ _⟩
  | fetchFailed i now error =>
      simp only [Server.step] at step
      split at step
      · cases step
        exact ⟨fun _ => trivial, fun _ => owned_updateSourceStatus owned _ _ _⟩
      · cases step
  | _ =>
      rw [Server.step_db u hash rfl step]
      exact ⟨fun _ => trivial, fun _ => owned⟩

/-- **No ownership by a source that does not exist** holds in every state of a run
exactly if every step of the run is careful. -/
theorem owned_iff_careful {s t : Server} {acts : List Action} (owned : Owned s.db)
    (run : (listRequests u hash).exec s acts = some t) :
    (listRequests u hash).Always (fun s => Owned s.db) s acts ↔
      (listRequests u hash).StepsMeet Careful s acts :=
  (listRequests u hash).always_iff_stepsMeet
    (fun _ _ _ owned step => owned_step_iff u hash owned step) owned run

end Runs

/-! ## Both ways of losing it -/

/-- A source is added and its content fetched; before the refresh gets the lock,
the source is deleted. -/
def deletedWhileFetching : List Action :=
  [.addSource "https://a".toList "blocklist".toList 24, .selectId 0, .fetched 0 tenDomains,
    .submit (.deleteSource 1), .acquire 1, .commit (.fair []), .load (.id _) .clear,
    .update (.id _), .release, .acquire 0, .commit (.fair [])]

/-- The refresh then writes ten ownership rows of a source that is gone. -/
theorem not_owned_after_deletion :
    (listRequests .ascii fun _ => 0).init {} ∧
      ∃ t, (listRequests .ascii fun _ => 0).exec {} deletedWhileFetching = some t ∧
        ¬ Owned t.db := by
  refine ⟨⟨rfl, rfl, fun _ => rfl⟩, ?_⟩
  have ends : ((listRequests .ascii fun _ => 0).exec {} deletedWhileFetching).map
      (fun t => ((1, "a0".toList) ∈ t.db.sourceDomains : Bool) &&
        (t.db.sources.find? 1).isNone) = some true := by
    decide +kernel
  obtain ⟨t, run, both⟩ := Option.map_eq_some_iff.mp ends
  rw [Bool.and_eq_true, decide_eq_true_eq, Option.isNone_iff_eq_none] at both
  refine ⟨t, run, fun owned => ?_⟩
  have present := owned 1 _ both.1
  rw [both.2] at present
  cases present

theorem owned_iff_careful_deletion :
    ∃ t, (listRequests .ascii fun _ => 0).exec {} deletedWhileFetching = some t ∧
      ((listRequests .ascii fun _ => 0).Always (fun s => Owned s.db) {} deletedWhileFetching ↔
        (listRequests .ascii fun _ => 0).StepsMeet Careful {} deletedWhileFetching) := by
  have ends : ((listRequests .ascii fun _ => 0).exec {} deletedWhileFetching).isSome := by
    decide +kernel
  obtain ⟨t, run⟩ := Option.isSome_iff_exists.mp ends
  have start : Owned ({} : Server).db := by
    intro id d mem
    cases mem
  exact ⟨t, run, owned_iff_careful _ _ start run⟩

end RustBlocker
