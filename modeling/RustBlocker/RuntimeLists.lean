import RustBlocker.ListLoading
import RustBlocker.ListRequests
import RustBlocker.ListWrites

/-!
# Runtime lists and database lists

Between two holders of the lock the runtime store of a list and the table of the list stand for
the same entries.  While a request holds the lock they may differ, by exactly the update it still
has to make: `EffectOn effect old new` says that the update turns stores of the entries `old` into
stores of the entries `new`, and `InStep` is the invariant that the pending update leads from the
runtime stores to the tables.

The two sides are kept in step by different means — an insert, a remove or a merge into the
running store on one hand, a rebuild or a replacement on the other — and each has a clause of its
own in `EffectOn` and a case in `commitJob_effect`.

What the invariant needs of the sizes is that every arena stays below `2 ^ 32` bytes, since the
store keeps its offsets as `u32`.  `HasRoom` is that condition on a step.

## The shape of the proof

A step outside the lock changes no list and keeps the invariant as it is.  Under the lock there
are two kinds of steps, and the invariant is made so that each of them is one lemma: a commit
moves the tables and puts the difference into the pending update, and an update moves the stores
and takes it out again.  The clauses of `EffectOn` are what the lemmas of the store say of an
insert, a remove, a merge and a reload, and no clause looks at how the table got its rows.

Calls of the database do not fail here (`Fair`).  If the read of a reload fails, the old store
runs on; that case is the subject of `Reloading`.
-/

namespace RustBlocker

/-- What a runtime update that is still to come does to the entries of the
lists. -/
def EffectOn (hash : Bytes → UInt64) (effect : Effect) (old new : DomainList → DomainSets) :
    Prop :=
  match effect with
  | .nothing => new = old
  | .insert list domain =>
      Canonical domain ∧ new = Function.update old list ((old list).add (entryOf domain))
  | .remove list domain =>
      Canonical domain ∧ new = Function.update old list ((old list).erase (entryOf domain))
  | .merge list store =>
      ∃ more, Models hash store more ∧ new = Function.update old list (old list ∪ more)
  | .rebuild list => ∀ list', list' ≠ list → new list' = old list'
  | .replace list store =>
      Models hash store (new list) ∧ store.arena.length < 2 ^ 32 ∧
        ∀ list', list' ≠ list → new list' = old list'

/-- The bytes a runtime update may append to the arena of a list. -/
def Effect.growth (effect : Effect) (list : DomainList) : Nat :=
  match effect with
  | .insert list' domain => if list' = list then packedBytes [domain] else 0
  | .merge list' store => if list' = list then store.arena.length else 0
  | _ => 0

/-- What the table of a list may hold after a job. -/
def Job.candidates (job : Job) (db : Db) (list : DomainList) : List Str :=
  let rows := (db.domains list).values
  match job with
  | .addDomain list' domain => if list' = list then domain.1 :: rows else rows
  | .bulkImport list' content => if list' = list then contentDomains content ++ rows else rows
  | .refresh source content =>
      if DomainList.ofType source.listType = list then contentDomains content ++ rows else rows
  | .applySnapshot list' domains => if list' = list then domains.map Subtype.val else rows
  | .deleteDomain _ _ | .deleteSource _ => rows

/-- **A step that has room**: a commit whose tables still pack into less than `2 ^ 32` bytes, a
runtime update after which the arena is still shorter than that.  Holes count for the second and
not for the first. -/
def HasRoom (s : Server) : Action → Prop
  | .commit _ => ∀ job later, s.holder = some { progress := .locked job, later := later } →
      ∀ list, packedBytes (job.candidates s.db list) < 2 ^ 32
  | .update _ => ∀ effect later,
      s.holder = some { progress := .committed effect, later := later } →
      ∀ list, (s.runtime list).arena.length + effect.growth list < 2 ^ 32
  | _ => True

/-- A step in which no database call fails. -/
def Fair : Action → Prop
  | .commit weather => weather = .fair weather.now
  | .load _ fails => fails = .clear
  | _ => True

/-! ## The update

What an update does to the entries of the store, for each kind of effect, and how many bytes it
may append to the arena. -/

section Update

variable {u : CaseTables} {hash : Bytes → UInt64}

theorem add_eq_union (sets : DomainSets) (domain : Str) :
    sets.add (entryOf domain) = sets ∪ setsOf [domain] := by
  refine DomainSets.ext_mem fun e => ?_
  rw [DomainSets.mem_add, DomainSets.mem_union, mem_setsOf]
  simp [eq_comm, or_comm]

theorem packedBytes_singleton (domain : Str) :
    packedBytes [domain] = packedSize (entryOf domain).text.utf8 := by
  have one : setsOf [domain] = (∅ : DomainSets).add (entryOf domain) := rfl
  rw [packedBytes, one]
  cases entryOf domain <;> simp [DomainSets.bytes, DomainSets.add, Entry.text]

theorem length_insert_le (u : CaseTables) (hash : Bytes → UInt64) (store : DomainStore)
    {domain : Str} (canonical : Canonical domain) :
    (store.insert u hash domain).1.arena.length ≤ store.arena.length + packedBytes [domain] := by
  rw [insert_eq_insertNormalized, canonical.normalizeDomain, packedBytes_singleton]
  cases entryOf domain with
  | exact name => exact (length_insertNormalized hash store name.utf8 false).2
  | wildcard suffix => exact (length_insertNormalized hash store suffix.utf8 true).2

/-- A merge appends no more than the arena it merges. -/
theorem length_merge_le (hash : Bytes → UInt64) (store : DomainStore) {other : DomainStore}
    {exacts suffixes : Finset Bytes} (holds : Holds hash other exacts suffixes)
    (order : BucketOrder) :
    (store.merge hash other order).arena.length ≤ store.arena.length + other.arena.length := by
  have first := (length_insertOffsets hash other.arena false
    (valuesInOrder order other.exact) store).2
  have second := (length_insertOffsets hash other.arena true
    (valuesInOrder order other.wildcards)
    (store.insertOffsets hash other.arena (valuesInOrder order other.exact) false)).2
  rw [sum_valuesInOrder holds.exact] at first
  rw [sum_valuesInOrder holds.wildcards] at second
  have size := holds.accounted
  rw [DomainStore.merge]
  omega

/-- The update of one store leaves the other lists with theirs. -/
theorem models_update {runtime : DomainList → DomainStore} {sets : DomainList → DomainSets}
    (models : ∀ list, Models hash (runtime list) (sets list))
    (bounded : ∀ list, (runtime list).arena.length < 2 ^ 32)
    {list : DomainList} {store : DomainStore} {new : DomainSets}
    (models' : Models hash store new) (bounded' : store.arena.length < 2 ^ 32)
    (list' : DomainList) :
    Models hash (Function.update runtime list store list') (Function.update sets list new list') ∧
      (Function.update runtime list store list').arena.length < 2 ^ 32 := by
  by_cases here : list' = list
  · subst here
    rw [Function.update_self, Function.update_self]
    exact ⟨models', bounded'⟩
  · rw [Function.update_of_ne here, Function.update_of_ne here]
    exact ⟨models list', bounded list'⟩

/-- **The update does what it stands for.** -/
theorem EffectOn.apply {effect : Effect} {old new : DomainList → DomainSets}
    (on : EffectOn hash effect old new) {runtime runtime' : DomainList → DomainStore}
    (models : ∀ list, Models hash (runtime list) (old list))
    (room : ∀ list, (runtime list).arena.length + effect.growth list < 2 ^ 32)
    {order : BucketOrder} (applied : applyEffect u hash order runtime effect = some runtime') :
    ∀ list, Models hash (runtime' list) (new list) ∧ (runtime' list).arena.length < 2 ^ 32 := by
  have bounded : ∀ list, (runtime list).arena.length < 2 ^ 32 := fun list =>
    Nat.lt_of_le_of_lt (Nat.le_add_right _ _) (room list)
  cases effect with
  | nothing =>
      cases applied
      cases on
      exact fun list => ⟨models list, bounded list⟩
  | insert list domain =>
      cases applied
      obtain ⟨canonical, rfl⟩ := on
      refine models_update models bounded
        ((models list).insert_canonical u (bounded list) canonical) ?_
      have grown := length_insert_le u hash (runtime list) canonical
      have fits := room list
      simp only [Effect.growth, if_true] at fits
      omega
  | remove list domain =>
      cases applied
      obtain ⟨canonical, rfl⟩ := on
      obtain ⟨removed, shorter⟩ := (models list).remove u (bounded list) order domain
      rw [canonical.normalizeDomain] at removed
      exact models_update models bounded removed (Nat.lt_of_le_of_lt shorter (bounded list))
  | merge list store =>
      cases applied
      obtain ⟨more, models', rfl⟩ := on
      have grown := length_merge_le hash (runtime list) models'.holds order
      have fits := room list
      simp only [Effect.growth, if_true] at fits
      have short : ((runtime list).merge hash store order).arena.length < 2 ^ 32 := by omega
      exact models_update models bounded ((models list).merge models' order short) short
  | rebuild list => cases applied
  | replace list store =>
      cases applied
      obtain ⟨models', short, others⟩ := on
      intro list'
      by_cases here : list' = list
      · subst here
        rw [Function.update_self]
        exact ⟨models', short⟩
      · rw [Function.update_of_ne here, others list' here]
        exact ⟨models list', bounded list'⟩

end Update

/-! ## The commit

What a commit does to the tables, for each kind of job, and which update it leaves.  The two are
related by `EffectOn`: the update leads from the entries before to the entries after. -/

/-- The entries of the tables. -/
def Db.entries (db : Db) (list : DomainList) : DomainSets := setsOf (db.domains list).values

/-- What a commit leaves to do, and what it leaves in the tables: the update leads from the old
entries to the new ones, and no row comes from nowhere. -/
structure Committed (hash : Bytes → UInt64) (job : Job) (db db' : Db) (effect : Effect) :
    Prop where
  pending : EffectOn hash effect db.entries db'.entries
  rows : ∀ list, ∀ d ∈ (db'.domains list).values, d ∈ job.candidates db list

section Commit

variable {u : CaseTables} {hash : Bytes → UInt64} {db db' : Db}

/-- Adding rows to one table adds their entries to that list. -/
theorem entries_of_added {list : DomainList} {added : List Str}
    (rows : ∀ list' d, d ∈ (db'.domains list').values ↔
      (list' = list ∧ d ∈ added) ∨ d ∈ (db.domains list').values) :
    db'.entries = Function.update db.entries list (db.entries list ∪ setsOf added) := by
  funext list'
  by_cases here : list' = list
  · subst here
    rw [Function.update_self, Db.entries, Db.entries, ← setsOf_append]
    refine setsOf_congr fun d => ?_
    rw [rows, List.mem_append]
    simp [or_comm]
  · rw [Function.update_of_ne here]
    refine setsOf_congr fun d => ?_
    rw [rows]
    simp [here]

/-- Deleting a row of one table removes its entry from that list. -/
theorem entries_of_deleted {list : DomainList} {domain : Str}
    (rows : ∀ list' d, d ∈ (db'.domains list').values ↔
      (list' = list → d ≠ domain) ∧ d ∈ (db.domains list').values) :
    db'.entries = Function.update db.entries list ((db.entries list).erase (entryOf domain)) := by
  funext list'
  by_cases here : list' = list
  · subst here
    rw [Function.update_self]
    refine DomainSets.ext_mem fun e => ?_
    rw [DomainSets.mem_erase, Db.entries, Db.entries, mem_setsOf, mem_setsOf]
    constructor
    · rintro ⟨d, mem, rfl⟩
      obtain ⟨differs, old⟩ := (rows _ d).mp mem
      exact ⟨fun same => differs rfl (entryOf_injective same), d, old, rfl⟩
    · rintro ⟨differs, d, old, rfl⟩
      exact ⟨d, (rows _ d).mpr ⟨fun _ same => differs (by rw [same]), old⟩, rfl⟩
  · rw [Function.update_of_ne here]
    refine setsOf_congr fun d => ?_
    rw [rows]
    simp [here]

/-- Whatever the job, a snapshot apart, a row may stay. -/
theorem Job.mem_candidates {job : Job} (added : ∀ list domains, job ≠ .applySnapshot list domains)
    {list : DomainList} {d : Str} (old : d ∈ (db.domains list).values) :
    d ∈ job.candidates db list := by
  cases job with
  | addDomain list' domain =>
      simp only [Job.candidates]
      split
      · exact List.mem_cons_of_mem _ old
      · exact old
  | bulkImport list' content =>
      simp only [Job.candidates]
      split
      · exact List.mem_append_right _ old
      · exact old
  | refresh source content =>
      simp only [Job.candidates]
      split
      · exact List.mem_append_right _ old
      · exact old
  | applySnapshot list' domains => exact absurd rfl (added list' domains)
  | deleteDomain list' id => exact old
  | deleteSource id => exact old

/-- A job that changes no table leaves nothing to do. -/
theorem committed_nothing {job : Job}
    (same : ∀ list, db'.domains list = db.domains list)
    (kept : ∀ list, ∀ d ∈ (db.domains list).values, d ∈ job.candidates db list) :
    Committed hash job db db' .nothing where
  pending := by
    funext list
    rw [Db.entries, Db.entries, same]
  rows := by
    intro list d mem
    rw [same] at mem
    exact kept list d mem

theorem commitJob_addDomain (u : CaseTables) (hash : Bytes → UInt64) (now : Str) (db : Db)
    (list : DomainList) (domain : ListedDomain) :
    commitJob u hash (.fair now) db (.addDomain list domain) =
      ((db.insertDomain list domain.1).insertManual list domain.1, .insert list domain.1) := by
  obtain ⟨id, added⟩ := addDomain_clear u db list domain.1
  rw [domain.2.normalizeDomain] at added
  simp only [commitJob, Weather.fair, added]

variable (u hash)

theorem committed_addDomain (now : Str) (list : DomainList) (domain : ListedDomain) :
    Committed hash (.addDomain list domain) db
      (commitJob u hash (.fair now) db (.addDomain list domain)).1
      (commitJob u hash (.fair now) db (.addDomain list domain)).2 := by
  have rows : ∀ list' d,
      d ∈ (((db.insertDomain list domain.1).insertManual list domain.1).domains list').values ↔
        (list' = list ∧ d ∈ [domain.1]) ∨ d ∈ (db.domains list').values := by
    intro list' d
    rw [List.mem_singleton]
    exact Db.mem_insertDomain
  rw [commitJob_addDomain]
  refine ⟨⟨domain.2, ?_⟩, fun list' d mem => ?_⟩
  · rw [add_eq_union]
    exact entries_of_added rows
  · rcases (rows list' d).mp mem with ⟨rfl, new⟩ | old
    · simp only [Job.candidates, if_true]
      exact List.mem_cons.mpr (Or.inl (List.mem_singleton.mp new))
    · exact Job.mem_candidates (by simp) old

theorem committed_deleteDomain (canonical : ∀ list, ∀ d ∈ (db.domains list).values, Canonical d)
    (now : Str) (list : DomainList) (id : Nat) :
    Committed hash (.deleteDomain list id) db
      (commitJob u hash (.fair now) db (.deleteDomain list id)).1
      (commitJob u hash (.fair now) db (.deleteDomain list id)).2 := by
  cases found : (db.domains list).find? id with
  | none =>
      simp only [commitJob, Weather.fair, deleteDomainById_none found]
      exact committed_nothing (fun _ => rfl) fun _ _ mem => mem
  | some domain =>
      have listed : domain ∈ (db.domains list).values :=
        SqlTable.mem_values.mpr ⟨id, SqlTable.find?_eq_some.mp found⟩
      have rows : ∀ list' d,
          d ∈ ((db.setDomains list
            ((db.domains list).deleteWhere fun row => row.1 == id)).domains list').values ↔
            (list' = list → d ≠ domain) ∧ d ∈ (db.domains list').values := by
        intro list' d
        by_cases here : list' = list
        · subst here
          rw [Db.setDomains_domains_self, mem_deleteWhere_id found]
          simp
        · rw [Db.setDomains_domains_of_ne here]
          simp [here]
      simp only [commitJob, Weather.fair, deleteDomainById_clear found]
      exact ⟨⟨canonical list domain listed, entries_of_deleted rows⟩,
        fun list' d mem => ((rows list' d).mp mem).2⟩

theorem committed_bulkImport (now : Str) (list : DomainList) (content : Str)
    (room : packedBytes (Job.candidates (.bulkImport list content) db list) < 2 ^ 32) :
    Committed hash (.bulkImport list content) db
      (commitJob u hash (.fair now) db (.bulkImport list content)).1
      (commitJob u hash (.fair now) db (.bulkImport list content)).2 := by
  obtain ⟨⟨result, written⟩, imported⟩ := bulkImport_clear u hash db list content
  obtain ⟨rfl, store⟩ := bulkImport_eq_ok imported
  have fresh : packedBytes (contentDomains content) < 2 ^ 32 := by
    refine Nat.lt_of_le_of_lt (packedBytes_mono fun d mem => ?_) room
    simp only [Job.candidates, if_true]
    exact List.mem_append_left _ mem
  have models := (models_storeOf u hash
    (fun d mem => canonical_of_mem_contentDomains mem) fresh).1
  simp only [commitJob, Weather.fair, imported]
  refine ⟨⟨_, by rw [store]; exact models, ?_⟩, fun list' d mem => ?_⟩
  · exact entries_of_added fun list' d => Db.mem_importAll
  · rcases Db.mem_importAll.mp mem with ⟨rfl, new⟩ | old
    · simp only [Job.candidates, if_true]
      exact List.mem_append_left _ new
    · exact Job.mem_candidates (by simp) old

theorem committed_deleteSource (now : Str) (id : Nat) :
    Committed hash (.deleteSource id) db
      (commitJob u hash (.fair now) db (.deleteSource id)).1
      (commitJob u hash (.fair now) db (.deleteSource id)).2 := by
  cases found : db.sources.find? id with
  | none =>
      have absent : deleteSourceWithCleanup .clear ∅ db id = (db, none) := by
        simp [deleteSourceWithCleanup, Plan.clear, found]
      simp only [commitJob, Weather.fair, absent]
      exact committed_nothing (fun _ => rfl) fun _ _ mem => mem
  | some source =>
      have pruned := pruned_dropSource db id (.ofType source.listType)
      simp only [commitJob, Weather.fair, deleteSourceWithCleanup_clear found]
      refine ⟨fun list' ne => ?_, fun list' d mem => ?_⟩
      · rw [Db.entries, Db.entries, pruned.other list' ne]
      · by_cases here : list' = .ofType source.listType
        · subst here
          exact (Db.mem_dropSource_domains.mp mem).1
        · rw [pruned.other list' here] at mem
          exact mem

theorem committed_refresh (now : Str) (source : DbSource) (content : Str) :
    Committed hash (.refresh source content) db
      (commitJob u hash (.fair now) db (.refresh source content)).1
      (commitJob u hash (.fair now) db (.refresh source content)).2 := by
  simp only [commitJob, Weather.fair]
  cases replaced : replaceSourceDomains .clear now db source.id
      (.ofType source.listType) content with
  | error error =>
      exact committed_nothing (fun _ => rfl) fun list' d mem =>
        Job.mem_candidates (by simp) mem
  | ok out =>
      obtain ⟨n, written⟩ := out
      obtain ⟨newList, parsed, -, rfl⟩ := replaceSourceDomains_eq_ok replaced
      simp only
      refine ⟨fun list' ne => ?_, fun list' d mem => ?_⟩
      · rw [Db.entries, Db.entries, Db.replaceOwned_domains_of_ne ne]
      · by_cases here : list' = .ofType source.listType
        · subst here
          rcases Db.mem_replaceOwned_domains.mp mem with new | ⟨old, -⟩
          · simp only [Job.candidates, if_true]
            exact List.mem_append_left _ ((mem_parseSourceDomains parsed).mp new)
          · exact Job.mem_candidates (by simp) old
        · rw [Db.replaceOwned_domains_of_ne here] at mem
          exact Job.mem_candidates (by simp) mem

theorem committed_applySnapshot (now : Str) (list : DomainList) (domains : List ListedDomain)
    (room : packedBytes (domains.map Subtype.val) < 2 ^ 32) :
    Committed hash (.applySnapshot list domains) db
      (commitJob u hash (.fair now) db (.applySnapshot list domains)).1
      (commitJob u hash (.fair now) db (.applySnapshot list domains)).2 := by
  have listed : ∀ d ∈ domains.map Subtype.val, Canonical d := by
    intro d mem
    obtain ⟨domain, -, rfl⟩ := List.mem_map.mp mem
    exact domain.2
  obtain ⟨models, length⟩ := models_storeOf u hash listed room
  have same : (db.applyDomains list (domains.map Subtype.val)).entries list =
      setsOf (domains.map Subtype.val) := setsOf_congr fun d => Db.mem_applyDomains
  simp only [commitJob, Weather.fair, Bool.false_eq_true, if_false]
  refine ⟨⟨by rw [same]; exact models, by rw [length]; exact room, fun list' ne => ?_⟩,
    fun list' d mem => ?_⟩
  · rw [Db.entries, Db.entries, Db.applyDomains_domains_of_ne ne]
  · simp only [Job.candidates]
    by_cases here : list' = list
    · subst here
      rw [if_pos rfl]
      exact Db.mem_applyDomains.mp mem
    · rw [Db.applyDomains_domains_of_ne here] at mem
      rw [if_neg fun same => here same.symm]
      exact mem

/-- **What every job commits**, when no call fails. -/
theorem commitJob_committed (canonical : ∀ list, ∀ d ∈ (db.domains list).values, Canonical d)
    (now : Str) (job : Job) (room : ∀ list, packedBytes (job.candidates db list) < 2 ^ 32) :
    Committed hash job db (commitJob u hash (.fair now) db job).1
      (commitJob u hash (.fair now) db job).2 := by
  cases job with
  | addDomain list domain => exact committed_addDomain u hash now list domain
  | deleteDomain list id => exact committed_deleteDomain u hash canonical now list id
  | bulkImport list content => exact committed_bulkImport u hash now list content (room list)
  | deleteSource id => exact committed_deleteSource u hash now id
  | refresh source content => exact committed_refresh u hash now source content
  | applySnapshot list domains =>
      have fits := room list
      simp only [Job.candidates, if_true] at fits
      exact committed_applySnapshot u hash now list domains fits

end Commit

/-! ## The invariant

Whatever is pending leads from the stores to the tables.  With the lock free nothing is pending,
and each store holds the entries of its table. -/

/-- The update the holder of the lock still has to make. -/
def pending : Option Holding → Effect
  | some { progress := .committed effect, .. } => effect
  | _ => .nothing

/-- **The runtime stores are in step with the tables**, up to the pending update.  It holds in
every state; with nothing pending it is what the module is about. -/
structure InStep (hash : Bytes → UInt64) (s : Server) : Prop where
  canonical : ∀ list, ∀ d ∈ (s.db.domains list).values, Canonical d
  room : ∀ list, packedBytes (s.db.domains list).values < 2 ^ 32
  short : ∀ list, (s.runtime list).arena.length < 2 ^ 32
  lists : ∃ old, (∀ list, Models hash (s.runtime list) (old list)) ∧
    EffectOn hash (pending s.holder) old s.db.entries

section Invariant

variable {u : CaseTables} {hash : Bytes → UInt64} {s t : Server}

/-- A step that changes neither a table nor a runtime store nor the pending
update. -/
theorem InStep.congr (inStep : InStep hash s) (domains : t.db.domains = s.db.domains)
    (runtime : t.runtime = s.runtime) (holder : pending t.holder = pending s.holder) :
    InStep hash t := by
  obtain ⟨old, models, on⟩ := inStep.lists
  have entries : t.db.entries = s.db.entries := by
    funext list
    rw [Db.entries, Db.entries, domains]
  refine ⟨?_, ?_, ?_, old, ?_, ?_⟩
  · rw [domains]
    exact inStep.canonical
  · rw [domains]
    exact inStep.room
  · rw [runtime]
    exact inStep.short
  · rw [runtime]
    exact models
  · rw [holder, entries]
    exact on

theorem inStep_commit (inStep : InStep hash s) {now : Str} {job : Job} {later : List DbSource}
    (held : s.holder = some { progress := .locked job, later := later })
    (room : ∀ list, packedBytes (job.candidates s.db list) < 2 ^ 32) :
    InStep hash
      { s with
        db := (commitJob u hash (.fair now) s.db job).1
        holder := some
          { progress := .committed (commitJob u hash (.fair now) s.db job).2
            later := later } } := by
  obtain ⟨old, models, on⟩ := inStep.lists
  rw [held] at on
  have same : s.db.entries = old := on
  have committed := commitJob_committed u hash inStep.canonical now job room
  have listed : ∀ list, ∀ d ∈ job.candidates s.db list, Canonical d := by
    intro list d mem
    have old := inStep.canonical list d
    cases job <;> simp only [Job.candidates] at mem
    case deleteDomain | deleteSource => exact old mem
    case addDomain list' domain =>
      split at mem
      · rcases List.mem_cons.mp mem with rfl | row
        · exact domain.2
        · exact old row
      · exact old mem
    case applySnapshot list' domains =>
      split at mem
      · obtain ⟨domain, -, rfl⟩ := List.mem_map.mp mem
        exact domain.2
      · exact old mem
    all_goals
      split at mem
      · rcases List.mem_append.mp mem with new | row
        · exact canonical_of_mem_contentDomains new
        · exact old row
      · exact old mem
  refine ⟨fun list d mem => listed list d (committed.rows list d mem), fun list => ?_,
    inStep.short, old, models, ?_⟩
  · exact Nat.lt_of_le_of_lt (packedBytes_mono (committed.rows list)) (room list)
  · rw [← same]
    exact committed.pending

theorem inStep_load (inStep : InStep hash s) {list : DomainList} {later : List DbSource}
    (held : s.holder = some { progress := .committed (.rebuild list), later := later })
    (scan : Reordering Str) :
    InStep hash
      { s with
        holder := some
          { progress := .committed
              (.replace list (loadDomainStoreFromConn u hash .clear scan s.db list)),
            later := later } } := by
  obtain ⟨old, models, on⟩ := inStep.lists
  rw [held] at on
  obtain ⟨loaded, length⟩ := models_loadDomainStoreFromConn u hash
    (inStep.canonical list) (inStep.room list) scan
  refine ⟨inStep.canonical, inStep.room, inStep.short, old, models, loaded, ?_, on⟩
  rw [length]
  exact inStep.room list

/-- **One step** that has room, and in which no database call fails, keeps the
stores in step with the tables. -/
theorem inStep_step {a : Action} (inStep : InStep hash s) (fair : Fair a) (room : HasRoom s a)
    (step : s.step u hash a = some t) : InStep hash t := by
  cases a with
  | submit job => cases job <;> cases step <;> exact inStep.congr rfl rfl rfl
  | addSource | refreshAll | refreshStale =>
      cases step
      exact inStep.congr rfl rfl rfl
  | selectId | refreshOne | fetched | fetchFailed =>
      simp only [Server.step] at step
      split at step
      · cases step
        exact inStep.congr rfl rfl rfl
      · cases step
  | acquire i =>
      simp only [Server.step] at step
      split at step
      next free waits =>
        cases step
        exact inStep.congr rfl rfl (by rw [free]; rfl)
      · cases step
  | commit weather =>
      simp only [Server.step] at step
      split at step
      next job later held =>
        cases step
        have noFault : weather = .fair weather.now := fair
        rw [noFault]
        exact inStep_commit inStep held (room job later held)
      · cases step
  | load scan fails =>
      simp only [Server.step] at step
      split at step
      next list later held =>
        cases step
        have noFault : fails = .clear := fair
        rw [noFault]
        exact inStep_load inStep held scan
      · cases step
  | update order =>
      simp only [Server.step] at step
      split at step
      next effect later held =>
        obtain ⟨runtime, applied, rfl⟩ := Option.map_eq_some_iff.mp step
        obtain ⟨old, models, on⟩ := inStep.lists
        rw [held] at on
        have after := on.apply models (room effect later held) applied
        exact ⟨inStep.canonical, inStep.room, fun list => (after list).2, s.db.entries,
          fun list => (after list).1, rfl⟩
      · cases step
  | release =>
      simp only [Server.step] at step
      split at step
      next later held =>
        cases step
        exact inStep.congr rfl rfl (by rw [held]; rfl)
      · cases step
  | applySources items =>
      cases step
      refine inStep.congr ?_ rfl rfl
      simp only
      cases applied : s.db.applySources items with
      | none => rfl
      | some db' =>
          obtain ⟨table, -, rfl⟩ := Option.map_eq_some_iff.mp applied
          rfl

/-- A server whose tables hold canonical domains that fit starts in step. -/
theorem inStep_started (started : s.Started u hash)
    (canonical : ∀ list, ∀ d ∈ (s.db.domains list).values, Canonical d)
    (room : ∀ list, packedBytes (s.db.domains list).values < 2 ^ 32) : InStep hash s := by
  obtain ⟨-, free, loaded⟩ := started
  have models : ∀ list, Models hash (s.runtime list) (s.db.entries list) := fun list => by
    rw [loaded list]
    exact models_loadStoreFromDb (canonical list) (room list)
  refine ⟨canonical, room, fun list => ?_, s.db.entries, models, ?_⟩
  · have length := (models_storeOf u hash
      (fun d (mem : d ∈ Str.sort (s.db.domains list).values) =>
        canonical list d (Str.mem_sort.mp mem))
      (by rw [packedBytes, setsOf_congr fun d => Str.mem_sort]; exact room list)).2
    rw [loaded list, loadStoreFromDb, length, packedBytes, setsOf_congr fun d => Str.mem_sort]
    exact room list
  · rw [free]
    rfl

/-- Whenever the lock is free, each runtime store holds the entries that loading
its table would give. -/
theorem InStep.sameEntries (inStep : InStep hash s) (free : s.holder = none)
    (list : DomainList) :
    SameEntries hash (s.runtime list) (loadStoreFromDb u hash s.db list) := by
  obtain ⟨old, models, on⟩ := inStep.lists
  rw [free] at on
  have same : s.db.entries = old := on
  have running := models list
  rw [← same] at running
  exact running.sameEntries
    (models_loadStoreFromDb (inStep.canonical list) (inStep.room list))

end Invariant

/-- The runtime lists equal the database lists, unless a request holds the lock: each store finds
what the store of its table would find. -/
def ListsEqual (u : CaseTables) (hash : Bytes → UInt64) (s : Server) : Prop :=
  s.holder = none → ∀ list, SameEntries hash (s.runtime list) (loadStoreFromDb u hash s.db list)

/-- **Runtime lists equal database lists** in every state of every interleaving in
which no database call fails and every step has room. -/
theorem lists_equal_of_room (u : CaseTables) (hash : Bytes → UInt64) {s : Server}
    {acts : List Action} (started : (listRequests u hash).init s)
    (canonical : ∀ list, ∀ d ∈ (s.db.domains list).values, Canonical d)
    (room : ∀ list, packedBytes (s.db.domains list).values < 2 ^ 32)
    (meets : (listRequests u hash).StepsMeet (fun s a => Fair a ∧ HasRoom s a) s acts) :
    (listRequests u hash).Always (ListsEqual u hash) s acts :=
  (listRequests u hash).always_of_stepsMeet
    (fun _ _ _ inStep met step => inStep_step inStep met.1 met.2 step)
    (fun _ inStep free list => inStep.sameEntries free list)
    (inStep_started started canonical room) meets

/-- A domain is added to an empty server.  Before the runtime store has it an import of the same
list comes, and waits for the lock. -/
def overlappingWrites : List Action :=
  [.submit (.addDomain .blocklist ⟨"ads.example".toList, by decide⟩), .acquire 0,
    .commit (.fair []),
    .submit (.bulkImport .blocklist "0.0.0.0 ads.example\n*.tracker.example".toList),
    .update (.id _), .release, .acquire 0, .commit (.fair []), .update (.id _), .release]

theorem lists_equal_of_room_overlapping :
    (listRequests .ascii fun _ => 0).Always (ListsEqual .ascii fun _ => 0) {}
      overlappingWrites := by
  have empty : ∀ list, ∀ d ∈ (({} : Server).db.domains list).values, Canonical d := by
    intro list d mem
    cases mem
  have small : ∀ list, packedBytes (({} : Server).db.domains list).values < 2 ^ 32 := by
    intro list
    cases list <;> decide
  refine lists_equal_of_room _ _ ⟨rfl, rfl, fun _ => rfl⟩ empty small ?_
  refine (StateMachine.stepsMeet_cons _ rfl).mpr ⟨⟨trivial, trivial⟩, ?_⟩
  refine (StateMachine.stepsMeet_cons _ rfl).mpr ⟨⟨trivial, trivial⟩, ?_⟩
  refine (StateMachine.stepsMeet_cons _ rfl).mpr ⟨⟨rfl, ?_⟩, ?_⟩
  · intro job later held list
    cases held
    cases list <;> decide
  refine (StateMachine.stepsMeet_cons _ rfl).mpr ⟨⟨trivial, trivial⟩, ?_⟩
  refine (StateMachine.stepsMeet_cons _ rfl).mpr ⟨⟨trivial, ?_⟩, ?_⟩
  · intro effect later held list
    cases held
    cases list <;> decide
  refine (StateMachine.stepsMeet_cons _ rfl).mpr ⟨⟨trivial, trivial⟩, ?_⟩
  refine (StateMachine.stepsMeet_cons _ rfl).mpr ⟨⟨trivial, trivial⟩, ?_⟩
  refine (StateMachine.stepsMeet_cons _ rfl).mpr ⟨⟨rfl, ?_⟩, ?_⟩
  · intro job later held list
    cases held
    cases list <;> decide +kernel
  refine (StateMachine.stepsMeet_cons _ rfl).mpr ⟨⟨trivial, ?_⟩, ?_⟩
  · intro effect later held list
    cases held
    cases list <;> decide +kernel
  exact (StateMachine.stepsMeet_cons _ rfl).mpr ⟨⟨trivial, trivial⟩, trivial⟩

end RustBlocker
