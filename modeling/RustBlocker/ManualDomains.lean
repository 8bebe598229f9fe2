import RustBlocker.Library.StateMachine
import RustBlocker.ListWrites

/-!
# Manual entries

A row of a list may be there because an operator added it, because sources listed it, or both.
`manual_domains` marks the first kind.  The two prunes, of a refresh and of a deleted source,
spare a marked row, and only a deletion by id takes the mark away, together with the row.

`localRequests` is the machine of the requests an operator can make, one after another; a refresh
may bring any content, and a fetch may fail.  The two results are that a mark never stands without
its row, and that what was added by hand stays until it is deleted by hand.

No snapshot of a master is among the requests, since it replaces the table, marks or not; what a
snapshot does to the rows of a replica is another module.  The database calls of a request succeed
here, and what they do when one of them fails is said in `ListWrites` and `Pruning`.

Both results come from the invariant that the marked domains are listed, by one case for every
request.  For a refresh and for a deleted source the case is the description of the two prunes,
which names the mark among the reasons for which a row stays.
-/

namespace RustBlocker

/-- A request of an operator, as far as it concerns the lists.  A refresh is given the source as
it was read. -/
inductive LocalRequest where
  | addDomain (list : DomainList) (domain : Str)
  | bulkImport (list : DomainList) (content : Str)
  | deleteDomain (list : DomainList) (id : Nat)
  | addSource (url listType : Str) (intervalHours : Int)
  | refresh (now : Str) (source : DbSource) (content : Str)
  | fetchFailed (now : Str) (source : DbSource) (error : Str)
  | deleteSource (id : Nat)

section Requests

variable (u : CaseTables) (hash : Bytes → UInt64)

/-- The database after a request whose database calls succeed. -/
def handleLocal (db : Db) : LocalRequest → Db
  | .addDomain list domain =>
      match addDomain u .clear db list domain with
      | .ok (_, written) => written
      | .error _ => db
  | .bulkImport list content =>
      match bulkImport u hash .clear db list content with
      | .ok (_, written) => written
      | .error _ => db
  | .deleteDomain list id => (deleteDomainById .clear db list id).1
  | .addSource url listType hours => insertSource db url listType hours
  | .refresh now source content =>
      -- the content may be refused
      match replaceSourceDomains .clear now db source.id (.ofType source.listType) content with
      | .ok (_, written) => written
      | .error error => db.updateSourceStatus now source.id (failedStatus error)
  | .fetchFailed now source error =>
      db.updateSourceStatus now source.id (failedStatus error)
  | .deleteSource id => (deleteSourceWithCleanup .clear ∅ db id).1

/-- **The machine of the local requests.** -/
def localRequests : StateMachine Db LocalRequest where
  init db := db = {}
  step db request := some (handleLocal u hash db request)

/-- Whether a request adds the domain to the list by hand. -/
def AddsByHand (list : DomainList) (domain : Str) : LocalRequest → Prop
  | .addDomain list' given => list' = list ∧ normalizeDomain u given = domain
  | .bulkImport list' content => list' = list ∧ domain ∈ contentDomains content
  | _ => False

/-- A request that does not delete the domain from the list by its id, in the database it meets. -/
def Spares (list : DomainList) (domain : Str) (db : Db) : LocalRequest → Prop
  | .deleteDomain list' id => list' = list → (db.domains list).find? id ≠ some domain
  | _ => True

end Requests

namespace Db

/-- The domain is marked manual in the list, and listed.  A mark alone is of no use to a lookup. -/
structure Manual (list : DomainList) (domain : Str) (db : Db) : Prop where
  marked : (list, domain) ∈ db.manualDomains
  listed : domain ∈ (db.domains list).values

/-- No mark stands without its row. -/
def MarksListed (db : Db) : Prop :=
  ∀ list domain, (list, domain) ∈ db.manualDomains → domain ∈ (db.domains list).values

/-! ## One request

A mark is made by an add and by an import, together with the row.  All other requests but the
deletion by id leave marks alone, and the two prunes look at them before they delete. -/

variable {u : CaseTables} {hash : Bytes → UInt64} {db : Db}

theorem mem_insertManual {list list' : DomainList} {domain d : Str} :
    (list', d) ∈ (db.insertManual list domain).manualDomains ↔
      (list' = list ∧ d = domain) ∨ (list', d) ∈ db.manualDomains := by
  show (list', d) ∈ insert (list, domain) db.manualDomains ↔ _
  rw [Finset.mem_insert, Prod.mk.injEq]

/-- What an import marks. -/
theorem mem_importAll_manualDomains {list list' : DomainList} {domains : List Str} {d : Str} :
    (list', d) ∈ (db.importAll list domains).manualDomains ↔
      (list' = list ∧ d ∈ domains) ∨ (list', d) ∈ db.manualDomains := by
  induction domains generalizing db with
  | nil => simp [importAll]
  | cons domain rest ih =>
      have step : db.importAll list (domain :: rest) =
          ((db.insertDomain list domain).insertManual list domain).importAll list rest := rfl
      rw [step, ih, mem_insertManual, List.mem_cons]
      show _ ∨ _ ∨ (list', d) ∈ db.manualDomains ↔ _
      tauto

/-- A prune spares what is marked. -/
theorem Manual.prune {list list' : DomainList} {d : Str} (manual : db.Manual list d)
    (candidates : Finset Str) : (db.prune list' candidates).Manual list d := by
  refine ⟨manual.marked, ?_⟩
  by_cases same : list = list'
  · subst same
    exact mem_prune.mpr ⟨manual.listed, fun gone => gone.2.2 manual.marked⟩
  · rw [prune_domains_of_ne same]
    exact manual.listed

/-- A refresh lists more and then prunes. -/
theorem Manual.replaceOwned {list list' : DomainList} {d : Str} (manual : db.Manual list d)
    (now : Str) (sourceId : Nat) (newList : List Str) :
    (db.replaceOwned now sourceId list' newList).Manual list d := by
  have written : ((db.disown sourceId).ownAll sourceId list' newList).Manual list d := by
    refine ⟨?_, mem_ownAll_domains.mpr (Or.inr manual.listed)⟩
    rw [ownAll_manualDomains]
    exact manual.marked
  have pruned : (Db.prune _ list' (db.ownedBy sourceId)).Manual list d := written.prune _
  exact ⟨pruned.marked, pruned.listed⟩

/-- A deleted source takes no marked row along. -/
theorem Manual.dropSource {list list' : DomainList} {d : Str} (manual : db.Manual list d)
    (id : Nat) : (db.dropSource id list').Manual list d := by
  have deleted : ((db.disown id).deleteSource id).Manual list d := ⟨manual.marked, manual.listed⟩
  exact deleted.prune _

/-- The database after an add by hand, in closed form. -/
theorem run_addDomain (list : DomainList) (domain : Str) :
    handleLocal u hash db (.addDomain list domain) =
      (db.insertDomain list (normalizeDomain u domain)).insertManual list
        (normalizeDomain u domain) := by
  obtain ⟨id, ok⟩ := addDomain_clear u db list domain
  simp only [handleLocal, ok]

theorem run_bulkImport (list : DomainList) (content : Str) :
    handleLocal u hash db (.bulkImport list content) =
      db.importAll list (contentDomains content) := by
  obtain ⟨⟨result, written⟩, ok⟩ := bulkImport_clear u hash db list content
  simp only [handleLocal, ok]
  exact (bulkImport_eq_ok ok).1

/-- **What is added by hand is marked and listed.** -/
theorem manual_of_adds {list : DomainList} {d : Str} {request : LocalRequest}
    (adds : AddsByHand u list d request) : (handleLocal u hash db request).Manual list d := by
  cases request with
  | addDomain list' domain =>
      obtain ⟨rfl, rfl⟩ := adds
      rw [run_addDomain]
      exact ⟨mem_insertManual.mpr (Or.inl ⟨rfl, rfl⟩), mem_insertDomain.mpr (Or.inl ⟨rfl, rfl⟩)⟩
  | bulkImport list' content =>
      obtain ⟨rfl, mem⟩ := adds
      rw [run_bulkImport]
      exact ⟨mem_importAll_manualDomains.mpr (Or.inl ⟨rfl, mem⟩),
        mem_importAll.mpr (Or.inl ⟨rfl, mem⟩)⟩
  | deleteDomain | addSource | refresh | fetchFailed | deleteSource => cases adds

/-- **A request that spares a manual domain keeps it**, mark and row. -/
theorem Manual.survives {list : DomainList} {d : Str} (manual : db.Manual list d)
    {request : LocalRequest} (spares : Spares list d db request) :
    (handleLocal u hash db request).Manual list d := by
  cases request with
  | addDomain list' domain =>
      rw [run_addDomain]
      exact ⟨mem_insertManual.mpr (Or.inr manual.marked),
        mem_insertDomain.mpr (Or.inr manual.listed)⟩
  | bulkImport list' content =>
      rw [run_bulkImport]
      exact ⟨mem_importAll_manualDomains.mpr (Or.inr manual.marked),
        mem_importAll.mpr (Or.inr manual.listed)⟩
  | deleteDomain list' id =>
      cases found : (db.domains list').find? id with
      | none =>
          show (deleteDomainById .clear db list' id).1.Manual list d
          rw [deleteDomainById_none found]
          exact manual
      | some domain =>
          show (deleteDomainById .clear db list' id).1.Manual list d
          rw [deleteDomainById_clear found]
          -- the row of the id is another one
          have other : list' = list → domain ≠ d := by
            rintro rfl rfl
            exact spares rfl found
          constructor
          · refine Finset.mem_erase.mpr ⟨fun same => ?_, manual.marked⟩
            obtain ⟨rfl, rfl⟩ := Prod.mk.inj same
            exact other rfl rfl
          · show d ∈ ((db.setDomains list' _).domains list).values
            by_cases same : list = list'
            · subst same
              rw [setDomains_domains_self]
              exact (mem_deleteWhere_id found).mpr ⟨fun same => other rfl same.symm, manual.listed⟩
            · rw [setDomains_domains_of_ne same]
              exact manual.listed
  | addSource url listType hours => exact ⟨manual.marked, manual.listed⟩
  | refresh now source content =>
      simp only [handleLocal]
      split
      next ok =>
        obtain ⟨newList, -, -, rfl⟩ := replaceSourceDomains_eq_ok ok
        exact manual.replaceOwned now source.id newList
      next => exact ⟨manual.marked, manual.listed⟩
  | fetchFailed now source error => exact ⟨manual.marked, manual.listed⟩
  | deleteSource id =>
      show (deleteSourceWithCleanup .clear ∅ db id).1.Manual list d
      cases found : db.sources.find? id with
      | none =>
          have same : deleteSourceWithCleanup .clear ∅ db id = (db, none) := by
            simp [deleteSourceWithCleanup, Plan.clear, found]
          rw [same]
          exact manual
      | some source =>
          rw [deleteSourceWithCleanup_clear found]
          exact manual.dropSource id

/-- A request marks only what it adds. -/
theorem adds_of_marked {list : DomainList} {d : Str} {request : LocalRequest}
    (marked : (list, d) ∈ (handleLocal u hash db request).manualDomains) :
    AddsByHand u list d request ∨ ((list, d) ∈ db.manualDomains ∧ Spares list d db request) := by
  cases request with
  | addDomain list' domain =>
      rw [run_addDomain, mem_insertManual] at marked
      rcases marked with ⟨rfl, rfl⟩ | old
      · exact Or.inl ⟨rfl, rfl⟩
      · exact Or.inr ⟨old, trivial⟩
  | bulkImport list' content =>
      rw [run_bulkImport, mem_importAll_manualDomains] at marked
      rcases marked with ⟨rfl, mem⟩ | old
      · exact Or.inl ⟨rfl, mem⟩
      · exact Or.inr ⟨old, trivial⟩
  | deleteDomain list' id =>
      refine Or.inr ?_
      change (list, d) ∈ (deleteDomainById .clear db list' id).1.manualDomains at marked
      cases found : (db.domains list').find? id with
      | none =>
          rw [deleteDomainById_none found] at marked
          refine ⟨marked, ?_⟩
          rintro rfl same
          rw [found] at same
          cases same
      | some domain =>
          rw [deleteDomainById_clear found] at marked
          obtain ⟨differ, old⟩ := Finset.mem_erase.mp marked
          refine ⟨old, ?_⟩
          rintro rfl same
          rw [found] at same
          exact differ (by rw [Option.some.inj same])
  | addSource url listType hours => exact Or.inr ⟨marked, trivial⟩
  | refresh now source content =>
      simp only [handleLocal] at marked
      refine Or.inr ⟨?_, trivial⟩
      split at marked
      next ok =>
        obtain ⟨newList, -, -, rfl⟩ := replaceSourceDomains_eq_ok ok
        rwa [replaceOwned_manualDomains] at marked
      next => exact marked
  | fetchFailed now source error => exact Or.inr ⟨marked, trivial⟩
  | deleteSource id =>
      refine Or.inr ⟨?_, trivial⟩
      change (list, d) ∈ (deleteSourceWithCleanup .clear ∅ db id).1.manualDomains at marked
      cases found : db.sources.find? id with
      | none =>
          have same : deleteSourceWithCleanup .clear ∅ db id = (db, none) := by
            simp [deleteSourceWithCleanup, Plan.clear, found]
          rwa [same] at marked
      | some source =>
          rw [deleteSourceWithCleanup_clear found] at marked
          exact marked

theorem MarksListed.survives (listed : db.MarksListed) (request : LocalRequest) :
    (handleLocal u hash db request).MarksListed := by
  intro list d marked
  rcases adds_of_marked marked with adds | ⟨old, spares⟩
  · exact (manual_of_adds adds).listed
  · exact (Manual.survives ⟨old, listed list d old⟩ spares).listed

end Db

/-! ## Every run of local requests

Two invariants along the same runs: every mark has its row, and a given mark stays while it is
spared. -/

/-- **Manual entries survive.**  In every reachable state the marks are listed, and
what a request adds by hand there stays marked and listed in every later state, as
long as no request deletes it by id. -/
theorem manual_survives (u : CaseTables) (hash : Bytes → UInt64) {db : Db}
    (reached : (localRequests u hash).Reachable db) :
    db.MarksListed ∧
      ∀ (request : LocalRequest) (list : DomainList) (domain : Str),
        AddsByHand u list domain request → ∀ later : List LocalRequest,
          (localRequests u hash).StepsMeet (Spares list domain)
              (handleLocal u hash db request) later →
            (localRequests u hash).Always (Db.Manual list domain) (handleLocal u hash db request)
              later := by
  constructor
  · refine reached.invariant ?_ ?_
    · rintro _ rfl list domain marked
      exact absurd marked (Finset.notMem_empty _)
    · intro s request t listed step
      cases step
      exact listed.survives request
  · intro request list domain adds later spared
    refine (localRequests u hash).always_of_stepsMeet (fun s a t manual spares step => ?_)
      (fun _ manual => manual) (Db.manual_of_adds adds) spared
    cases step
    exact manual.survives spares

/-- The source of the run below. -/
def adsSource : DbSource where
  id := 1
  url := "https://lists.example/ads".toList
  listType := "blocklist".toList

/-- The content of a source, a domain a line; there must be ten of them. -/
def adsContent (first : Str) : Str :=
  ((first :: "bcdefghijk".toList.map fun c => [c]).map fun name =>
    name ++ ".example\n".toList).flatten

/-- The requests that add the source and bring `ads.example` with it. -/
def ownAds : List LocalRequest :=
  [.addSource adsSource.url adsSource.listType 24,
    .refresh "now".toList adsSource (adsContent "ads".toList)]

def adsOwned : Db := ownAds.foldl (handleLocal .ascii fun _ => 0) {}

/-- A domain that a source owns is imported by hand; the source then no longer lists it, and is
deleted. -/
theorem manual_survives_import :
    "ads.example".toList ∈ adsOwned.ownedBy 1 ∧
      (localRequests .ascii fun _ => 0).Always (Db.Manual .blocklist "ads.example".toList)
        (handleLocal .ascii (fun _ => 0) adsOwned
          (.bulkImport .blocklist "0.0.0.0 ads.example".toList))
        [.refresh "later".toList adsSource (adsContent "other".toList), .deleteSource 1] := by
  have reached : (localRequests .ascii fun _ => 0).Reachable adsOwned :=
    ⟨{}, ownAds, rfl, rfl⟩
  refine ⟨by decide +kernel, (manual_survives .ascii (fun _ => 0) reached).2
    (.bulkImport .blocklist "0.0.0.0 ads.example".toList) _ _ ⟨rfl, by decide +kernel⟩ _ ?_⟩
  exact ⟨trivial, fun _ _ => ⟨trivial, fun _ _ => trivial⟩⟩

end RustBlocker
