import RustBlocker.SourceRefresh

/-!
# What a refresh and a deletion do to the lists

The effect of the two transactions as one pure function of the database each, `Db.replaceOwned`
and `Db.dropSource`, with the lemma that says which part of the database it changes and how.
Everything later that concerns a refresh or a deletion cites these and does not unfold the
transactions again.

The main result is `pruned_of_refresh_and_deletion`: exactly which domains a refresh or a deletion
takes out of a list.  A domain stays if *any* other source owns it, also one of the other list:
`source_domains` has no list column, and the prune asks for no owner at all.

`Pruned` compares the lists before and after.  A source has given a domain up if it owned the
domain before and does not own it after; so one definition serves both transactions.  Its
predicate `keep` says which of the other sources count as owners: all of them in the theorem, and
those of the same list in the statement that fails.

A refresh takes the rows of the source away, writes and lists those of its content, and only then
deletes from the list what the source used to own and nobody owns now.  What it has just listed is
owned, and so the prune leaves it alone.
-/

namespace RustBlocker

namespace Db

/-- Own and list every domain, in order. -/
def ownAll (db : Db) (sourceId : Nat) (list : DomainList) (domains : List Str) : Db :=
  domains.foldl (fun db domain => (db.own sourceId domain).insertDomain list domain) db

/-- What a successful refresh does. -/
def replaceOwned (db : Db) (now : Str) (sourceId : Nat) (list : DomainList)
    (newList : List Str) : Db :=
  (((db.disown sourceId).ownAll sourceId list newList).prune list
    (db.ownedBy sourceId)).updateSourceStatus now sourceId (okStatus newList.length)

/-- What a deletion without a failing call does. -/
def dropSource (db : Db) (id : Nat) (list : DomainList) : Db :=
  ((db.disown id).deleteSource id).prune list (db.ownedBy id)

/-! ## Owning a list of domains

What the loop over the new domains of a source leaves, in closed form: rows of ownership, rows of
the list, and nothing else. -/

section OwnAll

variable {db : Db} {sourceId : Nat} {list : DomainList} {domains : List Str}

theorem ownAll_cons (domain : Str) (rest : List Str) :
    db.ownAll sourceId list (domain :: rest) =
      ((db.own sourceId domain).insertDomain list domain).ownAll sourceId list rest := rfl

@[simp] theorem ownAll_sources : (db.ownAll sourceId list domains).sources = db.sources := by
  induction domains generalizing db with
  | nil => rfl
  | cons domain rest ih => exact ih

@[simp] theorem ownAll_manualDomains :
    (db.ownAll sourceId list domains).manualDomains = db.manualDomains := by
  induction domains generalizing db with
  | nil => rfl
  | cons domain rest ih => exact ih

theorem mem_ownAll_sourceDomains {id : Nat} {d : Str} :
    (id, d) ∈ (db.ownAll sourceId list domains).sourceDomains ↔
      (id = sourceId ∧ d ∈ domains) ∨ (id, d) ∈ db.sourceDomains := by
  induction domains generalizing db with
  | nil => simp [ownAll]
  | cons domain rest ih =>
      have one : (id, d) ∈ ((db.own sourceId domain).insertDomain list domain).sourceDomains ↔
          (id = sourceId ∧ d = domain) ∨ (id, d) ∈ db.sourceDomains := by
        change (id, d) ∈ insert (sourceId, domain) db.sourceDomains ↔ _
        simp
      rw [ownAll_cons, ih, one, List.mem_cons]
      tauto

theorem mem_ownAll_domains {list' : DomainList} {d : Str} :
    d ∈ ((db.ownAll sourceId list domains).domains list').values ↔
      (list' = list ∧ d ∈ domains) ∨ d ∈ (db.domains list').values := by
  induction domains generalizing db with
  | nil => simp [ownAll]
  | cons domain rest ih =>
      have one : d ∈ (((db.own sourceId domain).insertDomain list domain).domains
          list').values ↔ (list' = list ∧ d = domain) ∨ d ∈ (db.domains list').values :=
        @mem_insertDomain (db.own sourceId domain) _ _ _ _
      rw [ownAll_cons, ih, one, List.mem_cons]
      tauto

theorem ownAll_domains_of_ne {list' : DomainList} (ne : list' ≠ list) :
    (db.ownAll sourceId list domains).domains list' = db.domains list' := by
  induction domains generalizing db with
  | nil => rfl
  | cons domain rest ih =>
      rw [ownAll_cons, ih]
      exact setDomains_domains_of_ne ne _

end OwnAll

/-! ## The prune -/

theorem mem_prune {db : Db} {list : DomainList} {candidates : Finset Str} {d : Str} :
    d ∈ ((db.prune list candidates).domains list).values ↔
      d ∈ (db.domains list).values ∧
        ¬ (d ∈ candidates ∧ (∀ id, (id, d) ∉ db.sourceDomains) ∧
          (list, d) ∉ db.manualDomains) := by
  rw [prune, setDomains_domains_self, SqlTable.mem_values_deleteWhere, SqlTable.mem_values]
  simp

theorem prune_domains_of_ne {db : Db} {list list' : DomainList} (ne : list' ≠ list)
    (candidates : Finset Str) : (db.prune list candidates).domains list' = db.domains list' :=
  setDomains_domains_of_ne ne _

theorem mem_disown {db : Db} {sourceId id : Nat} {d : Str} :
    (id, d) ∈ (db.disown sourceId).sourceDomains ↔ id ≠ sourceId ∧ (id, d) ∈ db.sourceDomains := by
  simp [disown, and_comm]

/-! ## The two effects

Which rows there are after a refresh and after a deletion, table by table.  These lemmas are what
the other modules cite. -/

section Effects

variable {db : Db} {now : Str} {sourceId id : Nat} {list list' : DomainList}
variable {newList : List Str} {d : Str}

/-- After a refresh the source owns the new domains, and every other source what
it owned. -/
theorem mem_replaceOwned_sourceDomains :
    (id, d) ∈ (db.replaceOwned now sourceId list newList).sourceDomains ↔
      (id = sourceId ∧ d ∈ newList) ∨ (id ≠ sourceId ∧ (id, d) ∈ db.sourceDomains) := by
  change (id, d) ∈ ((db.disown sourceId).ownAll sourceId list newList).sourceDomains ↔ _
  rw [mem_ownAll_sourceDomains, mem_disown]

/-- A refresh lists the new domains and drops the old ones that are neither owned
nor manual any more. -/
theorem mem_replaceOwned_domains :
    d ∈ ((db.replaceOwned now sourceId list newList).domains list).values ↔
      d ∈ newList ∨ (d ∈ (db.domains list).values ∧
        ¬ ((sourceId, d) ∈ db.sourceDomains ∧
          (∀ id, id ≠ sourceId → (id, d) ∉ db.sourceDomains) ∧
          (list, d) ∉ db.manualDomains)) := by
  change d ∈ ((((db.disown sourceId).ownAll sourceId list newList).prune list
    (db.ownedBy sourceId)).domains list).values ↔ _
  rw [mem_prune, mem_ownAll_domains, mem_ownedBy, ownAll_manualDomains]
  simp only [mem_ownAll_sourceDomains, mem_disown]
  change (_ ∨ d ∈ (db.domains list).values) ∧ ¬ (_ ∧ _ ∧ (list, d) ∉ db.manualDomains) ↔ _
  by_cases new : d ∈ newList
  · simp only [new, and_true, true_or, iff_true, true_and, not_and]
    rintro - unowned
    exact absurd (Or.inl rfl) (unowned sourceId)
  · simp only [new, and_false, false_or, not_and]

theorem replaceOwned_domains_of_ne (ne : list' ≠ list) :
    (db.replaceOwned now sourceId list newList).domains list' = db.domains list' := by
  change (((db.disown sourceId).ownAll sourceId list newList).prune list
    (db.ownedBy sourceId)).domains list' = _
  rw [prune_domains_of_ne ne, ownAll_domains_of_ne ne]
  rfl

@[simp] theorem replaceOwned_manualDomains :
    (db.replaceOwned now sourceId list newList).manualDomains = db.manualDomains := by
  change ((db.disown sourceId).ownAll sourceId list newList).manualDomains = _
  rw [ownAll_manualDomains]
  rfl

/-- A refresh changes the status columns of the source's row only. -/
theorem replaceOwned_sources :
    (db.replaceOwned now sourceId list newList).sources =
      (db.updateSourceStatus now sourceId (okStatus newList.length)).sources := by
  have same : (((db.disown sourceId).ownAll sourceId list newList).prune list
      (db.ownedBy sourceId)).sources = db.sources := ownAll_sources
  rw [replaceOwned, updateSourceStatus, same]
  rfl

theorem mem_dropSource_domains :
    d ∈ ((db.dropSource sourceId list).domains list).values ↔
      d ∈ (db.domains list).values ∧
        ¬ ((sourceId, d) ∈ db.sourceDomains ∧
          (∀ id, id ≠ sourceId → (id, d) ∉ db.sourceDomains) ∧
          (list, d) ∉ db.manualDomains) := by
  rw [dropSource, mem_prune, mem_ownedBy]
  change d ∈ (db.domains list).values ∧ ¬ (_ ∧ (∀ id, (id, d) ∉
    (db.disown sourceId).sourceDomains) ∧ (list, d) ∉ db.manualDomains) ↔ _
  simp only [mem_disown, not_and]

theorem dropSource_domains_of_ne (ne : list' ≠ list) :
    (db.dropSource sourceId list).domains list' = db.domains list' :=
  prune_domains_of_ne ne _

theorem dropSource_sourceDomains :
    (db.dropSource sourceId list).sourceDomains = (db.disown sourceId).sourceDomains := rfl

end Effects

end Db

/-! ## The transactions have these effects

A refresh that succeeds has its effect, whatever the plan was; one whose calls all succeed and
whose content is accepted does succeed.  For a deletion some failures go unseen, and the cases are
listed. -/

theorem writeOwned_eq_ok {fails : Plan RefreshCall} {sourceId : Nat} {list : DomainList}
    {domains : List Str} {db db' : Db} (ok : writeOwned fails sourceId list domains db = .ok db') :
    db' = db.ownAll sourceId list domains := by
  induction domains generalizing db with
  | nil =>
      cases ok
      rfl
  | cons domain rest ih =>
      obtain ⟨-, ok⟩ := Plan.attempt_bind_eq_ok.mp ok
      obtain ⟨-, ok⟩ := Plan.attempt_bind_eq_ok.mp ok
      exact ih ok

@[simp] theorem writeOwned_clear (sourceId : Nat) (list : DomainList) (domains : List Str)
    (db : Db) :
    writeOwned .clear sourceId list domains db = .ok (db.ownAll sourceId list domains) := by
  induction domains generalizing db with
  | nil => rfl
  | cons domain rest ih => exact ih _

/-- **A successful refresh** read at least ten domains, passed the shrink guard,
and had the effect `replaceOwned`. -/
theorem replaceSourceDomains_eq_ok {fails : Plan RefreshCall} {now content : Str} {db db' : Db}
    {sourceId n : Nat} {list : DomainList}
    (ok : replaceSourceDomains fails now db sourceId list content = .ok (n, db')) :
    ∃ newList, parseSourceDomains content = .ok newList ∧ n = newList.length ∧
      db' = db.replaceOwned now sourceId list newList := by
  obtain ⟨-, ok⟩ := Plan.attempt_bind_eq_ok.mp ok
  cases parsed : parseSourceDomains content with
  | error error =>
      rw [parsed] at ok
      cases ok
  | ok newList =>
      rw [parsed] at ok
      obtain ⟨-, ok⟩ := Plan.attempt_bind_eq_ok.mp ok
      simp only at ok
      split at ok
      next =>
        iterate 5 obtain ⟨-, ok⟩ := Plan.attempt_bind_eq_ok.mp ok
        obtain ⟨-, ok⟩ := Plan.attempt_bind_eq_ok.mp ok
        cases wrote : writeOwned fails sourceId list newList (db.disown sourceId) with
        | error error =>
            rw [wrote] at ok
            cases ok
        | ok written =>
            rw [wrote] at ok
            iterate 3 obtain ⟨-, ok⟩ := Plan.attempt_bind_eq_ok.mp ok
            rw [writeOwned_eq_ok wrote] at ok
            cases ok
            exact ⟨newList, rfl, rfl, rfl⟩
      next => cases ok

/-- A refresh whose calls succeed and whose content is accepted succeeds. -/
theorem replaceSourceDomains_clear {now content : Str} {db : Db} {sourceId : Nat}
    {list : DomainList} {newList : List Str}
    (parsed : parseSourceDomains content = .ok newList)
    (kept : retains (db.ownedBy sourceId).card newList.length = true) :
    replaceSourceDomains .clear now db sourceId list content =
      .ok (newList.length, db.replaceOwned now sourceId list newList) := by
  simp only [replaceSourceDomains, Plan.attempt_clear, parsed, writeOwned_clear,
    Plan.ok_bind, kept, if_true]
  rfl

/-- **What a deletion can do**, whatever calls fail: nothing, or the source goes with its
ownership rows, and then a prune takes what is no longer wanted, or it fails. -/
theorem deleteSourceWithCleanup_cases (fails : Plan DeleteSourceCall) (leftover : Finset Str)
    (db : Db) (id : Nat) :
    deleteSourceWithCleanup fails leftover db id = (db, none) ∨
      ∃ source db', db.sources.find? id = some source ∧
        deleteSourceWithCleanup fails leftover db id = (db', some source.listType) ∧
        (db' = (db.disown id).deleteSource id ∨
          ∃ candidates, db' =
            ((db.disown id).deleteSource id).prune (.ofType source.listType) candidates) := by
  unfold deleteSourceWithCleanup
  extract_lets failed owned deleted temp
  split
  · exact Or.inl rfl
  split
  next => exact Or.inl rfl
  next source found =>
    extract_lets list pruned
    split
    · exact Or.inl rfl
    refine Or.inr ⟨source, pruned, found, rfl, ?_⟩
    by_cases kept : failed .prune = true
    · exact Or.inl (if_pos kept)
    · exact Or.inr ⟨temp, if_neg kept⟩

/-- **A deletion whose calls succeed** has the effect `dropSource`. -/
theorem deleteSourceWithCleanup_clear {leftover : Finset Str} {db : Db} {id : Nat}
    {source : SourceRow} (found : db.sources.find? id = some source) :
    deleteSourceWithCleanup .clear leftover db id =
      (db.dropSource id (.ofType source.listType), some source.listType) := by
  simp [deleteSourceWithCleanup, Plan.clear, found, Db.dropSource]

/-! ## Which domains leave a list

The closed forms are read as a statement about single domains.  That an owner of the other list
counts is a consequence of there being no list in the rows of ownership. -/

/-- The lists after a refresh or a deletion of a source, relative to the sources
that `keep` what they own: a domain leaves the table exactly if the source gave
it up, it is not manual in the list, and no other source that keeps owns it; only
the new domains enter; the other list is untouched. -/
structure Pruned (keep : Nat → Prop) (db db' : Db) (list : DomainList) (sourceId : Nat)
    (newDomains : List Str) : Prop where
  removed : ∀ d ∈ (db.domains list).values, d ∉ (db'.domains list).values ↔
    (sourceId, d) ∈ db.sourceDomains ∧ (sourceId, d) ∉ db'.sourceDomains ∧
      (list, d) ∉ db.manualDomains ∧
      ∀ id, id ≠ sourceId → keep id → (id, d) ∉ db.sourceDomains
  added : ∀ d ∈ (db'.domains list).values, d ∉ (db.domains list).values → d ∈ newDomains
  other : ∀ list', list' ≠ list → db'.domains list' = db.domains list'

/-- A source whose `list_type` selects the list, by the row that is stored under its id. -/
def IsSourceOf (db : Db) (list : DomainList) (id : Nat) : Prop :=
  ∃ source, db.sources.find? id = some source ∧ DomainList.ofType source.listType = list

theorem pruned_replaceOwned (db : Db) (now : Str) (sourceId : Nat) (list : DomainList)
    (newList : List Str) :
    Pruned (fun _ => True) db (db.replaceOwned now sourceId list newList) list sourceId
      newList where
  removed := by
    intro d mem
    rw [Db.mem_replaceOwned_domains, Db.mem_replaceOwned_sourceDomains]
    by_cases new : d ∈ newList
    · simp [new]
    · simp only [new, mem, false_or, true_and, not_not, and_false, ne_eq, not_true_eq_false,
        false_and, or_self, not_false_eq_true, true_implies]
      tauto
  added := by
    intro d after before
    rcases Db.mem_replaceOwned_domains.mp after with new | ⟨old, -⟩
    · exact new
    · exact absurd old before
  other := fun _ ne => Db.replaceOwned_domains_of_ne ne

theorem pruned_dropSource (db : Db) (sourceId : Nat) (list : DomainList) :
    Pruned (fun _ => True) db (db.dropSource sourceId list) list sourceId [] where
  removed := by
    intro d mem
    rw [Db.mem_dropSource_domains, Db.dropSource_sourceDomains, Db.mem_disown]
    simp only [mem, true_and, not_not, ne_eq, not_true_eq_false, false_and,
      not_false_eq_true, true_implies]
    tauto
  added := by
    intro d after before
    exact absurd (Db.mem_dropSource_domains.mp after).1 before
  other := fun _ ne => Db.dropSource_domains_of_ne ne

/-- **Pruning.**  A successful refresh, and a deletion whose calls succeed, take a
domain out of the list exactly if the source gave it up, it is not manual there,
and no other source — of whichever list — owns it; they add the parsed domains
only, and leave the other list alone. -/
theorem pruned_of_refresh_and_deletion (db : Db) (sourceId : Nat) :
    (∀ fails now list content n db',
      replaceSourceDomains fails now db sourceId list content = .ok (n, db') →
        Pruned (fun _ => True) db db' list sourceId (contentDomains content)) ∧
    (∀ leftover source db', db.sources.find? sourceId = some source →
      deleteSourceWithCleanup .clear leftover db sourceId = (db', some source.listType) →
        Pruned (fun _ => True) db db' (.ofType source.listType) sourceId []) := by
  constructor
  · intro fails now list content n db' ok
    obtain ⟨newList, parsed, -, rfl⟩ := replaceSourceDomains_eq_ok ok
    have pruned := pruned_replaceOwned db now sourceId list newList
    exact ⟨pruned.removed,
      fun d after before => (mem_parseSourceDomains parsed).mp (pruned.added d after before),
      pruned.other⟩
  · intro leftover source db' found deleted
    rw [deleteSourceWithCleanup_clear found] at deleted
    cases deleted
    exact pruned_dropSource db sourceId _

/-- Two sources, one of each list, that own the same domain; it stands in both
lists. -/
def sharedDomain : Db :=
  let db := insertSource (insertSource {} "https://a".toList "blocklist".toList 24)
    "https://b".toList "allowlist".toList 24
  ((db.ownAll 1 .blocklist ["ads.example".toList]).ownAll 2 .allowlist ["ads.example".toList])

/-- A source of the other list does keep a domain in a list: deleting the one
blocklist source leaves the domain in the blocklist. -/
theorem not_pruned_per_list :
    sharedDomain.sources.find? 1 = some ⟨"https://a".toList, "blocklist".toList, 1, 24,
        none, none⟩ ∧
      ¬ Pruned (IsSourceOf sharedDomain .blocklist) sharedDomain
        (deleteSourceWithCleanup .clear ∅ sharedDomain 1).1 .blocklist 1 [] := by
  refine ⟨by decide, fun pruned => ?_⟩
  have stays : "ads.example".toList ∈
      ((deleteSourceWithCleanup .clear ∅ sharedDomain 1).1.domains .blocklist).values := by
    decide
  refine (pruned.removed _ (by decide)).mpr ⟨by decide, by decide, by decide, ?_⟩ stays
  rintro id ne ⟨source, found, kind⟩ owned
  have second : id = 2 := by
    have rows : (id, "ads.example".toList) ∈
        ({(2, "ads.example".toList), (1, "ads.example".toList)} : Finset (Nat × Str)) := owned
    simpa [ne] using rows
  subst second
  have row : sharedDomain.sources.find? 2 =
      some ⟨"https://b".toList, "allowlist".toList, 1, 24, none, none⟩ := by decide
  rw [row] at found
  cases found
  revert kind
  decide

/-- The shortest content a refresh accepts: ten domains. -/
def tenDomains : Str := "a0\na1\na2\na3\na4\na5\na6\na7\na8\nb9".toList

theorem pruned_of_refresh_and_deletion_shared :
    (∃ db', deleteSourceWithCleanup .clear ∅ sharedDomain 1 = (db', some "blocklist".toList) ∧
      Pruned (fun _ => True) sharedDomain db' .blocklist 1 []) ∧
    ∃ db', replaceSourceDomains .clear "now".toList sharedDomain 1 .blocklist tenDomains =
        .ok (10, db') ∧
      Pruned (fun _ => True) sharedDomain db' .blocklist 1 (contentDomains tenDomains) := by
  constructor
  · refine ⟨_, rfl, ?_⟩
    exact (pruned_of_refresh_and_deletion sharedDomain 1).2 ∅
      ⟨"https://a".toList, "blocklist".toList, 1, 24, none, none⟩ _ (by decide) rfl
  · have parsed : parseSourceDomains tenDomains = .ok (["a0", "a1", "a2", "a3", "a4", "a5",
        "a6", "a7", "a8", "b9"].map String.toList) := by decide +kernel
    have refreshed := @replaceSourceDomains_clear "now".toList _ sharedDomain 1 .blocklist
      _ parsed (by decide)
    exact ⟨_, refreshed, (pruned_of_refresh_and_deletion sharedDomain 1).1 _ _ _ _ _ _ refreshed⟩

end RustBlocker
