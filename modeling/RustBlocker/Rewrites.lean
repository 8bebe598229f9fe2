import RustBlocker.Database
import RustBlocker.IpAddr
import RustBlocker.Library.StateMachine

/-!
# Rewrite rules

The rewrite rules live twice: as rows of `rewrites`, and as a map from normalized names to parsed
addresses that answers the queries.  A request writes the table first and the map second.

* **The table** ignores a domain it has already.
* **The map** overwrites a name it has already.
* **A restart** loads the map from the rows, ordered by domain; of two rows with one name the
  later row wins.

`equal_iff_settled` says of every run of requests exactly when the map stays the one a restart
would load.

The two sides have different keys.  The table is unique in the domain as it was written, the map
in the normalized name, so that `Example.com` and `example.com` are two rows and one rule.  Of
such rows the one that is last by the order of the texts decides after a restart, and the one that
was added last decides before it; `Wins` is the first of these, and `RewriteSite.Settles` is the
condition on a single request under which the two are the same row.  It reads the state before the
request only.

Requests come one after the other here, with database calls that succeed.  Requests that overlap,
and calls that fail, are the subject of other modules; the divergence shown here needs neither.
-/

namespace RustBlocker

/-! ## The map

The map of the source is read by name only.  Two maps with the same rules are therefore the same,
and the order in which rules were inserted is forgotten. -/

/-- `RuntimeRewriteRule`: the addresses of a rule, parsed. -/
structure RuntimeRewriteRule where
  ipv4 : Option Ipv4Addr
  ipv6 : Option Ipv6Addr
deriving DecidableEq, Repr

/-- `from_config`: an address that does not parse is none. -/
def RuntimeRewriteRule.fromConfig (rule : RewriteRow) : RuntimeRewriteRule where
  ipv4 := rule.ipv4.bind IpAddr.parseIpv4
  ipv6 := rule.ipv6.bind IpAddr.parseIpv6

/-- `RewriteMap`: the rule of a normalized name.  The hash map of the source is read by name only,
so that it is the function it stands for. -/
@[ext] structure RewriteMap where
  rules : Str → Option RuntimeRewriteRule := fun _ => none

namespace RewriteMap

/-- `lookup` -/
def lookup (map : RewriteMap) (domain : Str) : Option RuntimeRewriteRule := map.rules domain

/-- `insert` -/
def insert (u : CaseTables) (map : RewriteMap) (rule : RewriteRow) : RewriteMap where
  rules := Function.update map.rules (normalizeDomain u rule.domain)
    (some (RuntimeRewriteRule.fromConfig rule))

/-- `remove` -/
def remove (u : CaseTables) (map : RewriteMap) (domain : Str) : RewriteMap where
  rules := Function.update map.rules (normalizeDomain u domain) none

/-- `load`: a later rule of a name replaces an earlier one. -/
def load (u : CaseTables) (rules : List RewriteRow) : RewriteMap := rules.foldl (insert u) {}

theorem ext_lookup {map map' : RewriteMap} (same : ∀ name, map.lookup name = map'.lookup name) :
    map = map' :=
  RewriteMap.ext (funext same)

theorem lookup_insert (u : CaseTables) (map : RewriteMap) (rule : RewriteRow) (name : Str) :
    (map.insert u rule).lookup name =
      if name = normalizeDomain u rule.domain then some (RuntimeRewriteRule.fromConfig rule)
      else map.lookup name :=
  Function.update_apply ..

theorem lookup_remove (u : CaseTables) (map : RewriteMap) (domain name : Str) :
    (map.remove u domain).lookup name =
      if name = normalizeDomain u domain then none else map.lookup name :=
  Function.update_apply ..

end RewriteMap

/-! ## The requests

A request writes the row first and then the map, and a start reads the rows.  `RewriteSite.Equal`
compares the map with the one that a start would make of the rows as they are. -/

/-- The calls of `add_rewrite`. -/
inductive AddRewriteCall where
  | connection
  | insert
deriving DecidableEq

/-- `db::add_rewrite`: the row id the connection reports, and the new database.
When the domain is there already the insert is ignored, and the id is the one of
an earlier insert of the connection, `lastRowid`. -/
def dbAddRewrite (u : CaseTables) (fails : Plan AddRewriteCall) (lastRowid : Nat) (db : Db)
    (domain : Str) (ipv4 ipv6 : Option Str) : Except DbError (Nat × Db) := do
  fails.attempt .connection .pool
  fails.attempt .insert .sql
  let row : RewriteRow := { domain := dbNormalize u domain, ipv4 := ipv4, ipv6 := ipv6 }
  return (if db.rewrites.clashes row then lastRowid else db.rewrites.seq + 1,
    { db with rewrites := db.rewrites.insertOrIgnore row })

/-- The calls of `delete_rewrite_by_id`. -/
inductive DeleteRewriteCall where
  | connection
  | select
  | delete
deriving DecidableEq

/-- `delete_rewrite_by_id`: the deleted row, if any. -/
def deleteRewriteById (fails : Plan DeleteRewriteCall) (db : Db) (id : Nat) :
    Db × Option RewriteRow :=
  if (fails .connection).isSome || (fails .select).isSome then (db, none)
  else
    match db.rewrites.find? id with
    | none => (db, none)
    | some row =>
        if (fails .delete).isSome then (db, none)
        else ({ db with rewrites := db.rewrites.deleteWhere fun r => r.1 == id }, some row)

/-- `load_rewrites_from_db`. -/
def loadRewritesFromDb (u : CaseTables) (db : Db) : RewriteMap :=
  RewriteMap.load u (Str.sortBy RewriteRow.domain db.rewrites.values)

/-- The database and the runtime map, the two places in which a rule lives, and which a start
makes one. -/
structure RewriteSite where
  db : Db
  rewrites : RewriteMap

/-- The handler `add_rewrite`: the database first, then the map. -/
def addRewrite (u : CaseTables) (fails : Plan AddRewriteCall) (lastRowid : Nat)
    (site : RewriteSite) (domain : Str) (ipv4 ipv6 : Option Str) :
    RewriteSite × Except DbError Nat :=
  match dbAddRewrite u fails lastRowid site.db domain ipv4 ipv6 with
  | .error error => (site, .error error)
  | .ok (id, db) =>
      ({ db := db
         rewrites := site.rewrites.insert u { domain := domain, ipv4 := ipv4, ipv6 := ipv6 } },
        .ok id)

/-- The handler `delete_rewrite`: the row is gone from both, or was not found. -/
def deleteRewrite (u : CaseTables) (fails : Plan DeleteRewriteCall) (site : RewriteSite)
    (id : Nat) : RewriteSite × Bool :=
  match deleteRewriteById fails site.db id with
  | (db, some row) =>
      ({ db := db, rewrites := site.rewrites.remove u row.domain }, true)
  | (db, none) => ({ site with db := db }, false)

/-- The requests that write rewrite rules. -/
inductive RewriteRequest where
  | add (domain : Str) (ipv4 ipv6 : Option Str)
  | delete (id : Nat)

/-- The rewrite requests one after another, with database calls that succeed. -/
def rewriteRequests (u : CaseTables) : StateMachine RewriteSite RewriteRequest where
  init site := site.rewrites = loadRewritesFromDb u site.db
  step site
    | .add domain ipv4 ipv6 => some (addRewrite u .clear 0 site domain ipv4 ipv6).1
    | .delete id => some (deleteRewrite u .clear site id).1

/-- The map is the one a restart would load.  It is compared as a function of the name, which is
all that a query sees of it. -/
def RewriteSite.Equal (u : CaseTables) (site : RewriteSite) : Prop :=
  site.rewrites = loadRewritesFromDb u site.db

/-! ## What a load finds

A load goes through the rows in the order of their domains and inserts each under its normalized
name, so that of several rows of one name the last one wins.  `Wins` is this row, and everything
later is said with it. -/

section Load

variable (u : CaseTables)

/-- The row that decides the rule of a name: the last one by domain.  Domains are unique in the
table, so there is at most one. -/
structure Wins (rows : List RewriteRow) (name : Str) (row : RewriteRow) : Prop where
  mem : row ∈ rows
  named : normalizeDomain u row.domain = name
  last : ∀ row' ∈ rows, normalizeDomain u row'.domain = name → Str.Before row'.domain row.domain

variable {u}

theorem wins_congr {rows rows' : List RewriteRow} (same : ∀ row, row ∈ rows ↔ row ∈ rows')
    {name : Str} {row : RewriteRow} : Wins u rows name row ↔ Wins u rows' name row := by
  constructor
  · rintro ⟨mem, named, last⟩
    exact ⟨(same row).mp mem, named, fun row' here => last row' ((same row').mpr here)⟩
  · rintro ⟨mem, named, last⟩
    exact ⟨(same row).mpr mem, named, fun row' here => last row' ((same row').mp here)⟩

/-- A row of another name decides nothing. -/
theorem wins_append_of_ne {rows : List RewriteRow} {name : Str} {row new : RewriteRow}
    (other : normalizeDomain u new.domain ≠ name) :
    Wins u (rows ++ [new]) name row ↔ Wins u rows name row := by
  constructor
  · rintro ⟨mem, named, last⟩
    refine ⟨?_, named, fun row' here => last row' (List.mem_append_left _ here)⟩
    rcases List.mem_append.mp mem with old | here
    · exact old
    · rw [List.mem_singleton.mp here] at named
      exact absurd named other
  · rintro ⟨mem, named, last⟩
    refine ⟨List.mem_append_left _ mem, named, fun row' here named' => ?_⟩
    rcases List.mem_append.mp here with old | new'
    · exact last row' old named'
    · rw [List.mem_singleton.mp new'] at named'
      exact absurd named' other

/-- Strings that come before each other are one. -/
theorem before_antisymm {s t : Str} (here : Str.Before s t) (there : Str.Before t s) : s = t :=
  Str.utf8_injective (List.le_antisymm here there)

theorem before_refl (s : Str) : Str.Before s s := List.le_refl s.utf8

/-- **What a load of ordered rows finds** under a name is the rule of the last row of
that name. -/
theorem lookup_load {rows : List RewriteRow}
    (order : rows.Pairwise fun row row' => Str.Before row.domain row'.domain)
    (apart : (rows.map RewriteRow.domain).Nodup) (name : Str) (rule : RuntimeRewriteRule) :
    (RewriteMap.load u rows).lookup name = some rule ↔
      ∃ row, Wins u rows name row ∧ RuntimeRewriteRule.fromConfig row = rule := by
  induction rows using List.reverseRecOn with
  | nil =>
      constructor
      · intro found
        cases found
      · rintro ⟨row, wins, -⟩
        cases wins.mem
  | append_singleton rows new ih =>
      rw [List.map_append, List.nodup_append] at apart
      obtain ⟨order, -, late⟩ := List.pairwise_append.mp order
      have late : ∀ row ∈ rows, Str.Before row.domain new.domain :=
        fun row mem => late row mem new List.mem_cons_self
      have step : RewriteMap.load u (rows ++ [new]) = (RewriteMap.load u rows).insert u new :=
        List.foldl_append
      rw [step, RewriteMap.lookup_insert]
      by_cases here : name = normalizeDomain u new.domain
      · rw [if_pos here]
        constructor
        · intro found
          refine ⟨new, ⟨List.mem_append_right _ List.mem_cons_self, here.symm, ?_⟩,
            Option.some.inj found⟩
          intro row mem _
          rcases List.mem_append.mp mem with old | same
          · exact late row old
          · rw [List.mem_singleton.mp same]
            exact before_refl new.domain
        · rintro ⟨row, wins, rfl⟩
          have after := wins.last new (List.mem_append_right _ List.mem_cons_self) here.symm
          rcases List.mem_append.mp wins.mem with old | same
          · -- a second row of the domain of the new one
            have twice := before_antisymm (late row old) after
            exact absurd twice (apart.2.2 _ (List.mem_map_of_mem old) _ List.mem_cons_self)
          · rw [List.mem_singleton.mp same]
      · rw [if_neg here]
        refine (ih order apart.1).trans (exists_congr fun row => and_congr_left fun _ => ?_)
        exact (wins_append_of_ne (fun same => here same.symm)).symm

variable {db : Db}

/-- The rule of a name after a restart. -/
theorem lookup_loadRewrites (name : Str) (rule : RuntimeRewriteRule) :
    (loadRewritesFromDb u db).lookup name = some rule ↔
      ∃ row, Wins u db.rewrites.values name row ∧ RuntimeRewriteRule.fromConfig row = rule := by
  have perm := Str.sortBy_perm RewriteRow.domain db.rewrites.values
  have apart : (db.rewrites.values.map RewriteRow.domain).Nodup := by
    refine List.pairwise_map.mpr (List.pairwise_map.mpr (db.rewrites.unique.imp ?_))
    intro row row' apart same
    exact apart row.2.domain rfl (congrArg some same.symm)
  refine (lookup_load (Str.sortBy_pairwise _ _) ((perm.map _).nodup_iff.mpr apart) name
    rule).trans (exists_congr fun row => and_congr_left fun _ => ?_)
  exact wins_congr fun row => perm.mem_iff

/-- Among finitely many rows of a name one is last. -/
theorem exists_wins {rows : List RewriteRow} {name : Str} {row : RewriteRow} (mem : row ∈ rows)
    (named : normalizeDomain u row.domain = name) : ∃ row', Wins u rows name row' := by
  induction rows generalizing row with
  | nil => cases mem
  | cons first rest ih =>
      by_cases more : ∃ row' ∈ rest, normalizeDomain u row'.domain = name
      · obtain ⟨row', here, named'⟩ := more
        obtain ⟨best, wins⟩ := ih here named'
        by_cases better : normalizeDomain u first.domain = name ∧
            ¬ Str.Before first.domain best.domain
        · -- the first row comes after the best of the rest
          have after := (List.le_total first.domain.utf8 best.domain.utf8).resolve_left better.2
          refine ⟨first, List.mem_cons_self, better.1, fun r inside named'' => ?_⟩
          rcases List.mem_cons.mp inside with rfl | later
          · exact before_refl _
          · exact List.le_trans (wins.last r later named'') after
        · refine ⟨best, List.mem_cons_of_mem _ wins.mem, wins.named, fun r inside named'' => ?_⟩
          rcases List.mem_cons.mp inside with rfl | later
          · exact not_not.mp fun apart => better ⟨named'', apart⟩
          · exact wins.last r later named''
      · rcases List.mem_cons.mp mem with rfl | later
        · refine ⟨row, List.mem_cons_self, named, fun r inside named' => ?_⟩
          rcases List.mem_cons.mp inside with rfl | later
          · exact before_refl _
          · exact absurd ⟨r, later, named'⟩ more
        · exact absurd ⟨row, later, named⟩ more

/-- A name without a row has no rule after a restart. -/
theorem lookup_loadRewrites_eq_none (name : Str) :
    (loadRewritesFromDb u db).lookup name = none ↔
      ∀ row ∈ db.rewrites.values, normalizeDomain u row.domain ≠ name := by
  rw [Option.eq_none_iff_forall_ne_some]
  constructor
  · intro absent row mem named
    obtain ⟨best, wins⟩ := exists_wins mem named
    exact absent _ ((lookup_loadRewrites name _).mpr ⟨best, wins, rfl⟩)
  · intro unnamed rule found
    obtain ⟨row, wins, -⟩ := (lookup_loadRewrites name rule).mp found
    exact unnamed row wins.mem wins.named

/-! ## One request

An add that meets an old row leaves the table alone and writes the map all the same; a delete
takes the rule of the map away, also if another row of its name is left.  `RewriteSite.Settles`
says when neither does harm. -/

/-- A row of the domain is stored. -/
def Db.StoresRewrite (db : Db) (domain : Str) : Prop :=
  ∃ row ∈ db.rewrites.values, row.domain = domain

variable (u) in
/-- A row of the name comes after the domain. -/
def Db.RewriteAfter (db : Db) (name domain : Str) : Prop :=
  ∃ row ∈ db.rewrites.values,
    normalizeDomain u row.domain = name ∧ ¬ Str.Before row.domain domain

instance (name domain : Str) : Decidable (db.RewriteAfter u name domain) := by
  unfold Db.RewriteAfter
  infer_instance

theorem clashes_rewrite {row : RewriteRow} :
    db.rewrites.clashes row = true ↔ db.StoresRewrite row.domain := by
  rw [SqlTable.clashes_eq_true]
  constructor
  · rintro ⟨row', mem, k, here, there⟩
    exact ⟨row', mem, Option.some.inj (here.trans there.symm)⟩
  · rintro ⟨row', mem, same⟩
    exact ⟨row', mem, row.domain, congrArg some same, rfl⟩

/-- The database after an add. -/
def Db.addedRewrite (db : Db) (row : RewriteRow) : Db :=
  { db with rewrites := db.rewrites.insertOrIgnore row }

/-- The database after a delete. -/
def Db.deletedRewrite (db : Db) (id : Nat) : Db :=
  { db with rewrites := db.rewrites.deleteWhere fun r => r.1 == id }

theorem values_addedRewrite {row : RewriteRow} (fresh : ¬ db.StoresRewrite row.domain) :
    (db.addedRewrite row).rewrites.values = db.rewrites.values ++ [row] :=
  SqlTable.values_insertOrIgnore_of_not_clashes
    (Bool.eq_false_iff.mpr fun clash => fresh (clashes_rewrite.mp clash))

/-- **A new row decides its name** unless a row of that name comes after it. -/
theorem lookup_addedRewrite {row : RewriteRow} (fresh : ¬ db.StoresRewrite row.domain)
    (name : Str) :
    (loadRewritesFromDb u (db.addedRewrite row)).lookup name =
      if name = normalizeDomain u row.domain ∧ ¬ db.RewriteAfter u name row.domain
      then some (RuntimeRewriteRule.fromConfig row)
      else (loadRewritesFromDb u db).lookup name := by
  split
  next new =>
    obtain ⟨rfl, last⟩ := new
    refine (lookup_loadRewrites _ _).mpr ⟨row, ⟨?_, rfl, ?_⟩, rfl⟩
    · rw [values_addedRewrite fresh]
      exact List.mem_append_right _ List.mem_cons_self
    · intro row' mem named
      rw [values_addedRewrite fresh] at mem
      rcases List.mem_append.mp mem with old | same
      · exact not_not.mp fun after => last ⟨row', old, named, after⟩
      · rw [List.mem_singleton.mp same]
        exact before_refl _
  next old =>
    refine Option.ext fun rule => (lookup_loadRewrites name rule).trans
      (Iff.trans (exists_congr fun row' => and_congr_left fun _ => ?_)
        (lookup_loadRewrites name rule).symm)
    rw [values_addedRewrite fresh]
    by_cases same : name = normalizeDomain u row.domain
    · obtain ⟨later, mem, named, after⟩ := not_not.mp fun last => old ⟨same, last⟩
      have before := (List.le_total later.domain.utf8 row.domain.utf8).resolve_left after
      constructor
      · rintro ⟨inside, named', last⟩
        refine ⟨?_, named', fun r here => last r (List.mem_append_left _ here)⟩
        rcases List.mem_append.mp inside with here | new
        · exact here
        · rw [List.mem_singleton.mp new] at last
          exact absurd (last later (List.mem_append_left _ mem) named) after
      · rintro ⟨inside, named', last⟩
        refine ⟨List.mem_append_left _ inside, named', fun r here named'' => ?_⟩
        rcases List.mem_append.mp here with old | new
        · exact last r old named''
        · rw [List.mem_singleton.mp new]
          exact List.le_trans before (last later mem named)
    · exact wins_append_of_ne fun named => same named.symm

theorem mem_deletedRewrite {id : Nat} {row row' : RewriteRow}
    (found : db.rewrites.find? id = some row) :
    row' ∈ (db.deletedRewrite id).rewrites.values ↔
      row' ∈ db.rewrites.values ∧ row'.domain ≠ row.domain := by
  have stored := SqlTable.find?_eq_some.mp found
  show row' ∈ (db.rewrites.deleteWhere _).values ↔ _
  rw [SqlTable.mem_values_deleteWhere]
  constructor
  · rintro ⟨id', mem, other⟩
    refine ⟨SqlTable.mem_values.mpr ⟨id', mem⟩, fun same => ?_⟩
    have one : (id', row') = (id, row) :=
      SqlTable.row_eq_of_key mem stored (congrArg some same) rfl
    exact beq_eq_false_iff_ne.mp other (congrArg Prod.fst one)
  · rintro ⟨mem, other⟩
    obtain ⟨id', here⟩ := SqlTable.mem_values.mp mem
    refine ⟨id', here, beq_eq_false_iff_ne.mpr ?_⟩
    rintro rfl
    rw [SqlTable.find?_eq_some.mpr here] at found
    exact other (congrArg RewriteRow.domain (Option.some.inj found))

/-- **A request that settles**: the state it leads to has the map of a restart again.

An add settles where the map has the rule already and the table does not bring in
another one, or where the name is new, is its own normal form, and no stored row of
the same name comes after it.  A delete settles where the row is the only one of its
name. -/
def RewriteSite.Settles (u : CaseTables) (site : RewriteSite) : RewriteRequest → Prop
  | .add domain ipv4 ipv6 =>
      let name := normalizeDomain u domain
      let rule := RuntimeRewriteRule.fromConfig { domain := domain, ipv4 := ipv4, ipv6 := ipv6 }
      (site.rewrites.lookup name = some rule ∧
          (site.db.StoresRewrite name ∨
            site.db.RewriteAfter u (normalizeDomain u name) name ∨
            site.rewrites.lookup (normalizeDomain u name) = some rule)) ∨
        (normalizeDomain u name = name ∧ ¬ site.db.StoresRewrite name ∧
          ¬ site.db.RewriteAfter u name name)
  | .delete id =>
      ∀ row, site.db.rewrites.find? id = some row → ∀ row' ∈ site.db.rewrites.values,
        normalizeDomain u row'.domain = normalizeDomain u row.domain → row'.domain = row.domain

/-- **An add** of a rule keeps the two sides equal exactly if it settles. -/
theorem equal_addRewrite_iff {site : RewriteSite} (equal : site.Equal u) (domain : Str)
    (ipv4 ipv6 : Option Str) :
    (addRewrite u .clear 0 site domain ipv4 ipv6).1.Equal u ↔
      site.Settles u (.add domain ipv4 ipv6) := by
  obtain ⟨db, map⟩ := site
  obtain rfl : map = loadRewritesFromDb u db := equal
  have stored : dbNormalize u domain = normalizeDomain u domain := dbNormalize_eq u domain
  show (loadRewritesFromDb u db).insert u ⟨domain, ipv4, ipv6⟩ =
    loadRewritesFromDb u (db.addedRewrite ⟨dbNormalize u domain, ipv4, ipv6⟩) ↔ _
  simp only [RewriteSite.Settles]
  rw [stored]
  -- the rule does not depend on the name
  have rule : RuntimeRewriteRule.fromConfig ⟨normalizeDomain u domain, ipv4, ipv6⟩ =
    RuntimeRewriteRule.fromConfig ⟨domain, ipv4, ipv6⟩ := rfl
  generalize named : normalizeDomain u domain = name at rule ⊢
  generalize given : RuntimeRewriteRule.fromConfig ⟨domain, ipv4, ipv6⟩ = wanted at rule ⊢
  have inserted : ∀ k, ((loadRewritesFromDb u db).insert u ⟨domain, ipv4, ipv6⟩).lookup k =
      if k = name then some wanted else (loadRewritesFromDb u db).lookup k := by
    intro k
    rw [RewriteMap.lookup_insert, given, named]
  by_cases here : db.StoresRewrite name
  · -- the insert is ignored
    have same : loadRewritesFromDb u (db.addedRewrite ⟨name, ipv4, ipv6⟩) =
        loadRewritesFromDb u db := by
      rw [Db.addedRewrite, SqlTable.insertOrIgnore_of_clashes (clashes_rewrite.mpr here)]
      rfl
    rw [same]
    constructor
    · intro equal
      refine Or.inl ⟨?_, Or.inl here⟩
      rw [← equal, inserted, if_pos rfl]
    · rintro (⟨already, -⟩ | ⟨-, fresh, -⟩)
      · refine RewriteMap.ext_lookup fun k => ?_
        rw [inserted]
        split
        next same => rw [same, already]
        next => rfl
      · exact absurd here fresh
  · have here : ¬ db.StoresRewrite (⟨name, ipv4, ipv6⟩ : RewriteRow).domain := here
    have added := lookup_addedRewrite (u := u) here
    rw [rule] at added
    constructor
    · intro equal
      have agree : ∀ k, (if k = name then some wanted else (loadRewritesFromDb u db).lookup k) =
          if k = normalizeDomain u name ∧ ¬ db.RewriteAfter u k name then some wanted
          else (loadRewritesFromDb u db).lookup k := by
        intro k
        rw [← inserted, equal, added]
      have atName := agree name
      have atNormal := agree (normalizeDomain u name)
      rw [if_pos rfl] at atName
      by_cases stable : normalizeDomain u name = name
      · by_cases after : db.RewriteAfter u name name
        · rw [if_neg fun both => both.2 after] at atName
          exact Or.inl ⟨atName.symm, Or.inr (Or.inl (by rwa [stable]))⟩
        · exact Or.inr ⟨stable, here, after⟩
      · rw [if_neg fun both => stable both.1.symm] at atName
        rw [if_neg stable] at atNormal
        refine Or.inl ⟨atName.symm, Or.inr ?_⟩
        by_cases after : db.RewriteAfter u (normalizeDomain u name) name
        · exact Or.inl after
        · rw [if_pos ⟨rfl, after⟩] at atNormal
          exact Or.inr atNormal
    · intro settles
      refine RewriteMap.ext_lookup fun k => ?_
      rw [inserted, added]
      rcases settles with ⟨already, stored | after | normal⟩ | ⟨stable, -, last⟩
      · exact absurd stored here
      · by_cases same : k = name
        · rw [if_pos same, same, already]
          split <;> rfl
        · rw [if_neg same, if_neg]
          rintro ⟨rfl, last⟩
          exact last after
      · by_cases same : k = name
        · rw [if_pos same, same, already]
          split <;> rfl
        · rw [if_neg same]
          split
          next both => rw [both.1, normal]
          next => rfl
      · rw [stable]
        by_cases same : k = name
        · subst same
          rw [if_pos rfl, if_pos ⟨rfl, last⟩]
        · rw [if_neg same, if_neg fun both => same both.1]

/-- **A delete** of a rule keeps the two sides equal exactly if it settles. -/
theorem equal_deleteRewrite_iff {site : RewriteSite} (equal : site.Equal u) (id : Nat) :
    (deleteRewrite u .clear site id).1.Equal u ↔ site.Settles u (.delete id) := by
  obtain ⟨db, map⟩ := site
  obtain rfl : map = loadRewritesFromDb u db := equal
  simp only [deleteRewrite, deleteRewriteById, RewriteSite.Settles]
  cases found : db.rewrites.find? id with
  | none => exact ⟨fun _ row impossible => (by cases impossible), fun _ => rfl⟩
  | some row =>
      show (loadRewritesFromDb u db).remove u row.domain =
        loadRewritesFromDb u (db.deletedRewrite id) ↔ _
      constructor
      · rintro equal _ ⟨⟩ row' mem named
        by_contra other
        have gone : (loadRewritesFromDb u (db.deletedRewrite id)).lookup
            (normalizeDomain u row.domain) = none := by
          rw [← equal, RewriteMap.lookup_remove, if_pos rfl]
        exact (lookup_loadRewrites_eq_none _).mp gone row'
          ((mem_deletedRewrite found).mpr ⟨mem, other⟩) named
      · intro alone
        refine RewriteMap.ext_lookup fun k => ?_
        rw [RewriteMap.lookup_remove]
        split
        next same =>
          refine ((lookup_loadRewrites_eq_none k).mpr fun row' mem named => ?_).symm
          obtain ⟨inside, other⟩ := (mem_deletedRewrite found).mp mem
          exact other (alone row rfl row' inside (named.trans same))
        next differ =>
          refine Option.ext fun rule => (lookup_loadRewrites k rule).trans
            (Iff.trans (exists_congr fun row' => and_congr_left fun _ => ?_)
              (lookup_loadRewrites k rule).symm)
          have kept : ∀ r ∈ db.rewrites.values, normalizeDomain u r.domain = k →
              r ∈ (db.deletedRewrite id).rewrites.values := by
            intro r mem named
            refine (mem_deletedRewrite found).mpr ⟨mem, fun same => differ ?_⟩
            rw [← named, same]
          constructor
          · rintro ⟨mem, named, last⟩
            exact ⟨kept row' mem named, named, fun r inside named' =>
              last r ((mem_deletedRewrite found).mp inside).1 named'⟩
          · rintro ⟨mem, named, last⟩
            exact ⟨((mem_deletedRewrite found).mp mem).1, named, fun r inside named' =>
              last r (kept r inside named') named'⟩

end Load

/-! ## Every run of requests

The step lemmas of the two requests are equivalences, so the result about runs is one too. -/

variable (u : CaseTables)

/-- **The map is the one of a restart in every state exactly if every request of the
run settles.** -/
theorem equal_iff_settled {site : RewriteSite} (started : (rewriteRequests u).init site)
    (requests : List RewriteRequest) :
    (rewriteRequests u).Always (RewriteSite.Equal u) site requests ↔
      (rewriteRequests u).StepsMeet (RewriteSite.Settles u) site requests := by
  have total : ∀ s a, ((rewriteRequests u).step s a).isSome := by
    intro s a
    cases a <;> rfl
  obtain ⟨t, run⟩ := Option.isSome_iff_exists.mp
    ((rewriteRequests u).exec_isSome total requests site)
  refine (rewriteRequests u).always_iff_stepsMeet (fun s a t equal step => ?_) started run
  cases a with
  | add domain ipv4 ipv6 =>
      cases step
      exact equal_addRewrite_iff equal domain ipv4 ipv6
  | delete id =>
      cases step
      exact equal_deleteRewrite_iff equal id

/-- One domain, added with one address and then with another. -/
def addedAgain : List RewriteRequest :=
  [.add "a.example".toList (some "192.0.2.1".toList) none,
    .add "a.example".toList (some "192.0.2.2".toList) none]

/-- The map then answers with the second address, and after a restart with the
first. -/
theorem not_equal_addedAgain :
    (rewriteRequests .ascii).init ⟨{}, {}⟩ ∧
      ∃ t, (rewriteRequests .ascii).exec ⟨{}, {}⟩ addedAgain = some t ∧ ¬ t.Equal .ascii := by
  refine ⟨rfl, ?_⟩
  have ends : ((rewriteRequests .ascii).exec ⟨{}, {}⟩ addedAgain).map (fun t =>
        (t.rewrites.lookup "a.example".toList,
          (loadRewritesFromDb .ascii t.db).lookup "a.example".toList)) =
      some (some ⟨some 0xC0000202#32, none⟩, some ⟨some 0xC0000201#32, none⟩) := by
    decide +kernel
  obtain ⟨t, run, ends⟩ := Option.map_eq_some_iff.mp ends
  refine ⟨t, run, fun equal => ?_⟩
  obtain ⟨here, there⟩ := Prod.mk.inj ends
  rw [equal, there] at here
  exact absurd here (by decide)

theorem equal_iff_settled_first_add :
    (rewriteRequests .ascii).Always (RewriteSite.Equal .ascii) ⟨{}, {}⟩
      [.add "A.example.".toList (some "192.0.2.1".toList) none] := by
  have started : (rewriteRequests .ascii).init ⟨{}, {}⟩ := rfl
  refine (equal_iff_settled .ascii started _).mpr
    ⟨Or.inr ⟨by decide +kernel, ?_, ?_⟩, fun _ _ => trivial⟩
  · rintro ⟨row, mem, -⟩
    cases mem
  · rintro ⟨row, mem, -⟩
    cases mem

end RustBlocker
