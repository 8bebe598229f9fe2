import RustBlocker.Database
import RustBlocker.Library.SqlQuery

/-!
# Searching a list

`count_domains` and `search_domains`, the pages of a list that the API shows.

The text of the user becomes the pattern `%text%` without an escape, and `_` is a letter of listed
names.  Paging is exact: the order is total, a domain stands once in a table, and so the pages
joined are the sorted rows that match.  Which rows match is another matter.  `search_exact_iff`
says that a search is exact exactly if no stored domain has a part that merely *reads* as the
text, with its `_` and `%` taken as wildcards, without having the text itself as a part.

Two readings of a search are compared.  `Contains` is what a user means: the text stands somewhere
in the domain, whatever the case of its letters.  `ReadsAs` is what the query asks, and it is the
weaker one, so that a search never misses a row and may show too many.  That it is strictly weaker
for some list, unless the text has neither `_` nor `%`, is shown by a domain that reads as the
text and is not it, made by putting a letter in the place of each wildcard (`standIn`).

The matcher is that of SQLite without its limits, as `RustBlocker.Library.SqlQuery` has it: a text
with U+0000, or a pattern of more than 50000 bytes, is treated as any other.  The pages are those
of a table that does not change while they are read.
-/

namespace RustBlocker

/-- `DbDomain` -/
structure DbDomain where
  id : Nat
  domain : Str
deriving DecidableEq, Repr

/-- The calls of `search_domains`. -/
inductive SearchCall where
  | connection
  | prepare
  | query
  | row (id : Nat)
deriving DecidableEq

/-- `count_domains` -/
def countDomains (fails : Plan SearchCall) (table : DomainTable) : Except DbError Nat := do
  fails.attempt .connection .pool
  fails.attempt .query .sql
  return table.rows.length

/-- `format!("%{}%", search)` -/
def searchPattern (search : Str) : Str := '%' :: (search ++ ['%'])

/-- The rows the `WHERE` clause takes; there is none for an empty search. -/
def matchingRows (table : DomainTable) (search : Str) : List (Nat × Str) :=
  if search.isEmpty then table.rows
  else table.rows.filter fun row => SqlQuery.like (searchPattern search) row.2

/-- `search_domains`; a row that cannot be read is left out. -/
def searchDomains (fails : Plan SearchCall) (table : DomainTable) (search : Str)
    (limit offset : Int) : Except DbError (List DbDomain) := do
  fails.attempt .connection .pool
  fails.attempt .prepare .sql
  fails.attempt .query .sql
  let rows := SqlQuery.page limit offset (Str.sortBy Prod.snd (matchingRows table search))
  return (rows.filter fun row => (fails (.row row.1)).isNone).map fun row => ⟨row.1, row.2⟩

/-! ## What a search should give -/

/-- The domain has the text as a part, up to the case of ASCII letters. -/
def Contains (search domain : Str) : Prop :=
  search.toAsciiLowercase <:+: domain.toAsciiLowercase

instance (search domain : Str) : Decidable (Contains search domain) :=
  inferInstanceAs (Decidable (_ <:+: _))

/-- The domain has a part that reads as the text, with `_` for any character and `%` for any run
of them.  This is what `LIKE` decides. -/
def ReadsAs (search domain : Str) : Prop :=
  ∃ before here after, domain = before ++ (here ++ after) ∧ SqlQuery.Reads search here

/-- The rows of the domains that have the text as a part, sorted by domain, each
domain once. -/
structure Listing (table : DomainTable) (search : Str) (rows : List DbDomain) : Prop where
  sorted : rows.Pairwise fun row row' =>
    Str.Before row.domain row'.domain ∧ row.domain ≠ row'.domain
  rows : ∀ id domain, (⟨id, domain⟩ : DbDomain) ∈ rows ↔
    (id, domain) ∈ table.rows ∧ Contains search domain

/-- The pages of `n` rows, from the first one up to the first empty one, joined. -/
def PagesGive (table : DomainTable) (search : Str) (n : Nat) (rows : List DbDomain) : Prop :=
  ∃ pages : Nat → List DbDomain,
    (∀ k, searchDomains .clear table search n (k * n : Nat) = .ok (pages k)) ∧
    SqlQuery.ReadsThrough pages rows

/-- **A search is exact**: its pages joined are the rows it should give, sorted, and each once. -/
def ExactSearch (table : DomainTable) (search : Str) (n : Nat) : Prop :=
  ∃ rows, PagesGive table search n rows ∧ Listing table search rows

/-! ## What a search gives

A search is a `LIKE` of a pattern around the text, so what it shows depends on how a pattern reads
a text.  The pages are cut out of one strict order, and joined they are its rows. -/

section Search

variable {table : DomainTable} {search : Str} {n : Nat}

/-- The rows a search goes through, in its order. -/
def searchOrder (table : DomainTable) (search : Str) : List DbDomain :=
  (Str.sortBy Prod.snd (matchingRows table search)).map fun row => ⟨row.1, row.2⟩

theorem matchingRows_sublist : (matchingRows table search).Sublist table.rows := by
  unfold matchingRows
  split
  · exact List.Sublist.refl _
  · exact List.filter_sublist

/-- The `WHERE` clause takes the domains that read as the text; an empty text is read
everywhere. -/
theorem mem_matchingRows {row : Nat × Str} :
    row ∈ matchingRows table search ↔ row ∈ table.rows ∧ ReadsAs search row.2 := by
  unfold matchingRows
  split
  next empty =>
    rw [List.isEmpty_iff] at empty
    subst empty
    have everywhere : ReadsAs [] row.2 := ⟨[], [], row.2, rfl, .nil⟩
    exact ⟨fun mem => ⟨mem, everywhere⟩, And.left⟩
  next =>
    rw [List.mem_filter, SqlQuery.like_iff, searchPattern, SqlQuery.contains_iff]
    rfl

theorem mem_searchOrder {id : Nat} {domain : Str} :
    (⟨id, domain⟩ : DbDomain) ∈ searchOrder table search ↔
      (id, domain) ∈ table.rows ∧ ReadsAs search domain := by
  have order := (Str.sortBy_perm Prod.snd (matchingRows table search)).mem_iff (a := (id, domain))
  rw [searchOrder, List.mem_map]
  constructor
  · rintro ⟨row, mem, same⟩
    cases same
    exact mem_matchingRows.mp (order.mp mem)
  · intro matched
    exact ⟨(id, domain), order.mpr (mem_matchingRows.mpr matched), rfl⟩

/-- The order is strict, as a table has each domain once. -/
theorem searchOrder_sorted (table : DomainTable) (search : Str) :
    (searchOrder table search).Pairwise fun row row' =>
      Str.Before row.domain row'.domain ∧ row.domain ≠ row'.domain := by
  have once : ((Str.sortBy Prod.snd (matchingRows table search)).map Prod.snd).Nodup := by
    have all : (table.rows.map Prod.snd).Nodup := SqlTable.nodup_values table
    have distinct : ((matchingRows table search).map Prod.snd).Nodup :=
      (matchingRows_sublist.map Prod.snd).nodup all
    exact ((Str.sortBy_perm Prod.snd _).map Prod.snd).nodup_iff.mpr distinct
  rw [searchOrder, List.pairwise_map]
  exact (Str.sortBy_pairwise Prod.snd _).and (List.pairwise_map.mp once)

/-- A page of a search is a page of its order. -/
theorem searchDomains_clear (table : DomainTable) (search : Str) (n k : Nat) :
    searchDomains .clear table search n (k * n : Nat) =
      .ok (SqlQuery.page n (k * n : Nat) (searchOrder table search)) := by
  simp only [searchDomains, Plan.attempt_clear, Plan.ok_bind, SqlQuery.page_natCast, Plan.clear,
    Option.isNone_none, List.filter_true, searchOrder, List.map_take, List.map_drop]
  rfl

/-- **The pages of a search, joined, are its rows in their order**, whatever the size
of a page. -/
theorem pagesGive_iff (positive : 0 < n) {rows : List DbDomain} :
    PagesGive table search n rows ↔ rows = searchOrder table search := by
  have through := SqlQuery.pages_flatten positive (searchOrder table search)
  constructor
  · rintro ⟨pages, answers, reads⟩
    have same : pages = fun k => SqlQuery.page n (k * n : Nat) (searchOrder table search) := by
      funext k
      exact Except.ok.inj ((answers k).symm.trans (searchDomains_clear table search n k))
    rw [same] at reads
    exact reads.unique through
  · rintro rfl
    exact ⟨_, searchDomains_clear table search n, through⟩

/-- **The total beside the pages** is how many rows the pages of the empty text give. -/
theorem countDomains_of_pagesGive (positive : 0 < n) {rows : List DbDomain}
    (gives : PagesGive table [] n rows) : countDomains .clear table = .ok rows.length := by
  obtain rfl := (pagesGive_iff positive).mp gives
  have length : (searchOrder table []).length = table.rows.length := by
    rw [searchOrder, List.length_map]
    exact (Str.sortBy_perm Prod.snd table.rows).length_eq
  rw [countDomains, length]
  simp only [Plan.attempt_clear, Plan.ok_bind]
  rfl

theorem forall₂_sameLetter {s t : Str} :
    List.Forall₂ SqlQuery.SameLetter s t ↔ s.toAsciiLowercase = t.toAsciiLowercase := by
  rw [Str.toAsciiLowercase, Str.toAsciiLowercase, ← List.forall₂_eq_eq_eq,
    List.forall₂_map_left_iff, List.forall₂_map_right_iff]
  rfl

theorem contains_iff_part {domain : Str} : Contains search domain ↔
    ∃ before here after, domain = before ++ (here ++ after) ∧
      List.Forall₂ SqlQuery.SameLetter search here := by
  constructor
  · rintro ⟨before, after, whole⟩
    rw [Str.toAsciiLowercase, Str.toAsciiLowercase, List.append_assoc] at whole
    obtain ⟨before, rest, rfl, -, ends⟩ := List.map_eq_append_iff.mp whole.symm
    obtain ⟨here, after, rfl, same, -⟩ := List.map_eq_append_iff.mp ends
    exact ⟨before, here, after, rfl, forall₂_sameLetter.mpr same.symm⟩
  · rintro ⟨before, here, after, rfl, same⟩
    refine ⟨before.toAsciiLowercase, after.toAsciiLowercase, ?_⟩
    rw [forall₂_sameLetter.mp same]
    simp [Str.toAsciiLowercase]

theorem Contains.readsAs {domain : Str} (contains : Contains search domain) :
    ReadsAs search domain := by
  obtain ⟨before, here, after, parts, same⟩ := contains_iff_part.mp contains
  exact ⟨before, here, after, parts, SqlQuery.reads_of_forall₂ same⟩

/-- A text without `_` and `%` reads as nothing but itself. -/
theorem contains_of_readsAs {domain : Str} (plain : ∀ c ∈ search, SqlQuery.isWild c = false)
    (reads : ReadsAs search domain) : Contains search domain := by
  obtain ⟨before, here, after, parts, same⟩ := reads
  exact contains_iff_part.mpr
    ⟨before, here, after, parts, (SqlQuery.reads_iff_of_plain plain).mp same⟩

/-- A search is exact if every stored domain with a part that reads as the text has the
text itself as a part. -/
theorem exactSearch_iff (positive : 0 < n) :
    ExactSearch table search n ↔
      ∀ domain ∈ table.values, ReadsAs search domain → Contains search domain := by
  constructor
  · rintro ⟨rows, gives, listing⟩ domain mem reads
    rw [pagesGive_iff positive] at gives
    obtain ⟨id, row⟩ := SqlTable.mem_values.mp mem
    have found := mem_searchOrder.mpr ⟨row, reads⟩
    rw [← gives] at found
    exact ((listing.rows id domain).mp found).2
  · intro literal
    refine ⟨searchOrder table search, (pagesGive_iff positive).mpr rfl,
      searchOrder_sorted table search, fun id domain => ?_⟩
    rw [mem_searchOrder]
    refine and_congr_right fun row => ⟨fun reads => ?_, Contains.readsAs⟩
    exact literal domain (SqlTable.mem_values.mpr ⟨id, row⟩) reads

end Search

/-! ## Texts that are safe to search for

The two wildcards of `LIKE` are what makes a search show too much.  A stored domain that reads as
the text, with some character in the place of a wildcard, is an example of it, and `standIn`
provides one. -/

/-- A character that reads as the given one and is no wildcard. -/
def standIn (c : Char) : Char := if SqlQuery.isWild c then 'a' else c

theorem reads_standIn (search : Str) : SqlQuery.Reads search (search.map standIn) := by
  induction search with
  | nil => exact .nil
  | cons c rest ih =>
      rw [List.map_cons]
      by_cases run : c = '%'
      · subst run
        exact .run [_] ih
      · by_cases one : c = '_'
        · subst one
          exact .one _ ih
        · have plain : SqlQuery.isWild c = false := by simp [SqlQuery.isWild, run, one]
          have kept : standIn c = c := by simp [standIn, plain]
          rw [kept]
          exact .letter plain rfl ih

/-- No letter is a wildcard in another case. -/
theorem isWild_toLower (c : Char) : SqlQuery.isWild c.toLower = SqlQuery.isWild c :=
  Str.toLower_keeps (by decide +kernel) c

/-- **What a search shows is exact**, with pages of any size, exactly if every stored
domain with a part that reads as the text has the text itself as a part; and this holds
of every list exactly if the text has neither `_` nor `%`. -/
theorem search_exact_iff (search : Str) :
    (∀ table n, 0 < n → (ExactSearch table search n ↔
      ∀ domain ∈ table.values, ReadsAs search domain → Contains search domain)) ∧
    ((∀ table n, 0 < n → ExactSearch table search n) ↔
      ∀ c ∈ search, SqlQuery.isWild c = false) := by
  refine ⟨fun table n positive => exactSearch_iff positive, ?_⟩
  constructor
  · intro exact c mem
    have stored : search.map standIn ∈
        (SqlTable.empty.insertOrIgnore (search.map standIn) : DomainTable).values :=
      SqlTable.mem_values_insertOrIgnore.mpr (Or.inl rfl)
    have whole : ReadsAs search (search.map standIn) :=
      ⟨[], search.map standIn, [], by simp, reads_standIn search⟩
    have contains := (exactSearch_iff (by decide)).mp (exact _ 1 (by decide)) _ stored whole
    -- A wildcard of the text would be a letter of its stand-in.
    have letter : c.toLower ∈ Str.toAsciiLowercase (search.map standIn) :=
      contains.subset (List.mem_map_of_mem mem)
    rw [Str.toAsciiLowercase, List.mem_map] at letter
    obtain ⟨d, inside, same⟩ := letter
    obtain ⟨c', -, rfl⟩ := List.mem_map.mp inside
    rw [← isWild_toLower, ← same, isWild_toLower, standIn]
    split
    next => rfl
    next plain => exact Bool.eq_false_iff.mpr plain
  · intro plain table n positive
    exact (exactSearch_iff positive).mpr fun domain _ => contains_of_readsAs plain

/-- Two listed domains, only the first of which has the text of the search. -/
def twoAds : DomainTable :=
  (SqlTable.empty.insertOrIgnore "ads_1.example".toList).insertOrIgnore "ads21.example".toList

/-- The search for `ads_1` shows `ads21.example` as well. -/
theorem not_exact_underscore : ¬ ExactSearch twoAds "ads_1".toList 50 := by
  rintro ⟨rows, gives, listing⟩
  rw [pagesGive_iff (by decide)] at gives
  have shown : (⟨2, "ads21.example".toList⟩ : DbDomain) ∈ searchOrder twoAds "ads_1".toList := by
    decide +kernel
  rw [← gives] at shown
  have contains := ((listing.rows _ _).mp shown).2
  revert contains
  decide

end RustBlocker
