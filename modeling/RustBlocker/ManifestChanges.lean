import RustBlocker.Mirroring

/-!
# What a manifest can tell apart

A replica fetches a category when its digest changes, so a change that leaves the hashed text as
it was is never fetched.  The hashed text of a category joins the columns of each row by
separators, without escaping, and the columns of the rows are any text.

Whether two databases with other rows can have one text depends on the characters that occur in
the columns.  `detects_iff_unambiguous` gives, for each category, the alphabets over which the
text determines the rows:

* a list, over those without a line feed;
* the rewrites, over those without a line feed and without `|`;
* the sources, over those without `|` — the number that ends a line has no line feed in it, so a
  line feed in a column does no harm;
* the settings, over those without a line feed and without `=`;
* the upstreams, over those that lack `:`, or the line feed, or every digit a port can start with.

The question is about the text that is hashed and not about the hash; that SHA-256 keeps two texts
apart is assumed where digests are compared, and not here.

An alphabet is a set of characters, and the theorem is an equivalence for every one of them.  In
one direction the text is taken apart again, with the lemmas on joined and separated lists.  In
the other, two databases are built over the alphabet that have one text: a `Collision` is such a
pair, and there is one for each way in which an alphabet can be ambiguous.  The databases of a
collision are ones the API can produce (`Db.Storable`), so that the ambiguity is none of the
model's making.
-/

namespace RustBlocker

/-! ## Numbers as text -/

/-- The digits a positive number starts with. -/
def leadingDigits : List Char := "123456789".toList

/-- A positive number starts with a leading digit. -/
theorem decimal_eq_cons {n : Nat} (pos : 0 < n) :
    ∃ c rest, decimal n = c :: rest ∧ c ∈ leadingDigits := by
  induction n using Nat.strong_induction_on with
  | _ n ih =>
      by_cases small : n < 10
      · have each : ∀ m, 0 < m → m < 10 → ∃ c, decimal m = [c] ∧ c ∈ leadingDigits := by
          intro m positive bound
          interval_cases m <;> exact ⟨_, rfl, by decide⟩
        obtain ⟨c, text, mem⟩ := each n pos small
        exact ⟨c, [], text, mem⟩
      · obtain ⟨c, rest, text, mem⟩ := ih (n / 10) (by omega) (by omega)
        refine ⟨c, rest ++ decimal (n % 10), ?_, mem⟩
        rw [decimal, Nat.repr_eq_repr_append_repr (Nat.le_of_not_lt small), String.toList_append]
        show decimal (n / 10) ++ decimal (n % 10) = _
        rw [text]
        rfl

theorem signedDecimal_injective {m n : Int} (same : signedDecimal m = signedDecimal n) : m = n :=
  Int.repr_injective (String.toList_injective same)

theorem notMem_signedDecimal {n : Int} {c : Char} (notSign : c ≠ '-')
    (other : c.isDigit = false) : c ∉ signedDecimal n := by
  show c ∉ (Int.repr n).toList
  rw [Int.repr_eq_if]
  have free : ∀ m : Nat, c ∉ m.repr.toList := fun m => notMem_decimal other
  split
  · exact free _
  · rw [String.toList_append, List.mem_append, not_or]
    exact ⟨fun mem => notSign (List.mem_singleton.mp mem), free _⟩

/-! ## Rows and snapshots

What a replica applies of a category, what is hashed of it, and over which alphabet its columns
are written.  `Ambiguous` is the condition, for each category. -/

/-- The members of a settings snapshot that a replica applies. -/
def Db.appliedSettings (db : Db) : List (Str × Json) :=
  (db.getSettings.asObject.getD []).filter fun member => !skippedSettings.contains member.1

/-- The columns of a source that a replica stores. -/
def SourceRow.item (row : SourceRow) : SourceItem where
  url := row.url
  listType := row.listType
  updateIntervalHours := row.updateIntervalHours

/-- A rewrite with a missing address and an empty one taken for the same. -/
def RewriteRow.columns (row : RewriteRow) : Str × Str × Str :=
  (row.domain, row.ipv4.getD [], row.ipv6.getD [])

/-- The snapshots of a category agree on what a replica applies, up to the order of
the rows. -/
def SnapshotsAgree (db db' : Db) : SyncCategory → Prop
  | .settings => db.appliedSettings.Perm db'.appliedSettings
  | .upstreams => db.upstreams.values.Perm db'.upstreams.values
  | .rewrites =>
      (db.rewrites.values.map RewriteRow.columns).Perm (db'.rewrites.values.map RewriteRow.columns)
  | .sources =>
      (db.sources.values.map SourceRow.item).Perm (db'.sources.values.map SourceRow.item)
  | .domains list => (db.domains list).values.Perm (db'.domains list).values

/-- The settings that are hashed. -/
def Db.hashedSettings (db : Db) : List (Sigma fun _ : Str => Str) :=
  db.settings.entries.filter fun entry => !unhashedSettings.contains entry.1

/-- The text columns of a category. -/
def Db.fields (db : Db) : SyncCategory → List Str
  | .settings => db.hashedSettings.flatMap fun entry => [entry.1, entry.2]
  | .upstreams => db.upstreams.values.map UpstreamRow.address
  | .rewrites =>
      db.rewrites.values.flatMap fun row => [row.domain, row.ipv4.getD [], row.ipv6.getD []]
  | .sources => db.sources.values.flatMap fun row => [row.url, row.listType]
  | .domains list => (db.domains list).values

/-- The columns of a category are written over an alphabet.  Numbers are no columns in this
sense. -/
def Db.Over (alphabet : Set Char) (db : Db) (c : SyncCategory) : Prop :=
  ∀ field ∈ db.fields c, ∀ ch ∈ field, ch ∈ alphabet

/-- The columns of a category are ones the API stores: a domain is stored in
normalized form, a port is from 1 to 65535, an interval has 64 bits. -/
def Db.Storable (u : CaseTables) (db : Db) : SyncCategory → Prop
  | .settings => True
  | .upstreams => ∀ row ∈ db.upstreams.values, 0 < row.port ∧ row.port < 2 ^ 16
  | .rewrites => ∀ row ∈ db.rewrites.values, ∃ given, dbNormalize u given = row.domain
  | .sources => ∀ row ∈ db.sources.values,
      -2 ^ 63 ≤ row.updateIntervalHours ∧ row.updateIntervalHours < 2 ^ 63
  | .domains list => ∀ domain ∈ (db.domains list).values, ∃ given, dbNormalize u given = domain

/-- An alphabet over which the text of a category is ambiguous. -/
def Ambiguous (alphabet : Set Char) : SyncCategory → Prop
  | .settings => '=' ∈ alphabet ∨ '\n' ∈ alphabet
  | .upstreams => ':' ∈ alphabet ∧ '\n' ∈ alphabet ∧ ∃ digit ∈ leadingDigits, digit ∈ alphabet
  | .rewrites => '|' ∈ alphabet ∨ '\n' ∈ alphabet
  | .sources => '|' ∈ alphabet
  | .domains _ => '\n' ∈ alphabet

/-! ## Lines that end where they end

If a line cannot be a proper beginning of another one with the rest of a text behind it, a text of
lines can be cut in one way only.  The section shows this of the lines of each category, over the
alphabets for which it is true. -/

section Lines

variable {alphabet : Set Char}

theorem free_of_notMem {c : Char} (absent : c ∉ alphabet) {s : Str}
    (drawn : ∀ ch ∈ s, ch ∈ alphabet) : c ∉ s :=
  fun mem => absent (drawn c mem)

/-- A setting over an alphabet without `=` and line feed. -/
theorem selfDelimiting_setting (equals : '=' ∉ alphabet) (feed : '\n' ∉ alphabet) :
    SelfDelimiting (fun entry : Sigma fun _ : Str => Str => (entry.1 ++ '=' :: entry.2) ++ ['\n'])
      fun entry => (∀ ch ∈ entry.1, ch ∈ alphabet) ∧ ∀ ch ∈ entry.2, ch ∈ alphabet where
  ne_nil entry := by simp
  first := by
    rintro ⟨key, value⟩ ⟨key', value'⟩ drawn drawn' s t same
    simp only [List.append_assoc, List.cons_append, List.nil_append] at same
    obtain ⟨rfl, values⟩ :=
      append_sep_inj (free_of_notMem equals drawn.1) (free_of_notMem equals drawn'.1) same
    obtain ⟨rfl, rest⟩ :=
      append_sep_inj (free_of_notMem feed drawn.2) (free_of_notMem feed drawn'.2) values
    exact ⟨rfl, rest⟩

/-- A rewrite over an alphabet without `|` and line feed. -/
theorem selfDelimiting_rewrite (bar : '|' ∉ alphabet) (feed : '\n' ∉ alphabet) :
    SelfDelimiting
      (fun columns : Str × Str × Str =>
        (columns.1 ++ '|' :: (columns.2.1 ++ '|' :: columns.2.2)) ++ ['\n'])
      fun columns => ∀ field ∈ [columns.1, columns.2.1, columns.2.2], ∀ ch ∈ field,
        ch ∈ alphabet where
  ne_nil columns := by simp
  first := by
    rintro ⟨domain, v4, v6⟩ ⟨domain', v4', v6'⟩ drawn drawn' s t same
    simp only [List.append_assoc, List.cons_append, List.nil_append] at same
    obtain ⟨rfl, addresses⟩ := append_sep_inj (free_of_notMem bar (drawn domain (by simp)))
      (free_of_notMem bar (drawn' domain' (by simp))) same
    obtain ⟨rfl, last⟩ := append_sep_inj (free_of_notMem bar (drawn v4 (by simp)))
      (free_of_notMem bar (drawn' v4' (by simp))) addresses
    obtain ⟨rfl, rest⟩ := append_sep_inj (free_of_notMem feed (drawn v6 (by simp)))
      (free_of_notMem feed (drawn' v6' (by simp))) last
    exact ⟨rfl, rest⟩

/-- The columns of a source that are hashed. -/
def SourceRow.hashed (row : SourceRow) : Str × Str × Int × Int :=
  (row.url, row.listType, row.enabled, row.updateIntervalHours)

/-- A source over an alphabet without `|`, whatever line feeds it has. -/
theorem selfDelimiting_source (bar : '|' ∉ alphabet) :
    SelfDelimiting
      (fun columns : Str × Str × Int × Int =>
        (columns.1 ++ '|' :: (columns.2.1 ++ '|' ::
          (signedDecimal columns.2.2.1 ++ '|' :: signedDecimal columns.2.2.2))) ++ ['\n'])
      fun columns => ∀ field ∈ [columns.1, columns.2.1], ∀ ch ∈ field, ch ∈ alphabet where
  ne_nil columns := by simp
  first := by
    rintro ⟨url, listType, enabled, hours⟩ ⟨url', listType', enabled', hours'⟩ drawn drawn' s t same
    simp only [List.append_assoc, List.cons_append, List.nil_append] at same
    obtain ⟨rfl, types⟩ := append_sep_inj (free_of_notMem bar (drawn url (by simp)))
      (free_of_notMem bar (drawn' url' (by simp))) same
    obtain ⟨rfl, flags⟩ := append_sep_inj (free_of_notMem bar (drawn listType (by simp)))
      (free_of_notMem bar (drawn' listType' (by simp))) types
    obtain ⟨sameFlag, numbers⟩ := append_sep_inj (notMem_signedDecimal (by decide) rfl)
      (notMem_signedDecimal (by decide) rfl) flags
    obtain ⟨sameHours, rest⟩ := append_sep_inj (notMem_signedDecimal (by decide) rfl)
      (notMem_signedDecimal (by decide) rfl) numbers
    rw [signedDecimal_injective sameFlag, signedDecimal_injective sameHours]
    exact ⟨rfl, rest⟩

/-- An upstream over an unambiguous alphabet. -/
theorem selfDelimiting_upstream (clear : ¬ Ambiguous alphabet .upstreams) :
    SelfDelimiting (fun row : UpstreamRow => (row.address ++ ':' :: decimal row.port) ++ ['\n'])
      fun row => (∀ ch ∈ row.address, ch ∈ alphabet) ∧ 0 < row.port where
  ne_nil row := by simp
  first := by
    rintro ⟨address, port⟩ ⟨address', port'⟩ ⟨drawn, pos⟩ ⟨drawn', pos'⟩ s t same
    simp only at drawn drawn' pos pos'
    -- whichever character is missing, the port is cut at its line feed
    have feedFree : ∀ n, '\n' ∉ decimal n := fun n => notMem_decimal rfl
    by_cases colon : ':' ∈ alphabet
    · by_cases feed : '\n' ∈ alphabet
      · -- no digit a port starts with is in an address
        have digitFree : ∀ ch, ch ∈ alphabet → ch ∉ leadingDigits :=
          fun ch mem digit => clear ⟨colon, feed, ch, digit, mem⟩
        obtain ⟨c, rest, text, leading⟩ := decimal_eq_cons pos
        obtain ⟨c', rest', text', leading'⟩ := decimal_eq_cons pos'
        have before : ∀ (a : Str), (∀ ch ∈ a, ch ∈ alphabet) →
            ∀ ch ∈ a ++ [':'], ¬ ch ∈ leadingDigits := by
          intro a drawn ch mem
          rcases List.mem_append.mp mem with inside | sep
          · exact digitFree ch (drawn ch inside)
          · rw [List.mem_singleton.mp sep]
            decide
        have cut : (address ++ [':']) ++ c :: (rest ++ '\n' :: s) =
            (address' ++ [':']) ++ c' :: (rest' ++ '\n' :: t) := by
          simp only [text, text', List.append_assoc, List.cons_append, List.nil_append] at same ⊢
          exact same
        obtain ⟨front, rfl, back⟩ := append_cons_inj (before address drawn)
          (before address' drawn') leading leading' cut
        have tails := feedFree port
        have tails' := feedFree port'
        rw [text] at tails
        rw [text'] at tails'
        obtain ⟨rfl, later⟩ := append_sep_inj (fun mem => tails (List.mem_cons_of_mem _ mem))
          (fun mem => tails' (List.mem_cons_of_mem _ mem)) back
        rw [List.append_cancel_right front, decimal_injective (text.trans text'.symm)]
        exact ⟨rfl, later⟩
      · -- the line is cut at its line feed, and the port at the last colon
        have lineFree : ∀ (a : Str) (n : Nat), (∀ ch ∈ a, ch ∈ alphabet) →
            '\n' ∉ a ++ ':' :: decimal n := by
          intro a n drawn
          rw [List.mem_append, List.mem_cons, not_or, not_or]
          exact ⟨free_of_notMem feed drawn, by decide, feedFree n⟩
        have cut : (address ++ ':' :: decimal port) ++ '\n' :: s =
            (address' ++ ':' :: decimal port') ++ '\n' :: t := by
          simp only [List.append_assoc, List.cons_append, List.nil_append] at same ⊢
          exact same
        obtain ⟨line, later⟩ :=
          append_sep_inj (lineFree address port drawn) (lineFree address' port' drawn') cut
        obtain ⟨rfl, ports⟩ := sep_append_inj (notMem_decimal rfl) (notMem_decimal rfl) line
        rw [decimal_injective ports]
        exact ⟨rfl, later⟩
    · simp only [List.append_assoc, List.cons_append, List.nil_append] at same
      obtain ⟨rfl, rest⟩ :=
        append_sep_inj (free_of_notMem colon drawn) (free_of_notMem colon drawn') same
      obtain ⟨ports, later⟩ := append_sep_inj (feedFree port) (feedFree port') rest
      rw [decimal_injective ports]
      exact ⟨rfl, later⟩

end Lines

/-! ## Unambiguous alphabets

The hashed text gives back its lines, the lines their columns, and the columns determine what a
replica applies, up to the order of the rows. -/

/-- Sorted rows with the same columns are rows with the same columns. -/
theorem perm_map_of_sorted {ρ κ : Type} {f : ρ → κ} {rows rows' sorted sorted' : List ρ}
    (perm : sorted.Perm rows) (perm' : sorted'.Perm rows')
    (same : sorted.map f = sorted'.map f) : (rows.map f).Perm (rows'.map f) :=
  (perm.map f).symm.trans (same ▸ perm'.map f)

/-- What a snapshot gives of the settings is among what is hashed. -/
theorem appliedSettings_perm {db db' : Db} (perm : db.hashedSettings.Perm db'.hashedSettings) :
    db.appliedSettings.Perm db'.appliedSettings := by
  have shown : ∀ db : Db,
      db.settings.entries.filter (fun entry => !hiddenSettings.contains entry.1) =
        db.hashedSettings.filter fun entry => !hiddenSettings.contains entry.1 := by
    intro db
    rw [Db.hashedSettings, List.filter_filter]
    refine List.filter_congr fun entry _ => ?_
    have hidden : ∀ key, unhashedSettings.contains key = true →
        hiddenSettings.contains key = true := by
      intro key mem
      have each : ∀ key ∈ unhashedSettings, hiddenSettings.contains key = true := by
        decide +kernel
      exact each key (by simpa using mem)
    cases outside : hiddenSettings.contains entry.1 with
    | true => rfl
    | false =>
        have open' : unhashedSettings.contains entry.1 = false :=
          Bool.eq_false_iff.mpr fun mem => absurd (hidden _ mem) (by rw [outside]; decide)
        rw [open']
        rfl
  show List.Perm (List.filter _ (List.map _ _)) (List.filter _ (List.map _ _))
  rw [shown db, shown db']
  exact ((perm.filter _).map _).filter _

/-- **Over an unambiguous alphabet equal texts mean agreeing snapshots.** -/
theorem snapshotsAgree_of_hashedText {u : CaseTables} {alphabet : Set Char} {c : SyncCategory}
    (clear : ¬ Ambiguous alphabet c) {db db' : Db} (drawn : db.Over alphabet c)
    (drawn' : db'.Over alphabet c) (storable : db.Storable u c) (storable' : db'.Storable u c)
    (same : hashedText (db.hashedLines c) = hashedText (db'.hashedLines c)) :
    SnapshotsAgree db db' c := by
  cases c with
  | settings =>
      have perm := fun db : Db => Str.sortBy_perm Sigma.fst db.hashedSettings
      have all : ∀ {db : Db}, db.Over alphabet .settings →
          ∀ entry ∈ Str.sortBy Sigma.fst db.hashedSettings,
            (∀ ch ∈ entry.1, ch ∈ alphabet) ∧ ∀ ch ∈ entry.2, ch ∈ alphabet := by
        intro db drawn entry mem
        have inside := (perm db).mem_iff.mp mem
        exact ⟨drawn entry.1 (List.mem_flatMap.mpr ⟨entry, inside, by simp⟩),
          drawn entry.2 (List.mem_flatMap.mpr ⟨entry, inside, by simp⟩)⟩
      have entries := hashedText_inj
        (selfDelimiting_setting (fun mem => clear (Or.inl mem)) fun mem => clear (Or.inr mem))
        (all drawn) (all drawn') same
      exact appliedSettings_perm ((perm db).symm.trans (entries ▸ perm db'))
  | upstreams =>
      have perm := fun db : Db => List.perm_insertionSort UpstreamRow.Before db.upstreams.values
      have all : ∀ {db : Db}, db.Over alphabet .upstreams → db.Storable u .upstreams →
          ∀ row ∈ db.upstreams.values.insertionSort UpstreamRow.Before,
            (∀ ch ∈ row.address, ch ∈ alphabet) ∧ 0 < row.port := by
        intro db drawn storable row mem
        have inside := (perm db).mem_iff.mp mem
        exact ⟨drawn row.address (List.mem_map_of_mem inside), (storable row inside).1⟩
      have rows := hashedText_inj (selfDelimiting_upstream clear) (all drawn storable)
        (all drawn' storable') same
      exact (perm db).symm.trans (rows ▸ perm db')
  | rewrites =>
      have perm := fun db : Db => Str.sortBy_perm RewriteRow.domain db.rewrites.values
      have all : ∀ {db : Db}, db.Over alphabet .rewrites →
          ∀ columns ∈ (Str.sortBy RewriteRow.domain db.rewrites.values).map RewriteRow.columns,
            ∀ field ∈ [columns.1, columns.2.1, columns.2.2], ∀ ch ∈ field, ch ∈ alphabet := by
        intro db drawn columns mem field inside
        obtain ⟨row, stored, rfl⟩ := List.mem_map.mp mem
        exact drawn field (List.mem_flatMap.mpr ⟨row, (perm db).mem_iff.mp stored, inside⟩)
      refine perm_map_of_sorted (perm db) (perm db') (hashedText_inj
        (selfDelimiting_rewrite (fun mem => clear (Or.inl mem)) fun mem => clear (Or.inr mem))
        (all drawn) (all drawn') ?_)
      rw [List.map_map, List.map_map]
      exact same
  | sources =>
      have perm := fun db : Db => Str.sortBy_perm SourceRow.url db.sources.values
      have all : ∀ {db : Db}, db.Over alphabet .sources →
          ∀ columns ∈ (Str.sortBy SourceRow.url db.sources.values).map SourceRow.hashed,
            ∀ field ∈ [columns.1, columns.2.1], ∀ ch ∈ field, ch ∈ alphabet := by
        intro db drawn columns mem field inside
        obtain ⟨row, stored, rfl⟩ := List.mem_map.mp mem
        exact drawn field (List.mem_flatMap.mpr ⟨row, (perm db).mem_iff.mp stored, inside⟩)
      have hashed : (db.sources.values.map SourceRow.hashed).Perm
          (db'.sources.values.map SourceRow.hashed) := by
        refine perm_map_of_sorted (perm db) (perm db') (hashedText_inj
          (selfDelimiting_source clear) (all drawn) (all drawn') ?_)
        rw [List.map_map, List.map_map]
        exact same
      have items := hashed.map fun columns : Str × Str × Int × Int =>
        (⟨columns.1, columns.2.1, columns.2.2.2⟩ : SourceItem)
      rw [List.map_map, List.map_map] at items
      exact items
  | domains list =>
      have perm : ∀ db : Db, (Str.sort (db.domains list).values).Perm (db.domains list).values :=
        fun db => List.perm_insertionSort Str.Before _
      have all : ∀ {db : Db}, db.Over alphabet (.domains list) →
          ∀ domain ∈ Str.sort (db.domains list).values, '\n' ∉ domain :=
        fun drawn domain mem => free_of_notMem clear (drawn domain (Str.mem_sort.mp mem))
      have text : hashedText ((Str.sort (db.domains list).values).map id) =
          hashedText ((Str.sort (db'.domains list).values).map id) := by
        rw [List.map_id, List.map_id]
        exact same
      have rows := hashedText_inj selfDelimiting_domain (all drawn) (all drawn') text
      exact (perm db).symm.trans (rows ▸ perm db')

/-! ## Ambiguous alphabets

For each way in which an alphabet can be ambiguous there is a pair of databases with one text.
They are made of as few characters as possible, so that they exist over every such alphabet. -/

/-- Two storable databases with one text and other rows, over the given characters. -/
structure Collision (u : CaseTables) (c : SyncCategory) (characters : List Char) (db db' : Db) :
    Prop where
  drawn : db.Over {ch | ch ∈ characters} c
  drawn' : db'.Over {ch | ch ∈ characters} c
  storable : db.Storable u c
  storable' : db'.Storable u c
  text : hashedText (db.hashedLines c) = hashedText (db'.hashedLines c)
  differ : ¬ SnapshotsAgree db db' c

/-- A database of settings. -/
def Db.ofSettings (settings : List (Str × Str)) : Db :=
  settings.foldl (fun db setting => db.setSetting setting.1 setting.2) {}

/-- A database of upstreams. -/
def Db.ofUpstreams (rows : List UpstreamRow) : Db :=
  { upstreams := rows.foldl SqlTable.insertOrIgnore .empty }

/-- A database of rewrites. -/
def Db.ofRewrites (rows : List RewriteRow) : Db :=
  { rewrites := rows.foldl SqlTable.insertOrIgnore .empty }

/-- A database of sources. -/
def Db.ofSources (rows : List SourceRow) : Db :=
  { sources := rows.foldl SqlTable.insertOrIgnore .empty }

/-- A database of one list. -/
def Db.ofDomains (list : DomainList) (domains : List Str) : Db :=
  domains.foldl (fun db domain => db.insertDomain list domain) {}

/-- Lower-case ASCII text that does not end in a dot is stored as it is. -/
theorem dbNormalize_self (u : CaseTables) {s : Str} (ascii : ∀ c ∈ s, c.toNat < 128)
    (lower : s.toAsciiLowercase = s) (ends : s.getLast? ≠ some '.') : dbNormalize u s = s := by
  simp only [dbNormalize]
  rw [u.toLowercase_ascii ascii, lower, Str.stripSuffix, if_neg ends, Option.getD_none]

/-- Whether a text is made of the given characters. -/
def madeOf (characters : List Char) (s : Str) : Bool := s.all characters.contains

theorem over_of_madeOf {characters : List Char} {db : Db} {c : SyncCategory}
    (made : (db.fields c).all (madeOf characters) = true) :
    db.Over {ch | ch ∈ characters} c := by
  intro field mem ch inside
  have each := List.all_eq_true.mp (List.all_eq_true.mp made field mem) ch inside
  simpa using each

/-- A text of separators is stored as it is. -/
theorem exists_dbNormalize (u : CaseTables) {s : Str} (made : madeOf ['\n', '|'] s = true) :
    ∃ given, dbNormalize u given = s := by
  have separators : ∀ c ∈ s, c = '\n' ∨ c = '|' := by
    intro c mem
    have each := List.all_eq_true.mp made c mem
    simpa using each
  refine ⟨s, dbNormalize_self u (fun c mem => ?_) ?_ fun last => ?_⟩
  · rcases separators c mem with rfl | rfl <;> decide
  · refine List.map_congr_left (g := id) (fun c mem => ?_) |>.trans (List.map_id s)
    rcases separators c mem with rfl | rfl <;> decide
  · rcases separators '.' (List.mem_of_getLast? last) with impossible | impossible <;>
      exact absurd impossible (by decide)

section Collisions

variable (u : CaseTables)

theorem collision_settings_equals :
    Collision u .settings ['='] (.ofSettings [(['='], [])]) (.ofSettings [([], ['='])]) where
  drawn := over_of_madeOf (by decide +kernel)
  drawn' := over_of_madeOf (by decide +kernel)
  storable := trivial
  storable' := trivial
  text := by decide +kernel
  differ := fun agree => absurd (agree.map Prod.fst) (by decide +kernel)

theorem collision_settings_feed :
    Collision u .settings ['\n'] (.ofSettings [([], ['\n']), (['\n'], [])])
      (.ofSettings [([], []), (['\n', '\n'], [])]) where
  drawn := over_of_madeOf (by decide +kernel)
  drawn' := over_of_madeOf (by decide +kernel)
  storable := trivial
  storable' := trivial
  text := by decide +kernel
  differ := fun agree => absurd (agree.map Prod.fst) (by decide +kernel)

theorem values_ofUpstreams (rows : List UpstreamRow) :
    (Db.ofUpstreams rows).upstreams.values = rows := by
  induction rows using List.reverseRecOn with
  | nil => rfl
  | append_singleton rows row ih =>
      show (List.foldl SqlTable.insertOrIgnore _ (rows ++ [row])).values = _
      rw [List.foldl_append]
      refine (SqlTable.values_insertOrIgnore_of_not_clashes ?_).trans (congrArg (· ++ [row]) ih)
      -- no column is unique
      refine Bool.eq_false_iff.mpr fun clash => ?_
      obtain ⟨_, _, _, impossible, _⟩ := SqlTable.clashes_eq_true.mp clash
      cases impossible

/-- One upstream whose address has the line of another in it, and two upstreams. -/
theorem collision_one_digit {port : Nat} (range : 0 < port ∧ port < 2 ^ 16) {digit : Char}
    (text : decimal port = [digit]) :
    Collision u .upstreams [':', '\n', digit] (.ofUpstreams [⟨[':', digit, '\n'], port⟩])
      (.ofUpstreams [⟨[], port⟩, ⟨[], port⟩]) where
  drawn := by
    intro field inside ch here
    rw [Db.fields, values_ofUpstreams] at inside
    rw [List.mem_singleton.mp inside] at here
    simp only [List.mem_cons, List.not_mem_nil, or_false] at here
    rcases here with rfl | rfl | rfl <;> simp
  drawn' := by
    intro field inside ch here
    rw [Db.fields, values_ofUpstreams] at inside
    simp only [List.map_cons, List.map_nil, List.mem_cons, List.not_mem_nil, or_false,
      or_self] at inside
    rw [inside] at here
    cases here
  storable := by
    intro row inside
    rw [values_ofUpstreams] at inside
    rw [List.mem_singleton.mp inside]
    exact range
  storable' := by
    intro row inside
    rw [values_ofUpstreams] at inside
    simp only [List.mem_cons, List.not_mem_nil, or_false, or_self] at inside
    rw [inside]
    exact range
  text := by
    have twice : List.insertionSort UpstreamRow.Before [⟨[], port⟩, ⟨[], port⟩] =
        [⟨[], port⟩, ⟨[], port⟩] := by
      simp [List.insertionSort, List.orderedInsert]
    have feed : String.utf8EncodeChar '\n' = [10] := by decide
    simp only [Db.hashedLines, values_ofUpstreams]
    rw [twice]
    simp only [List.insertionSort, List.foldr, List.orderedInsert, List.map_cons, List.map_nil,
      text, hashedText, List.flatMap_cons, List.flatMap_nil, List.nil_append, List.cons_append,
      Str.utf8_cons]
    simp [feed]
  differ := by
    intro agree
    have lengths := agree.length_eq
    rw [values_ofUpstreams, values_ofUpstreams] at lengths
    exact absurd lengths (by simp)

theorem collision_upstreams {digit : Char} (leading : digit ∈ leadingDigits) :
    ∃ db db', Collision u .upstreams [':', '\n', digit] db db' := by
  have digits : (leadingDigits.all fun digit =>
      (List.range' 1 9).any fun port => decimal port == [digit]) = true := by decide +kernel
  obtain ⟨port, mem, text⟩ := List.any_eq_true.mp (List.all_eq_true.mp digits digit leading)
  have range := List.mem_range'_1.mp mem
  exact ⟨_, _, collision_one_digit u (by omega) (beq_iff_eq.mp text)⟩

theorem collision_rewrites_bar :
    Collision u .rewrites ['|'] (.ofRewrites [⟨['|'], none, none⟩])
      (.ofRewrites [⟨[], some ['|'], none⟩]) where
  drawn := over_of_madeOf (by decide +kernel)
  drawn' := over_of_madeOf (by decide +kernel)
  storable row mem := by
    rw [show row = ⟨['|'], none, none⟩ from List.mem_singleton.mp mem]
    exact exists_dbNormalize u (by decide +kernel)
  storable' row mem := by
    rw [show row = ⟨[], some ['|'], none⟩ from List.mem_singleton.mp mem]
    exact exists_dbNormalize u (by decide +kernel)
  text := by decide +kernel
  differ := show ¬ List.Perm _ _ by decide +kernel

theorem collision_rewrites_feed :
    Collision u .rewrites ['\n']
      (.ofRewrites [⟨[], none, some ['\n']⟩, ⟨['\n'], none, none⟩])
      (.ofRewrites [⟨[], none, none⟩, ⟨['\n', '\n'], none, none⟩]) where
  drawn := over_of_madeOf (by decide +kernel)
  drawn' := over_of_madeOf (by decide +kernel)
  storable row mem := by
    refine exists_dbNormalize u ?_
    have each : ∀ row ∈ (Db.ofRewrites [⟨[], none, some ['\n']⟩,
        ⟨['\n'], none, none⟩]).rewrites.values, madeOf ['\n', '|'] row.domain = true := by
      decide +kernel
    exact each row mem
  storable' row mem := by
    refine exists_dbNormalize u ?_
    have each : ∀ row ∈ (Db.ofRewrites [⟨[], none, none⟩,
        ⟨['\n', '\n'], none, none⟩]).rewrites.values, madeOf ['\n', '|'] row.domain = true := by
      decide +kernel
    exact each row mem
  text := by decide +kernel
  differ := show ¬ List.Perm _ _ by decide +kernel

theorem collision_sources :
    Collision u .sources ['|']
      (.ofSources [{ url := ['|'], listType := [] }])
      (.ofSources [{ url := [], listType := ['|'] }]) where
  drawn := over_of_madeOf (by decide +kernel)
  drawn' := over_of_madeOf (by decide +kernel)
  storable := show ∀ row ∈ SqlTable.values _, _ by decide +kernel
  storable' := show ∀ row ∈ SqlTable.values _, _ by decide +kernel
  text := by decide +kernel
  differ := fun agree => absurd (agree.map SourceItem.url) (by decide +kernel)

theorem collision_domains (list : DomainList) :
    Collision u (.domains list) ['\n'] (.ofDomains list [[], ['\n']])
      (.ofDomains list [['\n', '\n']]) where
  drawn := over_of_madeOf (by cases list <;> decide +kernel)
  drawn' := over_of_madeOf (by cases list <;> decide +kernel)
  storable domain mem := by
    refine exists_dbNormalize u ?_
    have each : ∀ domain ∈ ((Db.ofDomains list [[], ['\n']]).domains list).values,
        madeOf ['\n', '|'] domain = true := by
      cases list <;> decide +kernel
    exact each domain mem
  storable' domain mem := by
    refine exists_dbNormalize u ?_
    have each : ∀ domain ∈ ((Db.ofDomains list [['\n', '\n']]).domains list).values,
        madeOf ['\n', '|'] domain = true := by
      cases list <;> decide +kernel
    exact each domain mem
  text := by cases list <;> decide +kernel
  differ := by
    show ¬ List.Perm _ _
    cases list <;> decide +kernel

/-- Over an ambiguous alphabet there is a collision. -/
theorem exists_collision {alphabet : Set Char} {c : SyncCategory}
    (ambiguous : Ambiguous alphabet c) :
    ∃ characters db db', (∀ ch ∈ characters, ch ∈ alphabet) ∧ Collision u c characters db db' := by
  have one : ∀ {ch : Char}, ch ∈ alphabet → ∀ x ∈ [ch], x ∈ alphabet := by
    intro ch mem x inside
    rwa [List.mem_singleton.mp inside]
  cases c with
  | settings =>
      rcases ambiguous with equals | feed
      · exact ⟨_, _, _, one equals, collision_settings_equals u⟩
      · exact ⟨_, _, _, one feed, collision_settings_feed u⟩
  | upstreams =>
      obtain ⟨colon, feed, digit, leading, mem⟩ := ambiguous
      obtain ⟨db, db', collision⟩ := collision_upstreams u leading
      refine ⟨_, db, db', fun ch inside => ?_, collision⟩
      simp only [List.mem_cons, List.not_mem_nil, or_false] at inside
      rcases inside with rfl | rfl | rfl
      · exact colon
      · exact feed
      · exact mem
  | rewrites =>
      rcases ambiguous with bar | feed
      · exact ⟨_, _, _, one bar, collision_rewrites_bar u⟩
      · exact ⟨_, _, _, one feed, collision_rewrites_feed u⟩
  | sources => exact ⟨_, _, _, one ambiguous, collision_sources u⟩
  | domains list => exact ⟨_, _, _, one ambiguous, collision_domains u list⟩

end Collisions

/-! ## What is detected -/

/-- **The manifest detects every change of a category exactly over the unambiguous
alphabets**: there, and only there, no two storable databases whose columns are
written over the alphabet have one text and snapshots that differ. -/
theorem detects_iff_unambiguous (u : CaseTables) (alphabet : Set Char) (c : SyncCategory) :
    (∀ db db' : Db, db.Over alphabet c → db'.Over alphabet c → db.Storable u c →
        db'.Storable u c → hashedText (db.hashedLines c) = hashedText (db'.hashedLines c) →
          SnapshotsAgree db db' c) ↔
      ¬ Ambiguous alphabet c := by
  constructor
  · intro detects ambiguous
    obtain ⟨characters, db, db', inside, collision⟩ := exists_collision u ambiguous
    exact collision.differ (detects db db'
      (fun field mem ch here => inside ch (collision.drawn field mem ch here))
      (fun field mem ch here => inside ch (collision.drawn' field mem ch here))
      collision.storable collision.storable' collision.text)
  · intro clear db db' drawn drawn' storable storable' same
    exact snapshotsAgree_of_hashedText clear drawn drawn' storable storable' same

/-- The blocklist after an add of the one domain `a`, line feed, `b`, and after an
add of `a` and one of `b`: one text, two lists. -/
theorem not_detects_line_feed :
    ∃ db db' : Db,
      (addDomain .ascii .clear {} .blocklist "a\nb".toList).toOption.map Prod.snd = some db ∧
      ((addDomain .ascii .clear {} .blocklist "a".toList).toOption.bind fun added =>
        (addDomain .ascii .clear added.2 .blocklist "b".toList).toOption).map Prod.snd = some db' ∧
      hashedText (db.hashedLines (.domains .blocklist)) =
        hashedText (db'.hashedLines (.domains .blocklist)) ∧
      ¬ SnapshotsAgree db db' (.domains .blocklist) :=
  ⟨_, _, rfl, rfl, by decide +kernel, show ¬ List.Perm _ _ by decide +kernel⟩

end RustBlocker
