import RustBlocker.ListGrammar
import RustBlocker.StoredText

/-!
# List files

`parse_lines` loads a list from a text, and `compile_to_file` writes the entries of a store into a
file, sorted, one a line, a wildcard with its `*.`.

* **The reader** takes a line for a hosts line when it starts with one of the two addresses, and
  looks at its second word only.
* **The writer** escapes nothing, so a name that starts with an address is written as a line that
  is read as a hosts line without a name.

`loadsBack_iff`: of the names that can be stored from a list these are the only ones that are
lost.

The store is any that was built from names that the parser of lists accepts, in any order and with
any repetition, and the file is what the writer makes of it; reading begins with an empty store.
That the entries of a store are written in sorted order is used nowhere: the reader inserts what
it finds, and `Models` says that the order does not matter.

The writer reads each entry from the arena, at the offset that the table has for it, and the text
is the bytes there.  That they are valid UTF-8 is no assumption but follows from the invariant of
the store: the bytes are those of a name that was inserted.

A write that fails ends `compile_to_file` with the error.  The file is then not the concern of
this module.
-/

namespace RustBlocker

/-! ## The reader

A line is looked at in the same way by both parsers of the source, up to the part that they take
from it (`loadedPart`).  The reader inserts this part as it is, and counts the new entries. -/

/-- What `parse_lines` inserts for a line, or nothing, if it is empty or a comment. -/
def loadedPart (line : Str) : Option Str :=
  let line := Str.trim line
  if line.isEmpty || "#".toList.isPrefixOf line then none
  else
    let part := Str.trim (domainPart line)
    if part.isEmpty then none else some part

/-- What `parse_lines` inserts for a text. -/
def loadedParts (content : Str) : List Str := (Str.lines content).filterMap loadedPart

section Reader

variable (u : CaseTables) (hash : Bytes → UInt64)

/-- A line of `parse_lines`, with the store and the count so far. -/
def parseLine (state : DomainStore × Nat) (line : Str) : DomainStore × Nat :=
  match loadedPart line with
  | none => state
  | some part =>
      let (store, new) := state.1.insert u hash part
      (store, if new then state.2 + 1 else state.2)

/-- `parse_lines`: the store with the lines of a text, and how many of them were new. -/
def DomainStore.parseLines (store : DomainStore) (content : Str) : DomainStore × Nat :=
  (Str.lines content).foldl (parseLine u hash) (store, 0)

example : (DomainStore.default.parseLines .ascii (fun _ => 0)
    "# ads\n0.0.0.0 ads.example\n\n*.ads.example\nads.example".toList).2 = 2 := by decide

/-- An insertion that reports a new entry counts it. -/
theorem len_insertNormalized (store : DomainStore) (domain : Bytes) (wildcard : Bool) :
    (store.insertNormalized hash domain wildcard).1.len =
      store.len + if (store.insertNormalized hash domain wildcard).2 then 1 else 0 := by
  unfold DomainStore.insertNormalized DomainStore.len
  by_cases empty : domain = []
  · simp [empty]
  by_cases long : domain.length > 65535
  · simp [empty, long]
  cases wildcard with
  | false =>
      cases found : containsIn store.arena store.exact domain (hash domain)
      · simp only [empty, long, found, DomainStore.pushDomain, if_false, Bool.false_eq_true,
          if_true]
        omega
      · simp [empty, long, found]
  | true =>
      cases found : containsIn store.arena store.wildcards domain (hash domain)
      · simp only [empty, long, found, DomainStore.pushDomain, if_false, Bool.false_eq_true,
          if_true]
        omega
      · simp [empty, long, found]

theorem len_insert (store : DomainStore) (domain : Str) :
    (store.insert u hash domain).1.len =
      store.len + if (store.insert u hash domain).2 then 1 else 0 := by
  rw [insert_eq_insertNormalized]
  cases entryOf (normalizeDomain u domain) with
  | exact name => exact len_insertNormalized hash store name.utf8 false
  | wildcard suffix => exact len_insertNormalized hash store suffix.utf8 true

/-- **The reader** inserts its parts one after the other, and counts the entries that the store
gained. -/
theorem parseLines_eq (store : DomainStore) (content : Str) :
    (store.parseLines u hash content).1 =
        (loadedParts content).foldl (fun store part => (store.insert u hash part).1) store ∧
      (store.parseLines u hash content).1.len =
        store.len + (store.parseLines u hash content).2 := by
  have each : ∀ (lines : List Str) (state : DomainStore × Nat),
      (lines.foldl (parseLine u hash) state).1 = (lines.filterMap loadedPart).foldl
          (fun store part => (store.insert u hash part).1) state.1 ∧
        (lines.foldl (parseLine u hash) state).1.len + state.2 =
          state.1.len + (lines.foldl (parseLine u hash) state).2 := by
    intro lines
    induction lines with
    | nil => exact fun _ => ⟨rfl, rfl⟩
    | cons line rest ih =>
        intro state
        obtain ⟨same, counted⟩ := ih (parseLine u hash state line)
        rw [List.foldl_cons]
        rcases found : loadedPart line with _ | part
        · have kept : parseLine u hash state line = state := by
            simp only [parseLine, found]
          rw [kept] at same counted ⊢
          rw [List.filterMap_cons_none found]
          exact ⟨same, counted⟩
        · have step : parseLine u hash state line = ((state.1.insert u hash part).1,
              if (state.1.insert u hash part).2 then state.2 + 1 else state.2) := by
            simp only [parseLine, found]
          have grown := len_insert u hash state.1 part
          rw [step] at same counted ⊢
          rw [List.filterMap_cons_some found]
          refine ⟨same, ?_⟩
          dsimp only at counted
          by_cases new : (state.1.insert u hash part).2 = true
          · rw [if_pos new] at grown counted ⊢
            omega
          · rw [if_neg new] at grown counted ⊢
            omega
  obtain ⟨same, counted⟩ := each (Str.lines content) (store, 0)
  exact ⟨same, counted⟩

end Reader

/-! ## The writer

The texts are read from the arena and sorted.  That they are the entries of the store follows from
the invariant of the store, in whatever order its maps give them. -/

namespace DomainStore

/-- `domain_at`, as the text of the bytes. -/
def textAt (store : DomainStore) (offset : UInt32) : Str :=
  (Str.fromUtf8 (domainAt store.arena offset)).getD []

/-- The entries, as they are written. -/
def entryTexts (store : DomainStore) (order : BucketOrder) : List Str :=
  (valuesInOrder order store.exact).map store.textAt ++
    (valuesInOrder order store.wildcards).map fun offset => "*.".toList ++ store.textAt offset

end DomainStore

/-- The lines of a file. -/
def fileText (entries : List Str) : Str := List.intercalate ['\n'] entries ++ ['\n']

/-- `compile_to_file`: the file and the number of its lines, unless the write fails. -/
def DomainStore.compileToFile (write : Str → Str → Except Str Unit) (outputPath : Str)
    (store : DomainStore) (order : BucketOrder) : Except Str (Str × Nat) :=
  let entries := Str.sort (store.entryTexts order)
  let content := fileText entries
  match write outputPath content with
  | .error _ => .error ("Failed to write compiled blocklist to ".toList ++ outputPath)
  | .ok () => .ok (content, entries.length)

theorem Str.fromUtf8_utf8 (s : Str) : Str.fromUtf8 s.utf8 = some s := by
  show (List.utf8Encode s).utf8Decode?.map Array.toList = some s
  rw [List.utf8Decode?_utf8Encode]
  rfl

/-- The texts of an index, in whatever order. -/
theorem texts_perm {hash : Bytes → UInt64} {store : DomainStore} {index : DomainIndex}
    {names : Finset Str}
    (rep : BucketIndex.Represents hash (domainAt store.arena) index (names.map utf8Embedding))
    (order : BucketOrder) :
    ((valuesInOrder order index).map store.textAt).Perm names.toList := by
  have bytes : ((valuesInOrder order index).map (domainAt store.arena)).Perm
      (names.toList.map Str.utf8) := by
    refine (((valuesInOrder_perm order index).map _).trans rep.map_perm).trans ?_
    rw [List.perm_ext_iff_of_nodup (Finset.nodup_toList _)
      (names.nodup_toList.map Str.utf8_injective)]
    intro b
    simp
  have texts := bytes.map fun b => (Str.fromUtf8 b).getD []
  rw [List.map_map, List.map_map] at texts
  have plain : (names.toList.map fun name => (Str.fromUtf8 name.utf8).getD []) = names.toList := by
    simp [Str.fromUtf8_utf8]
  exact texts.trans (List.Perm.of_eq plain)

section Writer

variable {hash : Bytes → UInt64} {store : DomainStore} {sets : DomainSets}

/-- **The entries that are written** are those of the store. -/
theorem Models.mem_entryTexts (models : Models hash store sets) (order : BucketOrder)
    {text : Str} : text ∈ store.entryTexts order ↔ entryOf text ∈ sets := by
  rw [DomainStore.entryTexts, List.mem_append, (texts_perm models.holds.exact order).mem_iff,
    Finset.mem_toList]
  have starred : (text ∈ (valuesInOrder order store.wildcards).map fun offset =>
      "*.".toList ++ store.textAt offset) ↔
        ∃ suffix ∈ sets.suffixes, "*.".toList ++ suffix = text := by
    have split : ((valuesInOrder order store.wildcards).map fun offset =>
        "*.".toList ++ store.textAt offset) =
          ((valuesInOrder order store.wildcards).map store.textAt).map ("*.".toList ++ ·) := by
      rw [List.map_map]
      rfl
    rw [split, List.mem_map]
    simp only [(texts_perm models.holds.wildcards order).mem_iff, Finset.mem_toList]
  rw [starred]
  constructor
  · rintro (mem | ⟨suffix, mem, rfl⟩)
    · rw [entryOf, models.plain text mem]
      exact mem
    · rw [entryOf, Str.stripPrefix_eq_some.mpr rfl]
      exact mem
  · intro mem
    cases kind : entryOf text with
    | exact name =>
        obtain ⟨rfl, -⟩ := stripPrefix_of_entryOf_exact kind
        rw [kind] at mem
        exact Or.inl mem
    | wildcard suffix =>
        rw [kind] at mem
        exact Or.inr ⟨suffix, mem,
          (Str.stripPrefix_eq_some.mp (stripPrefix_of_entryOf_wildcard kind)).symm⟩

/-- **As many entries are written** as the store counts. -/
theorem Models.length_entryTexts (models : Models hash store sets) (order : BucketOrder) :
    (store.entryTexts order).length = store.len := by
  have exacts := (texts_perm models.holds.exact order).length_eq
  have suffixes := (texts_perm models.holds.wildcards order).length_eq
  rw [Finset.length_toList, List.length_map] at exacts suffixes
  rw [DomainStore.entryTexts, List.length_append, List.length_map, List.length_map, exacts,
    suffixes]
  exact (congrArg₂ (· + ·) models.exactLen models.wildcardLen).symm

end Writer

/-! ## The lines of a file -/

/-- A line that has no line feed is read whole, but for a carriage return at its end. -/
theorem Str.linesFrom_line {line : Str} (free : '\n' ∉ line) (current rest : Str) :
    Str.linesFrom current (line ++ '\n' :: rest) =
      (if (line.reverse ++ current).head? = some '\r' then (line.reverse ++ current).tail
        else line.reverse ++ current).reverse :: Str.linesFrom [] rest := by
  induction line generalizing current with
  | nil => rfl
  | cons c line ih =>
      rw [List.mem_cons, not_or] at free
      rw [List.cons_append, Str.linesFrom, if_neg (Ne.symm free.1), ih free.2]
      simp only [List.reverse_cons, List.append_assoc, List.singleton_append]

/-- **A file of entries without line ends has these lines**, and one empty line if there are
none. -/
theorem lines_fileText {entries : List Str}
    (plain : ∀ entry ∈ entries, '\n' ∉ entry ∧ '\r' ∉ entry) :
    Str.lines (fileText entries) = if entries = [] then [[]] else entries := by
  have one : ∀ entry rest, '\n' ∉ entry ∧ '\r' ∉ entry →
      Str.lines (entry ++ '\n' :: rest) = entry :: Str.lines rest := by
    rintro entry rest ⟨feed, return_⟩
    rw [Str.lines, Str.linesFrom_line feed, List.append_nil]
    have ends : ¬ entry.reverse.head? = some '\r' := by
      intro last
      exact return_ (List.mem_reverse.mp (List.mem_of_head? last))
    rw [if_neg ends, List.reverse_reverse]
    rfl
  induction entries with
  | nil => rfl
  | cons entry rest ih =>
      rw [if_neg (List.cons_ne_nil _ _)]
      rcases rest with - | ⟨second, more⟩
      · have single : fileText [entry] = entry ++ '\n' :: [] := by simp [fileText]
        rw [single, one entry [] (plain entry List.mem_cons_self)]
        rfl
      · have front : fileText (entry :: second :: more) =
            entry ++ '\n' :: fileText (second :: more) := by
          simp [fileText, List.intercalate_cons_of_ne_nil]
        rw [front, one entry _ (plain entry List.mem_cons_self),
          ih fun later mem => plain later (List.mem_cons_of_mem _ mem),
          if_neg (List.cons_ne_nil _ _)]

/-! ## Back from the file

A line of a stored name is read as that name, unless it begins with an address.  Then the reader
looks for a second word, finds none, and takes nothing from the line. -/

/-- The line starts with an address of a hosts file.  Whether a blank follows the address is not
looked at, by the reader either. -/
def StartsWithAddress (line : Str) : Prop := ∃ address ∈ hostsAddresses, address <+: line

/-- **A line of a stored name** is read as the name, or not at all if it starts with an
address. -/
theorem loadedPart_of_canonical {domain : Str} (canonical : Canonical domain) :
    (StartsWithAddress domain → loadedPart domain = none) ∧
      (¬ StartsWithAddress domain → loadedPart domain = some domain) := by
  have ok := canonical.listName
  have solid := pattern_solid ok
  have filled := pattern_ne_nil ok
  have trimmed : Str.trim domain = domain := Str.trim_eq_self solid
  have comment : "#".toList.isPrefixOf domain = false := by
    refine Bool.eq_false_iff.mpr fun starts => ?_
    have hash : '#' ∈ domain := by
      obtain ⟨rest, rfl⟩ := List.isPrefixOf_iff_prefix.mp starts
      exact List.mem_append_left _ (List.mem_singleton_self _)
    rcases char_of_pattern ok hash with star | dot | label
    · cases star
    · cases dot
    · cases label
  have words : Str.splitWhitespace domain = [domain] := by
    rw [Str.splitWhitespace, List.splitOnP_eq_singleton solid]
    simp [filled]
  unfold loadedPart
  simp only [trimmed, List.isEmpty_eq_false_iff.mpr filled, comment, Bool.or_self,
    Bool.false_eq_true, if_false]
  constructor
  · intro starts
    have nothing : domainPart domain = [] := by
      rw [domainPart, if_pos (hosts_prefix_iff.mpr starts), words]
      rfl
    rw [nothing]
    rfl
  · intro other
    have whole : domainPart domain = domain := by
      rw [domainPart, if_neg fun starts => other (hosts_prefix_iff.mp starts)]
    rw [whole, trimmed, if_neg (by rw [List.isEmpty_iff]; exact filled)]

/-- A stored name has no line end. -/
theorem Canonical.unbroken {domain : Str} (canonical : Canonical domain) :
    '\n' ∉ domain ∧ '\r' ∉ domain := by
  have solid := pattern_solid canonical.listName
  constructor
  · exact fun mem => absurd (solid _ mem) (by decide)
  · exact fun mem => absurd (solid _ mem) (by decide)

section Back

variable (u : CaseTables) (hash : Bytes → UInt64)

/-- **The file loads back unchanged**: the store that is read from it has the entries of the one
that wrote it, and both counts, of the lines written and of the entries that were new to the
reader, are the number of its entries. -/
structure LoadsBack (store : DomainStore) (file : Str) (count : Nat) : Prop where
  entries : SameEntries hash (DomainStore.default.parseLines u hash file).1 store
  parsed : (DomainStore.default.parseLines u hash file).2 = count
  counted : count = store.len

variable {u hash}

/-- The lines that are read back from the file of a store. -/
theorem mem_loadedParts_fileText {entries : List Str}
    (canonical : ∀ entry ∈ entries, Canonical entry) {part : Str} :
    part ∈ loadedParts (fileText entries) ↔ part ∈ entries ∧ ¬ StartsWithAddress part := by
  rw [loadedParts, lines_fileText fun entry mem => (canonical entry mem).unbroken]
  by_cases empty : entries = []
  · subst empty
    simp [loadedPart, Str.trim]
  · rw [if_neg empty, List.mem_filterMap]
    constructor
    · rintro ⟨entry, mem, read⟩
      by_cases starts : StartsWithAddress entry
      · rw [(loadedPart_of_canonical (canonical entry mem)).1 starts] at read
        cases read
      · rw [(loadedPart_of_canonical (canonical entry mem)).2 starts] at read
        cases read
        exact ⟨mem, starts⟩
    · rintro ⟨mem, other⟩
      exact ⟨part, mem, (loadedPart_of_canonical (canonical part mem)).2 other⟩

/-- **A store of names from a list loads back from its file** exactly if none of the names
starts with an address of a hosts file. -/
theorem loadsBack_iff (u : CaseTables) (hash : Bytes → UInt64) (domains : List Str)
    (canonical : ∀ domain ∈ domains, Canonical domain) (room : packedBytes domains < 2 ^ 32)
    (order : BucketOrder) (write : Str → Str → Except Str Unit) (outputPath file : Str)
    (count : Nat)
    (compiled : (storeOf u hash domains).compileToFile write outputPath order =
      .ok (file, count)) :
    LoadsBack u hash (storeOf u hash domains) file count ↔
      ∀ domain ∈ domains, ¬ StartsWithAddress domain := by
  have models := (models_storeOf u hash canonical room).1
  have written : ∀ {text}, text ∈ Str.sort ((storeOf u hash domains).entryTexts order) ↔
      text ∈ domains := by
    intro text
    rw [Str.mem_sort, models.mem_entryTexts order, entryOf_mem_setsOf]
  obtain ⟨text, rfl⟩ : file = fileText (Str.sort ((storeOf u hash domains).entryTexts order)) ∧
      count = (storeOf u hash domains).len := by
    unfold DomainStore.compileToFile at compiled
    extract_lets entries content at compiled
    split at compiled
    · cases compiled
    · obtain ⟨text, lines⟩ := Prod.mk.inj (Except.ok.inj compiled)
      refine ⟨text.symm, ?_⟩
      rw [← lines, ← models.length_entryTexts order]
      exact (List.perm_insertionSort Str.Before _).length_eq
  have parts : ∀ {part}, part ∈ loadedParts file ↔ part ∈ domains ∧ ¬ StartsWithAddress part := by
    intro part
    rw [text, mem_loadedParts_fileText fun entry mem => canonical entry (written.mp mem), written]
  obtain ⟨read, counted⟩ := parseLines_eq u hash .default file
  have models' := (models_storeOf u hash (fun part mem => canonical part (parts.mp mem).1)
    (lt_of_le_of_lt (packedBytes_mono fun part mem => (parts.mp mem).1) room)).1
  rw [storeOf, ← read] at models'
  have same := models'.sameEntries_iff models
  constructor
  · intro back domain mem starts
    have kept : entryOf domain ∈ setsOf (loadedParts file) := by
      rw [same.mp back.entries]
      exact entryOf_mem_setsOf.mpr mem
    exact (parts.mp (entryOf_mem_setsOf.mp kept)).2 starts
  · intro plain
    have sets : setsOf (loadedParts file) = setsOf domains :=
      setsOf_congr fun domain => parts.trans (and_iff_left_of_imp (plain domain))
    refine ⟨same.mpr sets, ?_, rfl⟩
    rw [sets] at models'
    have lengths : (DomainStore.default.parseLines u hash file).1.len =
        (storeOf u hash domains).len := by
      show _ + _ = _ + _
      exact congrArg₂ (· + ·) (models'.exactLen.trans models.exactLen.symm)
        (models'.wildcardLen.trans models.wildcardLen.symm)
    rw [lengths, show DomainStore.default.len = 0 from rfl, Nat.zero_add] at counted
    exact counted.symm

end Back

theorem loadsBack_of_ads :
    let domains := ["ads.example".toList, "*.ads.example".toList]
    ∃ file count, (storeOf .ascii (fun _ => 0) domains).compileToFile (fun _ _ => .ok ())
        "blocked.txt".toList (.id _) = .ok (file, count) ∧
      LoadsBack .ascii (fun _ => 0) (storeOf .ascii (fun _ => 0) domains) file count := by
  intro domains
  refine ⟨_, _, rfl, ?_⟩
  have canonical : ∀ domain ∈ domains, Canonical domain := by decide +kernel
  have room : packedBytes domains < 2 ^ 32 := by decide +kernel
  refine (loadsBack_iff .ascii (fun _ => 0) domains canonical room (.id _) (fun _ _ => .ok ())
    "blocked.txt".toList _ _ rfl).mpr ?_
  unfold StartsWithAddress
  decide +kernel

/-- **The name of the hosts line `0.0.0.0 0.0.0.0`** is written and not read back. -/
theorem not_loadsBack_address :
    let domain := "0.0.0.0".toList
    let store := storeOf .ascii (fun _ => 0) [domain]
    parseDomainLine "0.0.0.0 0.0.0.0".toList = some domain ∧
      ∃ file count, store.compileToFile (fun _ _ => .ok ()) "blocked.txt".toList (.id _) =
          .ok (file, count) ∧
        count = 1 ∧ (DomainStore.default.parseLines .ascii (fun _ => 0) file).2 = 0 ∧
          ¬ LoadsBack .ascii (fun _ => 0) store file count := by
  intro domain store
  have canonical : ∀ other ∈ [domain], Canonical other := by decide +kernel
  have models : Models (fun _ => 0) store (setsOf [domain]) :=
    (models_storeOf .ascii (fun _ => 0) canonical (by decide +kernel)).1
  have texts : store.entryTexts (.id _) = [domain] := by
    have one : store.len = 1 := by decide +kernel
    obtain ⟨text, single⟩ := List.length_eq_one_iff.mp ((models.length_entryTexts _).trans one)
    have mem : domain ∈ store.entryTexts (.id _) :=
      (models.mem_entryTexts _).mpr (entryOf_mem_setsOf.mpr (List.mem_singleton_self _))
    rw [single] at mem ⊢
    rw [List.mem_singleton.mp mem]
  have compiled : store.compileToFile (fun _ _ => .ok ()) "blocked.txt".toList (.id _) =
      .ok ("0.0.0.0\n".toList, 1) := by
    unfold DomainStore.compileToFile
    rw [texts]
    rfl
  have lost : (DomainStore.default.parseLines .ascii (fun _ => 0) "0.0.0.0\n".toList).2 = 0 := by
    decide +kernel
  refine ⟨by decide +kernel, _, _, compiled, rfl, lost, fun back => ?_⟩
  have parsed := back.parsed
  rw [lost] at parsed
  cases parsed

end RustBlocker
