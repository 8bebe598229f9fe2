import RustBlocker.ListFiles

/-!
# The two parsers of a list

A list text is read by `parse_lines` into a store, and by `parse_domain_line` line by line in a
bulk import, into the table and into the store the import returns.

* **What they share** is everything up to the part of the line they look at: comments, blank lines
  and hosts lines (`loadedPart`).
* **Where they part.**  `parse_lines` inserts whatever the part is, in Unicode lower case and
  without one final full stop.  `parse_domain_line` takes patterns only, in ASCII lower case and
  without any final full stop.

On a pattern with at most one final full stop they agree; `parsersAgree_iff` says what the other
lines must meet for the whole text to be read alike.

Agreement is a property of the text and not of its lines.  A line that only one of the parsers
takes does no harm if another line of the text brings the same entry to the other parser, or if
what it brings is no entry at all, being empty or too long for the arena.  `MadeGood` is this
exception, in both directions, and the theorem needs it to be an equivalence.

The import begins with an empty list, so that its rows are those of the text, and both stores are
assumed to fit into the addresses of an arena; this is said of the entries the text brings, not of
the stores.  The table of Unicode's lower case is arbitrary.
-/

namespace RustBlocker

/-! ## One line

What the two parsers have in common, and the parts on which they agree without further ado. -/

theorem loadedPart_eq_some {line part : Str} : loadedPart line = some part ↔
    Str.trim line ≠ [] ∧ ¬ "#".toList <+: Str.trim line ∧ part ≠ [] ∧
      part = domainPart (Str.trim line) := by
  unfold loadedPart
  simp only
  rw [Option.ite_none_left_eq_some, Option.ite_none_left_eq_some, trim_domainPart,
    Option.some_inj, Bool.or_eq_true, not_or, List.isEmpty_iff, List.isPrefixOf_iff_prefix,
    List.isEmpty_iff, and_assoc]
  constructor
  · rintro ⟨filled, plain, content, rfl⟩
    exact ⟨filled, plain, content, rfl⟩
  · rintro ⟨filled, plain, content, rfl⟩
    exact ⟨filled, plain, content, rfl⟩

/-- **Both parsers look at the same part of a line**: the one takes it if it is a pattern. -/
theorem mem_contentDomains_iff {content domain : Str} :
    domain ∈ contentDomains content ↔
      ∃ part ∈ loadedParts content, IsDomainPattern part ∧ domain = patternText part := by
  rw [contentDomains, loadedParts, List.mem_filterMap]
  simp only [parseDomainLine_eq_some, List.mem_filterMap, loadedPart_eq_some]
  constructor
  · rintro ⟨line, mem, filled, plain, pattern, text⟩
    refine ⟨_, ⟨line, mem, filled, plain, fun empty => ?_, rfl⟩, pattern, text⟩
    rw [empty] at pattern
    exact not_isDomainPattern_nil pattern
  · rintro ⟨part, ⟨line, mem, filled, plain, -, rfl⟩, pattern, text⟩
    exact ⟨line, mem, filled, plain, pattern, text⟩

/-- The text a pattern is stored as is canonical. -/
theorem IsDomainPattern.canonical {part : Str} (pattern : IsDomainPattern part) :
    Canonical (patternText part) := by
  rw [canonical_iff]
  exact ⟨isDomainPattern_iff.mp pattern, Str.toAsciiLowercase_idem _⟩

/-- **A part that both parsers read alike**: a pattern with at most one final full stop. -/
def PlainPart (part : Str) : Prop := IsDomainPattern part ∧ ¬ "..".toList <:+ part

theorem PlainPart.normalizeDomain {part : Str} (plain : PlainPart part) (u : CaseTables) :
    normalizeDomain u part = patternText part := by
  obtain ⟨pattern, single⟩ := plain
  rw [RustBlocker.normalizeDomain, u.toLowercase_ascii pattern.ascii, patternText]
  have ends : (Str.toAsciiLowercase (Str.trimEndMatches '.' part)).getLast? ≠ some '.' :=
    pattern_getLast (isDomainPattern_iff.mp pattern)
  obtain ⟨dots, whole⟩ := Str.exists_replicate '.' part
  rcases dots with - | dots | dots
  · rw [List.replicate_zero, List.append_nil] at whole
    rw [← whole] at ends ⊢
    exact if_neg ends
  · have lowered : Str.toAsciiLowercase part =
        Str.toAsciiLowercase (Str.trimEndMatches '.' part) ++ ['.'] := by
      conv_lhs => rw [whole]
      rw [Str.toAsciiLowercase, List.map_append]
      rfl
    rw [lowered]
    simp
  · refine absurd ⟨Str.trimEndMatches '.' part ++ List.replicate dots '.', ?_⟩ single
    conv_rhs => rw [whole]
    rw [List.append_assoc, List.replicate_add dots 2]
    rfl

/-! ## The whole text

The two sets of entries are compared.  A part that is not plain may still be harmless, and
`MadeGood` says when: whatever either parser makes of it is also made, by the other one, of some
part. -/

section Agree

variable (u : CaseTables)

/-- The entry that one parser makes of a part that is not plain is also made by the other, of some
part of the text.  It may be made of another line altogether. -/
structure MadeGood (parts : List Str) (part : Str) : Prop where
  /-- What `parse_lines` inserts is no entry, or the text of a pattern. -/
  loaded : (entryOf (normalizeDomain u part)).Admissible →
    ∃ other ∈ parts, IsDomainPattern other ∧ patternText other = normalizeDomain u part
  /-- What `parse_domain_line` returns is inserted by `parse_lines`. -/
  parsed : IsDomainPattern part → ∃ other ∈ parts, normalizeDomain u other = patternText part

variable {u}

/-- The entries of the two parsers are the same exactly if every part that is not plain is made
good. -/
theorem storedSets_eq_setsOf_iff (content : Str) :
    storedSets u (loadedParts content) = setsOf (contentDomains content) ↔
      ∀ part ∈ loadedParts content, PlainPart part ∨ MadeGood u (loadedParts content) part := by
  constructor
  · intro same part mem
    refine Or.inr ⟨fun ok => ?_, fun pattern => ?_⟩
    · have loaded : entryOf (normalizeDomain u part) ∈ storedSets u (loadedParts content) :=
        mem_storedSets.mpr ⟨ok, part, mem, rfl⟩
      rw [same, entryOf_mem_setsOf, mem_contentDomains_iff] at loaded
      obtain ⟨other, inside, pattern, text⟩ := loaded
      exact ⟨other, inside, pattern, text.symm⟩
    · have parsed : entryOf (patternText part) ∈ setsOf (contentDomains content) :=
        entryOf_mem_setsOf.mpr (mem_contentDomains_iff.mpr ⟨part, mem, pattern, rfl⟩)
      rw [← same, mem_storedSets] at parsed
      obtain ⟨-, other, inside, text⟩ := parsed
      exact ⟨other, inside, entryOf_injective text⟩
  · intro alike
    refine DomainSets.ext_mem fun e => ?_
    rw [mem_storedSets, mem_setsOf]
    constructor
    · rintro ⟨ok, part, mem, rfl⟩
      rcases alike part mem with plain | good
      · exact ⟨_, mem_contentDomains_iff.mpr ⟨part, mem, plain.1, rfl⟩,
          congrArg entryOf (plain.normalizeDomain u).symm⟩
      · obtain ⟨other, inside, pattern, text⟩ := good.loaded ok
        exact ⟨_, mem_contentDomains_iff.mpr ⟨other, inside, pattern, rfl⟩,
          congrArg entryOf text⟩
    · rintro ⟨domain, mem, rfl⟩
      obtain ⟨part, inside, pattern, rfl⟩ := mem_contentDomains_iff.mp mem
      refine ⟨pattern.canonical.admissible, ?_⟩
      rcases alike part inside with plain | good
      · exact ⟨part, inside, congrArg entryOf (plain.normalizeDomain u)⟩
      · obtain ⟨other, there, text⟩ := good.parsed pattern
        exact ⟨other, there, congrArg entryOf text⟩

variable (u) in
/-- **The two parsers agree** on a text: `parse_lines` loads into an empty store what is left
by a bulk import, in the table and in the store it returns. -/
structure ParsersAgree (hash : Bytes → UInt64) (content : Str) (imported : DomainStore)
    (rows : List Str) : Prop where
  store : SameEntries hash (DomainStore.default.parseLines u hash content).1 imported
  table : ∀ e, (DomainStore.default.parseLines u hash content).1.holdsEntry hash e = true ↔
    ∃ row ∈ rows, entryOf row = e

/-- **The two parsers agree on a text** exactly if each of its parts is a pattern with at most
one final full stop, or is made good. -/
theorem parsersAgree_iff (u : CaseTables) (hash : Bytes → UInt64) (fails : Plan ImportCall)
    (db db' : Db) (list : DomainList) (content : Str) (result : DomainImportResult)
    (empty : (db.domains list).values = [])
    (imported : bulkImport u hash fails db list content = .ok (result, db'))
    (loads : (storedSets u (loadedParts content)).bytes < 2 ^ 32)
    (imports : packedBytes (contentDomains content) < 2 ^ 32) :
    ParsersAgree u hash content result.store (db'.domains list).values ↔
      ∀ part ∈ loadedParts content, PlainPart part ∨ MadeGood u (loadedParts content) part := by
  obtain ⟨rfl, store⟩ := bulkImport_eq_ok imported
  have canonical : ∀ domain ∈ contentDomains content, Canonical domain := by
    intro domain mem
    obtain ⟨part, -, pattern, rfl⟩ := mem_contentDomains_iff.mp mem
    exact pattern.canonical
  have bulk := (models_storeOf u hash canonical imports).1
  have loaded := models_storeOf_storedSets u hash loads
  rw [storeOf, ← (parseLines_eq u hash .default content).1] at loaded
  rw [← storedSets_eq_setsOf_iff]
  have rows : ∀ e, (∃ row ∈ ((db.importAll list (contentDomains content)).domains list).values,
      entryOf row = e) ↔ e ∈ setsOf (contentDomains content) := by
    intro e
    rw [mem_setsOf]
    simp only [Db.mem_importAll, empty, true_and, List.not_mem_nil, or_false]
  constructor
  · intro agree
    have same := agree.store
    rw [store] at same
    exact (loaded.sameEntries_iff bulk).mp same
  · intro same
    refine ⟨?_, fun e => ?_⟩
    · rw [store]
      exact (loaded.sameEntries_iff bulk).mpr same
    · rw [loaded.holdsEntry_iff, rows, same]

end Agree

/-- A text of plain parts is read alike. -/
theorem parsersAgree_hosts :
    let content := "# ads\n0.0.0.0 Ads.Example. # tracker\n*.ads.example".toList
    ∃ result db', bulkImport .ascii (fun _ => 0) .clear {} .blocklist content =
        .ok (result, db') ∧
      ParsersAgree .ascii (fun _ => 0) content result.store (db'.domains .blocklist).values := by
  intro content
  obtain ⟨⟨result, db'⟩, imported⟩ := bulkImport_clear .ascii (fun _ => 0) {} .blocklist content
  refine ⟨result, db', imported, ?_⟩
  refine (parsersAgree_iff .ascii (fun _ => 0) .clear {} db' .blocklist content result rfl imported
    (by decide +kernel) (by decide +kernel)).mpr ?_
  have parts : loadedParts content = ["Ads.Example.".toList, "*.ads.example".toList] := by
    decide +kernel
  rw [parts]
  intro part mem
  refine Or.inl ?_
  revert part
  unfold PlainPart
  decide +kernel

/-- **A name with a comment behind it** is an entry for one parser and nothing for the other. -/
theorem not_parsersAgree_comment :
    let content := "ads.example # tracker".toList
    (DomainStore.default.parseLines .ascii (fun _ => 0) content).1.holdsEntry (fun _ => 0)
        (.exact content) = true ∧
      ∃ result db', bulkImport .ascii (fun _ => 0) .clear {} .blocklist content =
          .ok (result, db') ∧
        (db'.domains .blocklist).values = [] ∧
        ¬ ParsersAgree .ascii (fun _ => 0) content result.store
          (db'.domains .blocklist).values := by
  intro content
  have holds : (DomainStore.default.parseLines .ascii (fun _ => 0) content).1.holdsEntry
      (fun _ => 0) (.exact content) = true := by decide +kernel
  obtain ⟨⟨result, db'⟩, imported⟩ := bulkImport_clear .ascii (fun _ => 0) {} .blocklist content
  have nothing : contentDomains content = [] := by decide +kernel
  have table : (db'.domains .blocklist).values = [] := by
    rw [(bulkImport_eq_ok imported).1, nothing]
    rfl
  refine ⟨holds, result, db', imported, table, fun agree => ?_⟩
  obtain ⟨row, mem, -⟩ := (agree.table _).mp holds
  rw [table] at mem
  cases mem

end RustBlocker
