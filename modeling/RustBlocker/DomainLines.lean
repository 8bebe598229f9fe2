import RustBlocker.Entries

/-!
# Lines of a list

`parse_domain_line` turns a line of a list into the text the database stores: a plain or `*.`
pattern, or the second word of a hosts line, in lower case and without final full stops; anything
whose labels are not made of ASCII letters, digits, hyphens and underscores is refused.

A text is *canonical* if it is what some line parses to.  `canonical_iff` says which texts these
are, so that the rest of the development reasons about the shape of a stored domain and not about
lines.

The parser is not the only way into a table: an operator may add any text, and a snapshot of
another server may bring any.  So that a stored text is canonical is an invariant where the texts
come from lists, a hypothesis where they may come from elsewhere, and never assumed in silence.
What makes canonical texts pleasant is that everything the program does to a text leaves them as
they are (`normalizeDomain` below), whatever the version of Unicode: they are ASCII and in lower
case, and have no final full stop.
-/

namespace RustBlocker

/-- `u8::is_ascii_alphanumeric`, or a hyphen, or an underscore. -/
def isLabelByte (byte : UInt8) : Bool :=
  (48 ≤ byte && byte ≤ 57) || (65 ≤ byte && byte ≤ 90) || (97 ≤ byte && byte ≤ 122) ||
    byte == 45 || byte == 95

/-- One label of a listed name. -/
def isListLabel (label : Str) : Bool :=
  !label.isEmpty && label.len ≤ 63 && label.utf8.all isLabelByte

/-- The check `parse_domain_line` makes of a name, without its `*.`. -/
def isListName (name : Str) : Bool :=
  !name.isEmpty && name.len ≤ 253 && (Str.split '.' name).all isListLabel

/-- `strip_prefix("*.").unwrap_or(..)` -/
def unstarred (normalized : Str) : Str :=
  (Str.stripPrefix "*.".toList normalized).getD normalized

/-- `parse_domain_line`.  A line is trimmed, loses its comment, and is either a hosts line, of
which the second word is taken, or the pattern itself. -/
def parseDomainLine (line : Str) : Option Str :=
  let line := Str.trim line
  if line.isEmpty || "#".toList.isPrefixOf line then none
  else
    let domainPart :=
      if "0.0.0.0".toList.isPrefixOf line || "127.0.0.1".toList.isPrefixOf line then
        ((Str.splitWhitespace line)[1]?).getD []
      else line
    let normalized := Str.toAsciiLowercase (Str.trimEndMatches '.' (Str.trim domainPart))
    if isListName (unstarred normalized) then some normalized else none

example : parseDomainLine " 0.0.0.0 Ads.Example.com. # ads".toList =
    some "ads.example.com".toList := by decide

/-- A text some line of a list parses to.  It is one that parses to itself, since it can stand in
a line alone. -/
def Canonical (domain : Str) : Prop := ∃ line, parseDomainLine line = some domain

/-! ## Characters of listed names

What the parser lets through is ASCII, and the labels of a name on a list are made of few
characters.  Both facts are needed where a name of a list meets the store, the file or a DNS
message. -/

/-- A character whose encoding is one byte of a label. -/
def isLabelChar (c : Char) : Bool := c.toNat < 128 && isLabelByte (UInt8.ofNat c.toNat)

theorem all_utf8_isLabelByte (label : Str) :
    label.utf8.all isLabelByte = label.all isLabelChar := by
  induction label with
  | nil => rfl
  | cons c rest ih =>
      rw [Str.utf8_cons, List.all_append, List.all_cons, ih]
      congr 1
      by_cases ascii : c.toNat < 128
      · simp [Str.utf8EncodeChar_ascii ascii, isLabelChar, ascii]
      · have wide := Nat.le_of_not_lt ascii
        have refused : isLabelChar c = false := by simp [isLabelChar, ascii]
        rw [refused]
        obtain ⟨byte, mem⟩ : ∃ byte, byte ∈ String.utf8EncodeChar c := by
          refine List.exists_mem_of_ne_nil _ fun nothing => ?_
          have size := String.length_utf8EncodeChar c
          rw [nothing] at size
          have := c.utf8Size_pos
          simp at size
          omega
        rw [List.all_eq_false]
        refine ⟨byte, mem, ?_⟩
        have high := Str.le_of_mem_utf8EncodeChar wide mem
        have out : ∀ n : UInt8, n.toNat < 128 → ¬ byte ≤ n := fun n small le => by
          have := UInt8.le_iff_toNat_le.mp le
          omega
        have ne : ∀ n : UInt8, n.toNat < 128 → byte ≠ n := fun n small same =>
          out n small (same ▸ UInt8.le_refl _)
        simp [isLabelByte, out 57 (by decide), out 90 (by decide), out 122 (by decide),
          ne 45 (by decide), ne 95 (by decide)]

theorem isLabelChar_ascii {c : Char} (ok : isLabelChar c = true) : c.toNat < 128 := by
  rw [isLabelChar, Bool.and_eq_true, decide_eq_true_eq] at ok
  exact ok.1

theorem isListLabel_iff {label : Str} :
    isListLabel label = true ↔
      label ≠ [] ∧ label.len ≤ 63 ∧ ∀ c ∈ label, isLabelChar c = true := by
  rw [isListLabel, all_utf8_isLabelByte]
  simp [and_assoc]

/-- What a label character is not. -/
theorem isLabelChar_plain {c : Char} (ok : isLabelChar c = true) :
    c ≠ '.' ∧ c ≠ '*' ∧ Str.isWhitespace c = false :=
  Str.ascii_forall (P := fun c => isLabelChar c = true →
      c ≠ '.' ∧ c ≠ '*' ∧ Str.isWhitespace c = false)
    (by decide +kernel) (isLabelChar_ascii ok) ok

/-- A listed name is made of label characters and full stops. -/
theorem isLabelChar_of_mem_listName {name : Str} (ok : isListName name = true) {c : Char}
    (mem : c ∈ name) : c = '.' ∨ isLabelChar c = true := by
  rcases Str.mem_of_mem_split (c := '.') mem with dot | ⟨label, inside, here⟩
  · exact Or.inl dot
  · rw [isListName, Bool.and_eq_true, List.all_eq_true] at ok
    exact Or.inr ((isListLabel_iff.mp (ok.2 label inside)).2.2 c here)

theorem ne_nil_of_listName {name : Str} (ok : isListName name = true) : name ≠ [] := by
  rintro rfl
  cases ok

/-- A listed name does not end in a full stop: its last label is not empty. -/
theorem getLast_of_listName {name : Str} (ok : isListName name = true) :
    name.getLast? ≠ some '.' := by
  intro last
  obtain ⟨front, rfl⟩ := List.getLast?_eq_some_iff.mp last
  have tail : [] ∈ Str.split '.' (front ++ ['.']) := by
    rw [Str.split_append_cons]
    exact List.mem_append_right _ (by simp [Str.split])
  rw [isListName, Bool.and_eq_true, List.all_eq_true] at ok
  exact (isListLabel_iff.mp (ok.2 [] tail)).1 rfl

/-! ## Canonical texts

A canonical text is what the parser returns for some line.  The section finds out which texts
these are, and that the store, the normalization and the parser itself leave them alone; from here
on a list is a set of such texts. -/

section Canonical

variable {domain : Str}

theorem unstarred_cases (domain : Str) :
    (Str.stripPrefix "*.".toList domain = none ∧ unstarred domain = domain) ∨
      ∃ suffix, Str.stripPrefix "*.".toList domain = some suffix ∧
        unstarred domain = suffix ∧ domain = "*.".toList ++ suffix := by
  unfold unstarred
  cases starred : Str.stripPrefix "*.".toList domain with
  | none => exact Or.inl ⟨rfl, rfl⟩
  | some suffix => exact Or.inr ⟨suffix, rfl, rfl, Str.stripPrefix_eq_some.mp starred⟩

theorem text_entryOf (domain : Str) : (entryOf domain).text = unstarred domain := by
  unfold entryOf unstarred
  split
  next starred => rw [starred]; rfl
  next unstarred => rw [unstarred]; rfl

/-- The characters of a pattern. -/
theorem char_of_pattern (ok : isListName (unstarred domain) = true) {c : Char}
    (mem : c ∈ domain) : c = '*' ∨ c = '.' ∨ isLabelChar c = true := by
  rcases unstarred_cases domain with ⟨-, same⟩ | ⟨suffix, -, same, rfl⟩
  · rw [same] at ok
    exact Or.inr (isLabelChar_of_mem_listName ok mem)
  · rw [same] at ok
    rcases List.mem_append.mp mem with star | later
    · rcases List.mem_cons.mp star with rfl | dot
      · exact Or.inl rfl
      · exact Or.inr (Or.inl (List.mem_singleton.mp dot))
    · exact Or.inr (isLabelChar_of_mem_listName ok later)

theorem pattern_ascii (ok : isListName (unstarred domain) = true) :
    ∀ c ∈ domain, c.toNat < 128 := by
  intro c mem
  rcases char_of_pattern ok mem with rfl | rfl | label
  · decide
  · decide
  · exact isLabelChar_ascii label

theorem pattern_solid (ok : isListName (unstarred domain) = true) :
    ∀ c ∈ domain, Str.isWhitespace c = false := by
  intro c mem
  rcases char_of_pattern ok mem with rfl | rfl | label
  · decide
  · decide
  · exact (isLabelChar_plain label).2.2

theorem pattern_ne_nil (ok : isListName (unstarred domain) = true) : domain ≠ [] := by
  rintro rfl
  exact ne_nil_of_listName ok rfl

theorem pattern_getLast (ok : isListName (unstarred domain) = true) :
    domain.getLast? ≠ some '.' := by
  rcases unstarred_cases domain with ⟨-, same⟩ | ⟨suffix, -, same, rfl⟩
  · rw [same] at ok
    exact getLast_of_listName ok
  · rw [same] at ok
    rw [List.getLast?_append_of_ne_nil _ (ne_nil_of_listName ok)]
    exact getLast_of_listName ok

/-- A hosts line parses to the pattern it names. -/
theorem parseDomainLine_hosts (ok : isListName (unstarred domain) = true)
    (lower : Str.toAsciiLowercase domain = domain) :
    parseDomainLine ("0.0.0.0 ".toList ++ domain) = some domain := by
  have nonempty := pattern_ne_nil ok
  have solid := pattern_solid ok
  have line : Str.trim ("0.0.0.0 ".toList ++ domain) = "0.0.0.0 ".toList ++ domain := by
    have front : ("0.0.0.0 ".toList ++ domain).dropWhile Str.isWhitespace =
        "0.0.0.0 ".toList ++ domain := rfl
    rw [Str.trim, front]
    refine List.rdropWhile_eq_self_iff.mpr fun _ => ?_
    rw [List.getLast_append_of_ne_nil _ nonempty]
    simp [solid _ (List.getLast_mem nonempty)]
  have words : Str.splitWhitespace ("0.0.0.0 ".toList ++ domain) =
      ["0.0.0.0".toList, domain] := by
    have apart : ("0.0.0.0 ".toList ++ domain).splitOnP Str.isWhitespace =
        ["0.0.0.0".toList, domain] := by
      have digits : ∀ c ∈ "0.0.0.0".toList, Str.isWhitespace c = false :=
        List.forall_mem_cons.mpr ⟨rfl, by simp; decide⟩
      have first := List.splitOnP_append_cons_of_forall_mem digits ' ' (by decide) domain
      rw [List.splitOnP_eq_singleton solid] at first
      exact first
    rw [Str.splitWhitespace, apart]
    simp [nonempty]
  have ends : Str.trimEndMatches '.' domain = domain := by
    refine List.rdropWhile_eq_self_iff.mpr fun _ => ?_
    rw [beq_iff_eq]
    intro last
    exact pattern_getLast ok (by rw [List.getLast?_eq_some_getLast nonempty, last])
  unfold parseDomainLine
  simp only [line, words]
  simp [Str.trim_eq_self solid, ends, lower, ok]

/-- **The canonical texts**: patterns in lower case. -/
theorem canonical_iff : Canonical domain ↔
    isListName (unstarred domain) = true ∧ Str.toAsciiLowercase domain = domain := by
  constructor
  · rintro ⟨line, parsed⟩
    unfold parseDomainLine at parsed
    simp only at parsed
    obtain ⟨-, parsed⟩ := Option.ite_none_left_eq_some.mp parsed
    obtain ⟨ok, same⟩ := Option.ite_none_right_eq_some.mp parsed
    rw [← Option.some.inj same]
    exact ⟨ok, Str.toAsciiLowercase_idem _⟩
  · rintro ⟨ok, lower⟩
    exact ⟨_, parseDomainLine_hosts ok lower⟩

instance : DecidablePred Canonical := fun _ => decidable_of_iff _ canonical_iff.symm

namespace Canonical

theorem listName (canonical : Canonical domain) : isListName (unstarred domain) = true :=
  (canonical_iff.mp canonical).1

/-- A canonical text is its own normal form. -/
theorem normalizeDomain (canonical : Canonical domain) (u : CaseTables) :
    normalizeDomain u domain = domain := by
  obtain ⟨ok, lower⟩ := canonical_iff.mp canonical
  rw [RustBlocker.normalizeDomain, u.toLowercase_ascii (pattern_ascii ok), lower]
  exact if_neg (pattern_getLast ok)

/-- A canonical text is an entry the store accepts. -/
theorem admissible (canonical : Canonical domain) : (entryOf domain).Admissible := by
  have ok := canonical.listName
  rw [Entry.Admissible, text_entryOf]
  refine ⟨ne_nil_of_listName ok, ?_⟩
  rw [isListName, Bool.and_eq_true, Bool.and_eq_true, decide_eq_true_eq] at ok
  omega

end Canonical

end Canonical

/-- A text is determined by the entry it stands for, so that a set of entries is a set of texts. -/
theorem entryOf_injective : Function.Injective entryOf := by
  intro s t same
  unfold entryOf at same
  split at same
  next suffix starred =>
    split at same
    next suffix' starred' =>
      cases same
      rw [Str.stripPrefix_eq_some.mp starred, Str.stripPrefix_eq_some.mp starred']
    next => cases same
  next =>
    split at same
    next => cases same
    next =>
      cases same
      rfl

end RustBlocker
