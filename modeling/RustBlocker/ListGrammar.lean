import RustBlocker.DomainLines

/-!
# The grammar of a list line

Which lines `parse_domain_line` accepts, against the format as it is documented: a domain pattern
on its own, or the second word of a hosts line, which is a line whose first word is `0.0.0.0` or
`127.0.0.1`.

The parser takes a line for a hosts line when its *text* starts with one of the two addresses.
`parse_iff_grammar` says that this makes the only difference: the parser keeps to the grammar
exactly on the lines that do not have, as their first word, a longer word that starts with an
address, and a pattern where the two disagree about it.

## The grammar

`LineGrammar` is written from the format and names no function of the parser: a pattern is built
up from labels, full stops and a star, by concatenation, where the parser takes the text apart.
The two meet in `IsDomainPattern`, whose lengths are in characters; that the parser counts bytes
makes no difference, since every character of a name is ASCII.

Two remarks about what it does not ask.  A name may be of one label and may be all digits; another
IPv4 address is therefore a pattern, and a hosts line of it is no hosts line.  What follows the
second word of a hosts line is not looked at, whether it is a comment or a second name.

What the parser returns is also compared with what the insertion into a store makes of it
(`KeepsToGrammar`), so that the row of the database and the entry of the store are the same name.
-/

namespace RustBlocker

/-! ## The grammar -/

/-- A character of a label: an ASCII letter or digit, a hyphen or an underscore. -/
def IsNameChar (c : Char) : Prop := c.isAlphanum = true ∨ c = '-' ∨ c = '_'

instance : DecidablePred IsNameChar := fun c =>
  inferInstanceAs (Decidable (c.isAlphanum = true ∨ c = '-' ∨ c = '_'))

/-- A domain pattern: labels with full stops between them, an optional `*.` in front
and any number of full stops behind. -/
def IsDomainPattern (token : Str) : Prop :=
  ∃ (star : Str) (labels : List Str) (dots : Nat),
    token = star ++ (List.intercalate ['.'] labels ++ List.replicate dots '.') ∧
    (star = [] ∨ star = "*.".toList) ∧ labels ≠ [] ∧
    (∀ label ∈ labels, label ≠ [] ∧ label.length ≤ 63 ∧ ∀ c ∈ label, IsNameChar c) ∧
    (List.intercalate ['.'] labels).length ≤ 253

/-- What a pattern is stored as: in lower case, without the full stops behind. -/
def patternText (token : Str) : Str := Str.toAsciiLowercase (Str.trimEndMatches '.' token)

/-- The two addresses of hosts files. -/
def hostsAddresses : List Str := ["0.0.0.0".toList, "127.0.0.1".toList]

/-- The line is a pattern, or the hosts line of a pattern, and this is its text.  A comment has
its mark at the very start, blanks apart. -/
def LineGrammar (line domain : Str) : Prop :=
  let trimmed := Str.trim line
  trimmed ≠ [] ∧ ¬ "#".toList <+: trimmed ∧
    (((∀ c ∈ trimmed, Str.isWhitespace c = false) ∧ trimmed ∉ hostsAddresses ∧
        IsDomainPattern trimmed ∧ domain = patternText trimmed) ∨
      ∃ address token rest, Str.splitWhitespace trimmed = address :: token :: rest ∧
        address ∈ hostsAddresses ∧ IsDomainPattern token ∧ domain = patternText token)

/-! ## Texts and their words

Trimming and splitting a text into words, and what this says of its first word.  The parser trims
first and looks for an address at the front; the grammar speaks of words. -/

namespace Str

theorem isAlphanum_ascii {c : Char} (alnum : c.isAlphanum = true) : c.toNat < 128 := by
  simp only [Char.isAlphanum, Char.isAlpha, Char.isUpper, Char.isLower, Char.isDigit,
    Bool.or_eq_true, Bool.and_eq_true, decide_eq_true_eq, UInt32.le_iff_toNat_le,
    ge_iff_le] at alnum
  have code : c.toNat = c.val.toNat := rfl
  simp at alnum
  omega

/-- A map that moves no character to the separator or away from it maps the parts. -/
theorem split_map {c : Char} {f : Char → Char} (keeps : ∀ d, f d = c ↔ d = c) (s : Str) :
    split c (s.map f) = (split c s).map (List.map f) := by
  induction s with
  | nil => rfl
  | cons d rest ih =>
      rw [List.map_cons, split_cons, split_cons, ih]
      by_cases here : d = c
      · rw [if_pos here, if_pos ((keeps d).mpr here)]
        rfl
      · rw [if_neg here, if_neg (mt (keeps d).mp here)]
        obtain ⟨first, more, parts⟩ := List.exists_cons_of_ne_nil (@split_ne_nil c rest)
        rw [parts]
        rfl

theorem trimEndMatches_append {c : Char} {s : Str} (ends : s.getLast? ≠ some c) (n : Nat) :
    trimEndMatches c (s ++ List.replicate n c) = s := by
  induction n with
  | zero =>
      rw [List.replicate_zero, List.append_nil]
      refine List.rdropWhile_eq_self_iff.mpr fun filled => ?_
      rw [beq_iff_eq]
      intro last
      exact ends (by rw [List.getLast?_eq_some_getLast filled, last])
  | succ n ih =>
      rw [List.replicate_succ', ← List.append_assoc, trimEndMatches,
        List.rdropWhile_concat_pos (fun d => d == c) _ c (beq_self_eq_true c)]
      exact ih

theorem exists_replicate (c : Char) (s : Str) :
    ∃ n, s = trimEndMatches c s ++ List.replicate n c := by
  refine ⟨(s.rtakeWhile fun d => d == c).length, ?_⟩
  have same : ∀ d ∈ s.rtakeWhile (fun d => d == c), d = c := fun d mem =>
    beq_iff_eq.mp (@List.mem_rtakeWhile_imp _ (fun d => d == c) s d mem)
  rw [← List.eq_replicate_of_mem same]
  exact List.rdropWhile_append_rtakeWhile.symm

theorem len_toAsciiLowercase (s : Str) : (toAsciiLowercase s).len = s.len := by
  have size : ∀ c : Char,
      (String.utf8EncodeChar c.toLower).length = (String.utf8EncodeChar c).length :=
    toLower_keeps (f := fun c => (String.utf8EncodeChar c).length) (by decide +kernel)
  induction s with
  | nil => rfl
  | cons c rest ih =>
      rw [len, len] at ih ⊢
      rw [toAsciiLowercase, List.map_cons, utf8_cons, utf8_cons, List.length_append,
        List.length_append, size c, ← ih]
      rfl

/-- A text that is not empty after it was trimmed starts with no whitespace. -/
theorem head_trim {s : Str} {c : Char} {rest : Str} (trimmed : trim s = c :: rest) :
    isWhitespace c = false := by
  obtain ⟨after, whole⟩ : trim s <+: s.dropWhile isWhitespace := List.rdropWhile_prefix ..
  rw [trimmed] at whole
  have head := List.head?_dropWhile_not isWhitespace s
  rw [← whole] at head
  simpa using head

theorem trim_trim (s : Str) : trim (trim s) = trim s := by
  cases trimmed : trim s with
  | nil => rfl
  | cons c rest =>
      have front : (c :: rest).dropWhile isWhitespace = c :: rest :=
        List.dropWhile_cons_of_neg (by simp [head_trim trimmed])
      rw [trim, front, ← trimmed, trim, List.rdropWhile_idempotent]

/-- A word has no whitespace. -/
theorem solid_of_mem_splitWhitespace {s word : Str} (mem : word ∈ splitWhitespace s) :
    ∀ c ∈ word, isWhitespace c = false :=
  separated_of_mem_splitOnP (List.mem_filter.mp mem).1

/-- The first word of a text that starts with one is what stands before the first
whitespace. -/
theorem splitWhitespace_cons {c : Char} (rest : Str) (solid : isWhitespace c = false) :
    splitWhitespace (c :: rest) =
      (c :: rest).takeWhile (fun d => !isWhitespace d) ::
        splitWhitespace ((c :: rest).dropWhile fun d => !isWhitespace d) := by
  have whole := List.takeWhile_append_dropWhile (p := fun d => !isWhitespace d) (l := c :: rest)
  have word : ∀ d ∈ (c :: rest).takeWhile (fun d => !isWhitespace d), isWhitespace d = false :=
    fun d mem => by simpa using List.mem_takeWhile_imp mem
  have filled : ((c :: rest).takeWhile fun d => !isWhitespace d).isEmpty = false := by
    rw [List.takeWhile_cons_of_pos (by simp [solid])]
    rfl
  cases after : (c :: rest).dropWhile fun d => !isWhitespace d with
  | nil =>
      rw [after, List.append_nil] at whole
      conv_lhs => rw [← whole]
      rw [splitWhitespace, List.splitOnP_eq_singleton word,
        List.filter_cons_of_pos (by rw [filled]; rfl)]
      rfl
  | cons space later =>
      have blank : isWhitespace space = true := by
        have head := List.head?_dropWhile_not (fun d => !isWhitespace d) (c :: rest)
        rw [after] at head
        simpa using head
      rw [after] at whole
      conv_lhs => rw [← whole]
      rw [splitWhitespace, List.splitOnP_append_cons_of_forall_mem word space blank,
        List.filter_cons_of_pos (by rw [filled]; rfl), splitWhitespace,
        List.splitOnP_cons_eq_if_modifyHead, if_pos blank]
      rfl

theorem splitWhitespace_space {space : Char} (blank : isWhitespace space = true) (s : Str) :
    splitWhitespace (space :: s) = splitWhitespace s := by
  rw [splitWhitespace, List.splitOnP_cons_eq_if_modifyHead, if_pos blank]
  rfl

/-- A text without words is blank. -/
theorem blank_of_splitWhitespace {s : Str} (nothing : splitWhitespace s = []) :
    ∀ c ∈ s, isWhitespace c = true := by
  induction s with
  | nil => exact fun _ mem => nomatch mem
  | cons d rest ih =>
      cases blank : isWhitespace d with
      | false =>
          rw [splitWhitespace_cons _ blank] at nothing
          cases nothing
      | true =>
          rw [splitWhitespace_space blank] at nothing
          exact List.forall_mem_cons.mpr ⟨blank, ih nothing⟩

/-- A trimmed text ends in no whitespace. -/
theorem getLast_trim {s : Str} (filled : trim s ≠ []) :
    isWhitespace ((trim s).getLast filled) = false :=
  Bool.eq_false_iff.mpr (List.rdropWhile_last_not _ _ filled)

/-- A trimmed text is its first word, or goes on with whitespace and another word. -/
theorem trim_words {s : Str} (filled : trim s ≠ []) :
    ∃ first rest, splitWhitespace (trim s) = first :: rest ∧
      (∀ word, word <+: trim s → (∀ c ∈ word, isWhitespace c = false) → word <+: first) ∧
      first <+: trim s ∧ (rest = [] → trim s = first) ∧
      (rest ≠ [] → ∃ c ∈ trim s, isWhitespace c = true) := by
  obtain ⟨c, tail, trimmed⟩ := List.exists_cons_of_ne_nil filled
  have words := splitWhitespace_cons tail (head_trim trimmed)
  rw [← trimmed] at words
  have whole := List.takeWhile_append_dropWhile (p := fun d => !isWhitespace d) (l := trim s)
  refine ⟨_, _, words, fun word front solid => ?_, List.takeWhile_prefix _, fun last => ?_,
    fun more => ?_⟩
  · obtain ⟨after, same⟩ := front
    rw [← same, List.takeWhile_append_of_pos fun c mem => by simp [solid c mem]]
    exact List.prefix_append ..
  · -- What follows the first word is blank, and the text does not end so.
    cases after : (trim s).dropWhile fun d => !isWhitespace d with
    | nil =>
        rw [after, List.append_nil] at whole
        exact whole.symm
    | cons d later =>
        exfalso
        have blank := blank_of_splitWhitespace last
        have ends := getLast_trim filled
        rw [List.getLast_congr filled _ whole.symm, List.getLast_append_of_ne_nil _
          (by rw [after]; exact List.cons_ne_nil d later)] at ends
        rw [blank _ (List.getLast_mem _)] at ends
        cases ends
        rw [after]
        exact List.append_ne_nil_of_right_ne_nil _ (List.cons_ne_nil d later)
  · cases after : (trim s).dropWhile fun d => !isWhitespace d with
    | nil =>
        rw [after] at more
        exact absurd rfl more
    | cons d later =>
        have head := List.head?_dropWhile_not (fun d => !isWhitespace d) (trim s)
        rw [after] at head
        refine ⟨d, ?_, by simpa using head⟩
        rw [← whole, after]
        exact List.mem_append_right _ List.mem_cons_self

end Str

/-! ## Patterns

The parser checks a token by splitting it at its full stops and counting; the grammar builds it
from labels.  That the two agree is proved label by label. -/

theorem isNameChar_iff {c : Char} : IsNameChar c ↔ isLabelChar c = true := by
  by_cases ascii : c.toNat < 128
  · exact Str.ascii_forall (P := fun c => IsNameChar c ↔ isLabelChar c = true)
      (by decide +kernel) ascii
  · constructor
    · rintro (alnum | rfl | rfl)
      · exact absurd (Str.isAlphanum_ascii alnum) ascii
      · exact absurd (by decide) ascii
      · exact absurd (by decide) ascii
    · exact fun ok => absurd (isLabelChar_ascii ok) ascii

theorem isLabelChar_toLower (c : Char) : isLabelChar c.toLower = isLabelChar c :=
  Str.toLower_keeps (by decide +kernel) c

theorem toLower_eq_dot (c : Char) : c.toLower = '.' ↔ c = '.' :=
  Str.toLower_eq_iff (by decide +kernel) c

theorem toLower_eq_star (c : Char) : c.toLower = '*' ↔ c = '*' :=
  Str.toLower_eq_iff (by decide +kernel) c

/-- A name the parser takes is labels with full stops between them. -/
theorem isListName_iff {name : Str} : isListName name = true ↔
    ∃ labels : List Str, name = List.intercalate ['.'] labels ∧ labels ≠ [] ∧
      (∀ label ∈ labels, label ≠ [] ∧ label.length ≤ 63 ∧ ∀ c ∈ label, IsNameChar c) ∧
      name.length ≤ 253 := by
  constructor
  · intro ok
    have ascii : ∀ c ∈ name, c.toNat < 128 := by
      intro c mem
      rcases isLabelChar_of_mem_listName ok mem with rfl | label
      · decide
      · exact isLabelChar_ascii label
    have parts := ok
    rw [isListName, Bool.and_eq_true, Bool.and_eq_true, List.all_eq_true,
      decide_eq_true_eq, Str.len_of_ascii ascii] at parts
    refine ⟨Str.split '.' name, (List.intercalate_splitOn '.').symm, Str.split_ne_nil name,
      fun label mem => ?_, parts.1.2⟩
    obtain ⟨filled, short, chars⟩ := isListLabel_iff.mp (parts.2 label mem)
    rw [Str.len_of_ascii fun c inside => isLabelChar_ascii (chars c inside)] at short
    exact ⟨filled, short, fun c inside => isNameChar_iff.mpr (chars c inside)⟩
  · rintro ⟨labels, rfl, filled, good, short⟩
    have chars : ∀ label ∈ labels, ∀ c ∈ label, isLabelChar c = true :=
      fun label mem c inside => isNameChar_iff.mp ((good label mem).2.2 c inside)
    have parts : Str.split '.' (List.intercalate ['.'] labels) = labels := by
      rw [Str.split_intercalate filled]
      calc labels.flatMap (Str.split '.') = labels.flatMap fun label => [label] :=
            List.flatMap_congr fun label mem => Str.split_of_notMem fun dot =>
              (isLabelChar_plain (chars label mem '.' dot)).1 rfl
        _ = labels := List.flatMap_singleton' labels
    have ascii : ∀ c ∈ List.intercalate ['.'] labels, c.toNat < 128 := by
      intro c mem
      rcases Str.mem_of_mem_split (c := '.') mem with rfl | ⟨label, inside, here⟩
      · decide
      · rw [parts] at inside
        exact isLabelChar_ascii (chars label inside c here)
    have nonempty : List.intercalate ['.'] labels ≠ [] := by
      obtain ⟨first, more, rfl⟩ := List.exists_cons_of_ne_nil filled
      intro nothing
      have pieces := parts
      rw [nothing] at pieces
      cases pieces
      exact (good [] List.mem_cons_self).1 rfl
    rw [isListName, Bool.and_eq_true, Bool.and_eq_true, List.all_eq_true, decide_eq_true_eq, parts,
      Str.len_of_ascii ascii]
    refine ⟨⟨by simpa using nonempty, short⟩, fun label mem => isListLabel_iff.mpr ?_⟩
    refine ⟨(good label mem).1, ?_, chars label mem⟩
    rw [Str.len_of_ascii fun c inside => isLabelChar_ascii (chars label mem c inside)]
    exact (good label mem).2.1

/-- The case of its letters does not matter to a name. -/
theorem isListName_toAsciiLowercase (name : Str) :
    isListName (Str.toAsciiLowercase name) = isListName name := by
  have label : ∀ label : Str, isListLabel (Str.toAsciiLowercase label) = isListLabel label := by
    intro label
    rw [isListLabel, isListLabel, all_utf8_isLabelByte, all_utf8_isLabelByte,
      Str.len_toAsciiLowercase, Str.toAsciiLowercase, List.isEmpty_map, List.all_map]
    congr 2
    ext c
    exact isLabelChar_toLower c
  rw [isListName, isListName, Str.len_toAsciiLowercase, Str.toAsciiLowercase, List.isEmpty_map,
    Str.split_map toLower_eq_dot, List.all_map]
  congr 2
  ext part
  exact label part

theorem unstarred_star (suffix : Str) : unstarred ("*.".toList ++ suffix) = suffix := by
  rw [unstarred, Str.stripPrefix_eq_some.mpr rfl]
  rfl

/-- A name has no star to strip. -/
theorem unstarred_of_isListName {name : Str} (ok : isListName name = true) :
    unstarred name = name := by
  rcases unstarred_cases name with ⟨-, same⟩ | ⟨suffix, -, -, whole⟩
  · exact same
  · have star : '*' ∈ name := by rw [whole]; exact List.mem_cons_self
    rcases isLabelChar_of_mem_listName ok star with dot | label
    · cases dot
    · exact absurd rfl (isLabelChar_plain label).2.1

/-- **The check the parser makes of a token** is that it is a domain pattern. -/
theorem isDomainPattern_iff {token : Str} :
    IsDomainPattern token ↔ isListName (unstarred (patternText token)) = true := by
  constructor
  · rintro ⟨star, labels, dots, rfl, stars, filled, good, short⟩
    have ok : isListName (List.intercalate ['.'] labels) = true :=
      isListName_iff.mpr ⟨labels, rfl, filled, good, short⟩
    have ends : (star ++ List.intercalate ['.'] labels).getLast? ≠ some '.' := by
      rw [List.getLast?_append_of_ne_nil _ (ne_nil_of_listName ok)]
      exact getLast_of_listName ok
    have text : patternText (star ++ (List.intercalate ['.'] labels ++ List.replicate dots '.')) =
        Str.toAsciiLowercase star ++ Str.toAsciiLowercase (List.intercalate ['.'] labels) := by
      rw [patternText, ← List.append_assoc, Str.trimEndMatches_append ends]
      exact List.map_append ..
    rw [text]
    rcases stars with rfl | rfl
    · have lower := isListName_toAsciiLowercase (List.intercalate ['.'] labels)
      rw [ok] at lower
      show isListName (unstarred (Str.toAsciiLowercase _)) = true
      rw [unstarred_of_isListName lower, lower]
    · show isListName (unstarred ("*.".toList ++ _)) = true
      rw [unstarred_star, isListName_toAsciiLowercase, ok]
  · intro ok
    obtain ⟨dots, whole⟩ := Str.exists_replicate '.' token
    rcases unstarred_cases (patternText token) with ⟨-, same⟩ | ⟨suffix, -, same, starred⟩
    · rw [same, patternText, isListName_toAsciiLowercase] at ok
      obtain ⟨labels, parts, filled, good, short⟩ := isListName_iff.mp ok
      refine ⟨[], labels, dots, ?_, Or.inl rfl, filled, good, parts ▸ short⟩
      rw [List.nil_append, ← parts]
      exact whole
    · -- The star and its full stop have no case, so they stand in the token too.
      rw [same] at ok
      rw [patternText, Str.toAsciiLowercase] at starred
      obtain ⟨star, name, front, stars, rest⟩ := List.map_eq_append_iff.mp starred
      have kept : star = "*.".toList := by
        obtain ⟨first, star, rfl, here, later⟩ := List.map_eq_cons_iff.mp stars
        obtain ⟨second, star, rfl, there, last⟩ := List.map_eq_cons_iff.mp later
        rw [(toLower_eq_star first).mp here, (toLower_eq_dot second).mp there,
          List.map_eq_nil_iff.mp last]
        rfl
      rw [← rest] at ok
      have ok : isListName name = true := by
        rw [← isListName_toAsciiLowercase]
        exact ok
      obtain ⟨labels, parts, filled, good, short⟩ := isListName_iff.mp ok
      refine ⟨star, labels, dots, ?_, Or.inr kept, filled, good, parts ▸ short⟩
      rw [← parts, ← List.append_assoc, ← front]
      exact whole

instance : DecidablePred IsDomainPattern := fun _ => decidable_of_iff _ isDomainPattern_iff.symm

/-- The characters of a pattern. -/
theorem IsDomainPattern.char {token : Str} (pattern : IsDomainPattern token) {c : Char}
    (mem : c ∈ token) : c = '*' ∨ c = '.' ∨ isLabelChar c = true := by
  obtain ⟨star, labels, dots, rfl, stars, filled, good, short⟩ := pattern
  have ok : isListName (List.intercalate ['.'] labels) = true :=
    isListName_iff.mpr ⟨labels, rfl, filled, good, short⟩
  rcases List.mem_append.mp mem with here | mem
  · rcases stars with rfl | rfl
    · cases here
    · rcases List.mem_cons.mp here with rfl | dot
      · exact Or.inl rfl
      · exact Or.inr (Or.inl (List.mem_singleton.mp dot))
  · rcases List.mem_append.mp mem with here | here
    · exact Or.inr (isLabelChar_of_mem_listName ok here)
    · exact Or.inr (Or.inl (List.eq_of_mem_replicate here))

theorem IsDomainPattern.ascii {token : Str} (pattern : IsDomainPattern token) :
    ∀ c ∈ token, c.toNat < 128 := by
  intro c mem
  rcases pattern.char mem with rfl | rfl | label
  · decide
  · decide
  · exact isLabelChar_ascii label

/-- A pattern has no whitespace. -/
theorem IsDomainPattern.solid {token : Str} (pattern : IsDomainPattern token) :
    ∀ c ∈ token, Str.isWhitespace c = false := by
  intro c mem
  rcases pattern.char mem with rfl | rfl | label
  · decide
  · decide
  · exact (isLabelChar_plain label).2.2

theorem not_isDomainPattern_nil : ¬ IsDomainPattern [] := by decide

/-! ## The parser and the grammar

A line whose text starts with an address is read by its second word, and any other line as a
whole. What the grammar says of the same line differs only if the first word is longer than the
address. -/

/-- The part of a trimmed line that the parser checks. -/
def domainPart (trimmed : Str) : Str :=
  if "0.0.0.0".toList.isPrefixOf trimmed || "127.0.0.1".toList.isPrefixOf trimmed then
    ((Str.splitWhitespace trimmed)[1]?).getD []
  else trimmed

theorem hosts_prefix_iff {trimmed : Str} :
    ("0.0.0.0".toList.isPrefixOf trimmed || "127.0.0.1".toList.isPrefixOf trimmed) = true ↔
      ∃ address ∈ hostsAddresses, address <+: trimmed := by
  rw [Bool.or_eq_true, List.isPrefixOf_iff_prefix, List.isPrefixOf_iff_prefix]
  simp only [hostsAddresses, List.mem_cons, List.not_mem_nil, or_false, exists_eq_or_imp,
    exists_eq_left]

theorem trim_domainPart (line : Str) :
    Str.trim (domainPart (Str.trim line)) = domainPart (Str.trim line) := by
  unfold domainPart
  split
  · cases word : (Str.splitWhitespace (Str.trim line))[1]? with
    | none => rfl
    | some word' =>
        exact Str.trim_eq_self (Str.solid_of_mem_splitWhitespace (List.mem_of_getElem? word))
  · exact Str.trim_trim line

/-- What the parser does, in the terms of the grammar. -/
theorem parseDomainLine_eq_some {line domain : Str} :
    parseDomainLine line = some domain ↔
      Str.trim line ≠ [] ∧ ¬ "#".toList <+: Str.trim line ∧
        IsDomainPattern (domainPart (Str.trim line)) ∧
        domain = patternText (domainPart (Str.trim line)) := by
  have part := trim_domainPart line
  unfold parseDomainLine
  simp only
  rw [Option.ite_none_left_eq_some, Option.ite_none_right_eq_some]
  change _ ∧ isListName (unstarred (patternText (Str.trim (domainPart (Str.trim line))))) = true ∧
    some (patternText (Str.trim (domainPart (Str.trim line)))) = some domain ↔ _
  rw [part, ← isDomainPattern_iff, Option.some_inj, Bool.or_eq_true, not_or, List.isEmpty_iff,
    List.isPrefixOf_iff_prefix, and_assoc, eq_comm (a := patternText _)]

/-- The parser keeps to the grammar on a line, and what it returns is its own normal
form, so the row and the entry in the store are the same. -/
structure KeepsToGrammar (line : Str) : Prop where
  parses : ∀ domain, parseDomainLine line = some domain ↔ LineGrammar line domain
  normal : ∀ domain, parseDomainLine line = some domain →
    ∀ u : CaseTables, normalizeDomain u domain = domain

/-- The first word of the line starts with one of the two addresses and goes on, and it is a
pattern on its own, or the word after it is one.  On every other line the two ways to tell a hosts
line agree, or both refuse. -/
def Misread (line : Str) : Prop :=
  ∃ first rest, Str.splitWhitespace (Str.trim line) = first :: rest ∧ first ∉ hostsAddresses ∧
    (∃ address ∈ hostsAddresses, address <+: first) ∧ IsDomainPattern (rest.headD first)

/-- A text that starts with an address is no comment. -/
theorem not_comment_of_address {text : Str}
    (hosts : ∃ address ∈ hostsAddresses, address <+: text) : ¬ "#".toList <+: text := by
  rintro ⟨tail, rfl⟩
  obtain ⟨address, mem, before⟩ := hosts
  have heads : ∀ address ∈ hostsAddresses, address.head? ≠ some '#' ∧ address ≠ [] := by decide
  obtain ⟨head, filled⟩ := heads address mem
  obtain ⟨c, more, rfl⟩ := List.exists_cons_of_ne_nil filled
  obtain ⟨after, same⟩ := before
  cases same
  exact head rfl

/-- The address a text starts with stands in its first word. -/
theorem address_of_word {text first : Str}
    (longest : ∀ part, part <+: text → (∀ c ∈ part, Str.isWhitespace c = false) → part <+: first)
    (hosts : ∃ address ∈ hostsAddresses, address <+: text) :
    ∃ address ∈ hostsAddresses, address <+: first := by
  obtain ⟨address, mem, before⟩ := hosts
  have solid : hostsAddresses.all fun address => address.all fun c => !Str.isWhitespace c := by
    decide
  refine ⟨address, mem, longest address before fun c inside => ?_⟩
  simpa using List.all_eq_true.mp (List.all_eq_true.mp solid address mem) c inside

/-- A line whose text starts with an address: the parser looks at its second word. -/
theorem parses_hosts_iff {line : Str} (filled : Str.trim line ≠ [])
    (hosts : ∃ address ∈ hostsAddresses, address <+: Str.trim line) :
    (∀ domain, parseDomainLine line = some domain ↔ LineGrammar line domain) ↔
      ¬ Misread line := by
  obtain ⟨first, rest, words, longest, front, single, several⟩ := Str.trim_words filled
  have part : domainPart (Str.trim line) = rest.headD [] := by
    rw [domainPart, if_pos (hosts_prefix_iff.mpr hosts), words]
    cases rest <;> rfl
  have begins := address_of_word longest hosts
  have noComment := not_comment_of_address hosts
  have misread : Misread line ↔ first ∉ hostsAddresses ∧ IsDomainPattern (rest.headD first) := by
    constructor
    · rintro ⟨first', rest', words', other, -, pattern⟩
      rw [words] at words'
      cases words'
      exact ⟨other, pattern⟩
    · rintro ⟨other, pattern⟩
      exact ⟨first, rest, words, other, begins, pattern⟩
  rw [misread]
  cases rest with
  | nil =>
      have whole := single rfl
      have refused : ∀ domain, parseDomainLine line ≠ some domain := by
        intro domain parsed
        have pattern := (parseDomainLine_eq_some.mp parsed).2.2.1
        rw [part] at pattern
        exact not_isDomainPattern_nil pattern
      constructor
      · rintro parses ⟨other, pattern⟩
        refine refused _ ((parses (patternText first)).mpr ⟨filled, noComment, Or.inl ?_⟩)
        rw [whole]
        exact ⟨pattern.solid, other, pattern, rfl⟩
      · intro fine domain
        refine iff_of_false (refused domain) ?_
        rintro ⟨-, -, ⟨-, other, pattern, -⟩ | ⟨address, token, rest, words', -, -, -⟩⟩
        · rw [whole] at other pattern
          exact fine ⟨other, pattern⟩
        · rw [words] at words'
          cases words'
  | cons second later =>
      obtain ⟨space, inside, blank⟩ := several (List.cons_ne_nil _ _)
      have parsed : ∀ domain, parseDomainLine line = some domain ↔
          IsDomainPattern second ∧ domain = patternText second := by
        intro domain
        rw [parseDomainLine_eq_some, part]
        exact ⟨fun all => all.2.2, fun all => ⟨filled, noComment, all⟩⟩
      have grammar : ∀ domain, LineGrammar line domain ↔
          first ∈ hostsAddresses ∧ IsDomainPattern second ∧ domain = patternText second := by
        intro domain
        constructor
        · rintro ⟨-, -, ⟨solid, -⟩ | ⟨address, token, rest, words', mem, pattern, text⟩⟩
          · rw [solid space inside] at blank
            cases blank
          · rw [words] at words'
            cases words'
            exact ⟨mem, pattern, text⟩
        · rintro ⟨mem, pattern, text⟩
          exact ⟨filled, noComment, Or.inr ⟨first, second, later, words, mem, pattern, text⟩⟩
      constructor
      · rintro parses ⟨other, pattern⟩
        have accepted := (parses (patternText second)).mp ((parsed _).mpr ⟨pattern, rfl⟩)
        exact other ((grammar _).mp accepted).1
      · intro fine domain
        rw [parsed, grammar]
        refine ⟨fun accepted => ⟨?_, accepted⟩, And.right⟩
        by_contra other
        exact fine ⟨other, accepted.1⟩

/-- Any other line is checked as a whole. -/
theorem parses_plain {line : Str}
    (plain : ¬ ∃ address ∈ hostsAddresses, address <+: Str.trim line) (domain : Str) :
    parseDomainLine line = some domain ↔ LineGrammar line domain := by
  have part : domainPart (Str.trim line) = Str.trim line :=
    if_neg (mt hosts_prefix_iff.mp plain)
  rw [parseDomainLine_eq_some, part]
  constructor
  · rintro ⟨filled, noComment, pattern, text⟩
    exact ⟨filled, noComment, Or.inl ⟨pattern.solid,
      fun mem => plain ⟨_, mem, List.prefix_refl _⟩, pattern, text⟩⟩
  · rintro ⟨filled, noComment, ⟨-, -, pattern, text⟩ | ⟨address, token, rest, words, mem, -, -⟩⟩
    · exact ⟨filled, noComment, pattern, text⟩
    · obtain ⟨first, rest', words', -, front, -, -⟩ := Str.trim_words filled
      rw [words] at words'
      cases words'
      exact absurd ⟨address, mem, front⟩ plain

/-- **The parser keeps to the grammar of list lines exactly where it does not take a
longer word for an address.** -/
theorem parse_iff_grammar (line : Str) : KeepsToGrammar line ↔ ¬ Misread line := by
  have normal : ∀ domain, parseDomainLine line = some domain →
      ∀ u : CaseTables, normalizeDomain u domain = domain :=
    fun domain parsed u => Canonical.normalizeDomain ⟨line, parsed⟩ u
  have only : KeepsToGrammar line ↔
      ∀ domain, parseDomainLine line = some domain ↔ LineGrammar line domain :=
    ⟨KeepsToGrammar.parses, fun parses => ⟨parses, normal⟩⟩
  rw [only]
  by_cases hosts : ∃ address ∈ hostsAddresses, address <+: Str.trim line
  · have filled : Str.trim line ≠ [] := by
      obtain ⟨address, mem, before⟩ := hosts
      intro nothing
      rw [nothing, List.prefix_nil] at before
      subst before
      revert mem
      decide
    exact parses_hosts_iff filled hosts
  · refine iff_of_true (parses_plain hosts) ?_
    rintro ⟨first, rest, words, -, ⟨address, mem, before⟩, -⟩
    have filled : Str.trim line ≠ [] := by
      intro nothing
      rw [nothing] at words
      cases words
    obtain ⟨first', rest', words', -, front, -, -⟩ := Str.trim_words filled
    rw [words] at words'
    cases words'
    exact hosts ⟨address, mem, before.trans front⟩

/-- A hosts line of another address, and a name that starts like an address: the parser
takes the domain of the first and refuses the second. -/
theorem not_parse_iff_grammar :
    ¬ KeepsToGrammar "127.0.0.10 ads.example.com".toList ∧
      ¬ KeepsToGrammar "127.0.0.1.example.com".toList := by
  constructor
  · intro keeps
    have accepted : parseDomainLine "127.0.0.10 ads.example.com".toList =
        some "ads.example.com".toList := by decide
    obtain ⟨-, -, ⟨solid, -⟩ | ⟨address, token, rest, words, mem, -, -⟩⟩ :=
      (keeps.parses _).mp accepted
    · exact absurd (solid ' ' (by decide)) (by decide)
    · have first : (Str.splitWhitespace (Str.trim "127.0.0.10 ads.example.com".toList)).head? =
          some "127.0.0.10".toList := by decide
      rw [words, List.head?_cons, Option.some_inj] at first
      subst first
      revert mem
      decide
  · intro keeps
    have refused : parseDomainLine "127.0.0.1.example.com".toList = none := by decide
    have pattern : IsDomainPattern (Str.trim "127.0.0.1.example.com".toList) := by
      decide +kernel
    have grammar : LineGrammar "127.0.0.1.example.com".toList "127.0.0.1.example.com".toList :=
      ⟨by decide, by decide, Or.inl ⟨pattern.solid, by decide, pattern, by decide⟩⟩
    rw [(keeps.parses _).mpr grammar] at refused
    cases refused

end RustBlocker
