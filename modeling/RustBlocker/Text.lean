import Mathlib
import RustBlocker.Library.PackedArena

/-!
# Rust strings

A Rust `str` is a sequence of Unicode scalar values together with its UTF-8 bytes.  `Str` is the
sequence of scalar values (Lean's `Char` is exactly that type), and `Str.utf8` are its bytes;
`str::len` counts the latter.

The operations below are the ones of the standard library the repository uses, under the standard
library's names.  Two need a word.

* **`to_lowercase`** is Unicode lower-casing, final sigma included.  The character data it
  consults (`Lowercase_Mapping`, `Cased`, `Case_Ignorable`) is the Unicode version of the
  toolchain; `CaseTables` is that data with the facts about it the development relies on, so every
  result holds for any version. `CaseTables.ascii` is the part of the data that ASCII text meets.
* **`lines`** splits at `\n` and drops a `\r` that stands before it, but not one at the end of an
  unterminated last line.

## What is assumed of Unicode

The fields of `CaseTables` are the whole of it.  On ASCII the mapping is the one that everybody
knows; what is lower-cased stays; and nothing but itself is mapped to a digit, a full stop, a
hyphen or any other ASCII character that is not a letter.  (The Kelvin sign is mapped to a `k`, so
the same cannot be said of letters.)  The sigma is singled out because its lower case depends on
what stands around it, and with it `to_lowercase` is not a map over the characters.  This is why
the lower case of a part of a text is not a part of the lower case of the text, and several
results about names take care to lower-case the same text that the code lower-cases.

## Orders

Strings are compared by their bytes, in Rust and in SQLite with the default collation.  A sorted
list of strings is determined by the strings in it (`sort_eq_of_perm`), so what goes through a
sort does not depend on the order in which a set or a table was read.
-/

namespace RustBlocker

/-- A Rust string: its Unicode scalar values.  Surrogates are no values of `Char`, so there is no
string here that Rust could not hold. -/
abbrev Str := List Char

namespace Str

/-- The UTF-8 bytes of a string. -/
def utf8 (s : Str) : Bytes := s.flatMap String.utf8EncodeChar

/-- `str::len`, the length in bytes. -/
def len (s : Str) : Nat := s.utf8.length

@[simp] theorem utf8_nil : utf8 [] = [] := rfl

theorem utf8_cons (c : Char) (s : Str) :
    utf8 (c :: s) = String.utf8EncodeChar c ++ utf8 s := rfl

/-- A string has at least as many bytes as characters. -/
theorem length_le_len (s : Str) : s.length ≤ s.len := by
  induction s with
  | nil => exact Nat.zero_le _
  | cons c rest ih =>
      have : 0 < (String.utf8EncodeChar c).length := by
        rw [String.length_utf8EncodeChar]
        exact Char.utf8Size_pos c
      rw [len, utf8_cons, List.length_append, List.length_cons]
      rw [len] at ih
      omega

/-- `String::from_utf8`, without its error.  It refuses overlong forms and surrogates, as Rust
does. -/
def fromUtf8 (bytes : Bytes) : Option Str := bytes.toByteArray.utf8Decode?.map Array.toList

theorem fromUtf8_eq_some {bytes : Bytes} {s : Str} (decoded : fromUtf8 bytes = some s) :
    s.utf8 = bytes := by
  obtain ⟨chars, found, rfl⟩ := Option.map_eq_some_iff.mp decoded
  have valid : bytes.toByteArray.IsValidUTF8 :=
    ByteArray.isSome_utf8Decode?_iff.mp (Option.isSome_of_eq_some found)
  obtain ⟨encoded, same⟩ := valid
  rw [same, List.utf8Decode?_utf8Encode] at found
  cases found
  have data := congrArg (fun b : ByteArray => b.data.toList) same
  simpa [List.utf8Encode, utf8] using data.symm

theorem utf8_append (s t : Str) : utf8 (s ++ t) = utf8 s ++ utf8 t :=
  List.flatMap_append

theorem utf8_injective : Function.Injective utf8 := by
  intro s t same
  have encoded : s.utf8Encode = t.utf8Encode :=
    congrArg List.toByteArray same
  have decoded := congrArg ByteArray.utf8Decode? encoded
  rw [List.utf8Decode?_utf8Encode, List.utf8Decode?_utf8Encode] at decoded
  simpa using decoded

@[simp] theorem utf8_inj {s t : Str} : utf8 s = utf8 t ↔ s = t :=
  utf8_injective.eq_iff

@[simp] theorem utf8_eq_nil {s : Str} : utf8 s = [] ↔ s = [] := by
  rw [← utf8_nil, utf8_inj]

/-- An ASCII character is encoded by the byte of its code. -/
theorem utf8EncodeChar_ascii {c : Char} (ascii : c.toNat < 128) :
    String.utf8EncodeChar c = [UInt8.ofNat c.toNat] := by
  have code : c.val.toNat ≤ 127 := Nat.le_of_lt_succ ascii
  simp only [String.utf8EncodeChar, code, if_true]
  rfl

/-- Every byte of a non-ASCII character is at least 128, so no ASCII byte occurs
inside the encoding of another character. -/
theorem le_of_mem_utf8EncodeChar {c : Char} (wide : 128 ≤ c.toNat) {b : UInt8}
    (mem : b ∈ String.utf8EncodeChar c) : 128 ≤ b.toNat := by
  have code : ¬ c.val.toNat ≤ 127 := Nat.not_le.mpr wide
  simp only [String.utf8EncodeChar, code, if_false] at mem
  split at mem
  · simp only [List.mem_cons, List.not_mem_nil, or_false] at mem
    rcases mem with rfl | rfl <;> rw [UInt8.toNat_ofNat'] <;> omega
  · split at mem
    · simp only [List.mem_cons, List.not_mem_nil, or_false] at mem
      rcases mem with rfl | rfl | rfl <;> rw [UInt8.toNat_ofNat'] <;> omega
    · simp only [List.mem_cons, List.not_mem_nil, or_false] at mem
      rcases mem with rfl | rfl | rfl | rfl <;> rw [UInt8.toNat_ofNat'] <;> omega

/-- An ASCII string has one byte a character. -/
theorem len_of_ascii {s : Str} (ascii : ∀ c ∈ s, c.toNat < 128) :
    s.len = s.length := by
  induction s with
  | nil => rfl
  | cons c rest ih =>
      have tail := ih fun c' mem => ascii c' (List.mem_cons_of_mem _ mem)
      rw [len] at tail ⊢
      rw [utf8_cons, List.length_append, tail,
        utf8EncodeChar_ascii (ascii c List.mem_cons_self)]
      simp only [List.length_cons, List.length_nil]
      omega

/-- The byte of a full stop occurs in the encoding of a full stop only. -/
theorem dot_mem_utf8EncodeChar {c : Char} :
    (46 : UInt8) ∈ String.utf8EncodeChar c ↔ c = '.' := by
  constructor
  · intro mem
    by_cases ascii : c.toNat < 128
    · rw [utf8EncodeChar_ascii ascii, List.mem_singleton] at mem
      have code := congrArg UInt8.toNat mem
      rw [UInt8.toNat_ofNat', Nat.mod_eq_of_lt (by omega)] at code
      exact Char.ext (UInt32.toNat_inj.mp code.symm)
    · have := le_of_mem_utf8EncodeChar (Nat.le_of_not_lt ascii) mem
      simp at this
  · rintro rfl
    decide

/-- A property of the ASCII characters may be checked character by character. -/
theorem ascii_forall {P : Char → Prop} (each : ∀ n < 128, P (Char.ofNat n)) {c : Char}
    (ascii : c.toNat < 128) : P c := by
  have here := each c.toNat ascii
  rwa [Char.ofNat_toNat] at here

/-- Bytes as characters. -/
theorem charOfByte_injective : Function.Injective fun byte : UInt8 => Char.ofNat byte.toNat := by
  intro b b' same
  have code : ∀ n < 256, (Char.ofNat n).toNat = n := by decide +kernel
  have codes : (Char.ofNat b.toNat).toNat = (Char.ofNat b'.toNat).toNat := congrArg Char.toNat same
  exact UInt8.toNat_inj.mp (by rwa [code _ b.toNat_lt, code _ b'.toNat_lt] at codes)

/-! ## Splitting and trimming

The functions of `str` that the server uses, on lists of characters, and what is known of the
parts of a text: they have no separator in them, and a text that was joined from such parts is
taken apart into the same parts.  Most results about lists, manifests and settings end here. -/

/-- `str::strip_prefix`. -/
def stripPrefix (p s : Str) : Option Str :=
  if p.isPrefixOf s then some (s.drop p.length) else none

theorem stripPrefix_eq_some {p s t : Str} :
    stripPrefix p s = some t ↔ s = p ++ t := by
  unfold stripPrefix
  split
  next starts =>
    obtain ⟨rest, rfl⟩ := List.isPrefixOf_iff_prefix.mp starts
    simp [eq_comm]
  next differs =>
    constructor
    · intro h
      cases h
    rintro rfl
    exact absurd (List.isPrefixOf_iff_prefix.mpr (List.prefix_append p t)) differs

theorem stripPrefix_eq_none {p s : Str} :
    stripPrefix p s = none ↔ ∀ t, s ≠ p ++ t := by
  rw [Option.eq_none_iff_forall_ne_some]
  exact forall_congr' fun t => not_congr stripPrefix_eq_some

/-- Strings are ordered by their bytes.  For UTF-8 this is also the order of the scalar values. -/
def Before (s t : Str) : Prop := s.utf8 ≤ t.utf8

instance : DecidableRel Before := fun s t => inferInstanceAs (Decidable (s.utf8 ≤ t.utf8))

instance : Std.Total Before := ⟨fun s t => List.le_total s.utf8 t.utf8⟩

instance : IsTrans Str Before := ⟨fun _ _ _ => List.le_trans⟩

/-- `sort_unstable`, and `ORDER BY` on a text column.  Equal strings cannot be told apart, so
stability is no question. -/
def sort (strings : List Str) : List Str := strings.insertionSort Before

/-- `Vec::dedup`: drop every string equal to the one before it. -/
def dedup : List Str → List Str
  | s :: t :: rest => if s = t then dedup (t :: rest) else s :: dedup (t :: rest)
  | strings => strings

@[simp] theorem mem_sort {s : Str} {strings : List Str} : s ∈ sort strings ↔ s ∈ strings :=
  (List.perm_insertionSort Before strings).mem_iff

@[simp] theorem mem_dedup {s : Str} {strings : List Str} : s ∈ dedup strings ↔ s ∈ strings := by
  induction strings with
  | nil => rfl
  | cons t rest ih =>
      cases rest with
      | nil => rfl
      | cons t' more =>
          rw [dedup]
          split
          next same =>
            rw [ih, same]
            simp
          next => rw [List.mem_cons, ih, List.mem_cons (l := t' :: more)]

theorem Before.antisymm {s t : Str} (here : Before s t) (there : Before t s) : s = t :=
  utf8_injective (List.le_antisymm here there)

/-- Equal strings stand together in a sorted list, so `dedup` leaves each once. -/
theorem nodup_dedup {strings : List Str} (sorted : strings.Pairwise Before) :
    (dedup strings).Nodup := by
  induction strings with
  | nil => exact List.nodup_nil
  | cons s rest ih =>
      cases rest with
      | nil => exact List.nodup_singleton s
      | cons t more =>
          obtain ⟨first, sorted⟩ := List.pairwise_cons.mp sorted
          rw [dedup]
          split
          next => exact ih sorted
          next differs =>
            refine List.nodup_cons.mpr ⟨fun again => ?_, ih sorted⟩
            rcases List.mem_cons.mp (mem_dedup.mp again) with same | later
            · exact differs same
            · -- `s` stands before `t`, and after it too.
              have after := (List.pairwise_cons.mp sorted).1 s later
              exact differs ((first t List.mem_cons_self).antisymm after)

theorem nodup_dedup_sort (strings : List Str) : (dedup (sort strings)).Nodup :=
  nodup_dedup (List.pairwise_insertionSort Before strings)

/-- Only one order of a list of strings is sorted. -/
theorem sort_eq_of_perm {strings sorted : List Str} (perm : strings.Perm sorted)
    (order : sorted.Pairwise Before) : sort strings = sorted := by
  have antisymm : ∀ s t, s ∈ sort strings → t ∈ sorted → Before s t → Before t s → s = t :=
    fun s t _ _ here there => here.antisymm there
  exact List.Perm.eq_of_pairwise antisymm (List.pairwise_insertionSort Before strings)
    order ((List.perm_insertionSort Before strings).trans perm)

section SortBy

variable {α : Type} (key : α → Str)

/-- `ORDER BY` on one text column of a row.  The sort is stable here; a query that returns rows of
equal keys in another order is not modelled, and where it is used the keys are unique. -/
def sortBy (rows : List α) : List α := rows.insertionSort fun a b => Before (key a) (key b)

theorem sortBy_perm (rows : List α) : (sortBy key rows).Perm rows :=
  List.perm_insertionSort _ rows

theorem sortBy_pairwise (rows : List α) :
    (sortBy key rows).Pairwise fun a b => Before (key a) (key b) := by
  have total : Std.Total fun a b => Before (key a) (key b) :=
    ⟨fun a b => List.le_total (key a).utf8 (key b).utf8⟩
  have trans : IsTrans α fun a b => Before (key a) (key b) :=
    ⟨fun _ _ _ => List.le_trans⟩
  exact List.pairwise_insertionSort _ rows

/-- Sorting what is sorted changes nothing. -/
theorem sortBy_sortBy (rows : List α) : sortBy key (sortBy key rows) = sortBy key rows :=
  (sortBy_pairwise key rows).insertionSort_eq

end SortBy

/-- Lists of the same strings are sorted alike. -/
theorem sort_congr {strings strings' : List Str} (perm : strings.Perm strings') :
    sort strings = sort strings' :=
  sort_eq_of_perm (perm.trans (List.perm_insertionSort Before strings').symm)
    (List.pairwise_insertionSort Before strings')

/-- `str::strip_suffix` of one character. -/
def stripSuffix (c : Char) (s : Str) : Option Str :=
  if s.getLast? = some c then some s.dropLast else none

/-- `char::is_whitespace`, the Unicode property `White_Space`. -/
def isWhitespace (c : Char) : Bool :=
  let n := c.toNat
  (0x09 ≤ n && n ≤ 0x0D) || n == 0x20 || n == 0x85 || n == 0xA0 || n == 0x1680 ||
    (0x2000 ≤ n && n ≤ 0x200A) || n == 0x2028 || n == 0x2029 || n == 0x202F ||
    n == 0x205F || n == 0x3000

/-- `str::trim`. -/
def trim (s : Str) : Str := (s.dropWhile isWhitespace).rdropWhile isWhitespace

/-- `str::trim_end_matches` of one character. -/
def trimEndMatches (c : Char) (s : Str) : Str := s.rdropWhile fun d => d == c

/-- `str::split_whitespace`, collected: the parts between runs of whitespace, none of which is
empty. -/
def splitWhitespace (s : Str) : List Str :=
  (s.splitOnP isWhitespace).filter fun word => !word.isEmpty

/-- A part has none of the characters at which a text is split. -/
theorem separated_of_mem_splitOnP {p : Char → Bool} {s part : Str} (mem : part ∈ s.splitOnP p) :
    ∀ c ∈ part, p c = false := by
  induction s generalizing part with
  | nil =>
      rw [List.splitOnP_nil, List.mem_singleton] at mem
      subst mem
      exact fun _ inside => nomatch inside
  | cons d rest ih =>
      rw [List.splitOnP_cons_eq_if_modifyHead] at mem
      split at mem
      next =>
        rcases List.mem_cons.mp mem with rfl | later
        · exact fun _ inside => nomatch inside
        · exact ih later
      next solid =>
        obtain ⟨first, more, parts⟩ := List.exists_cons_of_ne_nil (List.splitOnP_ne_nil p rest)
        rw [parts, List.modifyHead_cons] at mem
        rw [parts] at ih
        rcases List.mem_cons.mp mem with rfl | later
        · intro c inside
          rcases List.mem_cons.mp inside with rfl | further
          · exact Bool.eq_false_iff.mpr solid
          · exact ih List.mem_cons_self c further
        · exact ih (List.mem_cons_of_mem _ later)

/-- `str::split` at one character, collected. -/
def split (c : Char) (s : Str) : List Str := s.splitOn c

theorem split_cons (c d : Char) (s : Str) :
    split c (d :: s) = if d = c then [] :: split c s else (split c s).modifyHead (d :: ·) := by
  simp [split, List.splitOn_cons_eq_if_modifyHead]

theorem split_append_cons (c : Char) (s t : Str) :
    split c (s ++ c :: t) = split c s ++ split c t :=
  List.splitOn_append_cons_self s t

/-- A character of a text is the separator or stands in one of the parts. -/
theorem mem_of_mem_split {c d : Char} {s : Str} (mem : d ∈ s) :
    d = c ∨ ∃ part ∈ split c s, d ∈ part := by
  induction s with
  | nil => cases mem
  | cons e rest ih =>
      by_cases same : d = c
      · exact Or.inl same
      · right
        rw [split_cons]
        rcases List.mem_cons.mp mem with rfl | later
        · rw [if_neg same]
          obtain ⟨first, more, parts⟩ := List.exists_cons_of_ne_nil (List.splitOn_ne_nil c rest)
          rw [split, parts]
          exact ⟨d :: first, List.mem_cons_self, List.mem_cons_self⟩
        · obtain ⟨part, inside, here⟩ := (ih later).resolve_left same
          split
          · exact ⟨part, List.mem_cons_of_mem _ inside, here⟩
          · obtain ⟨first, more, parts⟩ :=
              List.exists_cons_of_ne_nil (List.splitOn_ne_nil c rest)
            rw [Str.split, parts] at inside ⊢
            rcases List.mem_cons.mp inside with rfl | further
            · exact ⟨e :: part, List.mem_cons_self, List.mem_cons_of_mem _ here⟩
            · exact ⟨part, List.mem_cons_of_mem _ further, here⟩

section Splits

variable {c : Char}

theorem split_injective : Function.Injective (split c) := by
  intro s t same
  calc s = List.intercalate [c] (split c s) := (List.intercalate_splitOn c).symm
    _ = List.intercalate [c] (split c t) := by rw [same]
    _ = t := List.intercalate_splitOn c

theorem split_ne_nil (s : Str) : split c s ≠ [] := List.splitOn_ne_nil c s

theorem notMem_of_mem_split {s part : Str} (mem : part ∈ split c s) : c ∉ part := by
  intro inside
  rw [split, List.splitOn_eq_splitOnP] at mem
  have other := separated_of_mem_splitOnP mem c inside
  rw [beq_self_eq_true] at other
  cases other

/-- Some of the parts of a text, joined again, are split into the same parts. -/
theorem split_intercalate_of_subset {s : Str} {parts : List Str} (filled : parts ≠ [])
    (inside : parts ⊆ split c s) : split c (List.intercalate [c] parts) = parts :=
  List.splitOn_intercalate c (fun _ mem => notMem_of_mem_split (inside mem)) filled

theorem split_append_of_notMem {before : Str} (free : c ∉ before) (s : Str) :
    split c (before ++ s) = (split c s).modifyHead (before ++ ·) := by
  induction before with
  | nil =>
      obtain ⟨first, more, parts⟩ := List.exists_cons_of_ne_nil (@split_ne_nil c s)
      rw [List.nil_append, parts]
      rfl
  | cons d rest ih =>
      obtain ⟨other, free⟩ := List.ne_and_not_mem_of_not_mem_cons free
      obtain ⟨first, more, parts⟩ := List.exists_cons_of_ne_nil (@split_ne_nil c s)
      rw [List.cons_append, split_cons, if_neg (Ne.symm other), ih free, parts]
      rfl

theorem split_of_notMem {s : Str} (free : c ∉ s) : split c s = [s] := by
  have whole := split_append_of_notMem free []
  rw [List.append_nil] at whole
  rw [whole]
  simp [split]

theorem intercalate_append_split {labels : List Str} (filled : labels ≠ []) (s : Str) :
    List.intercalate [c] (labels ++ split c s) =
      List.intercalate [c] labels ++ c :: s := by
  induction labels with
  | nil => exact absurd rfl filled
  | cons first more ih =>
      rw [List.cons_append, List.intercalate_cons_of_ne_nil
        (List.append_ne_nil_of_right_ne_nil _ (split_ne_nil s))]
      rcases more with - | ⟨second, later⟩
      · rw [List.nil_append, List.intercalate_singleton, split, List.intercalate_splitOn,
          List.append_assoc]
        rfl
      · rw [ih (List.cons_ne_nil _ _), List.intercalate_cons_of_ne_nil (List.cons_ne_nil _ _)]
        simp only [List.append_assoc]

/-- What follows a separator has the last parts of the text, and not all of them. -/
theorem exists_eq_append_iff {s t : Str} :
    (∃ before, s = before ++ c :: t) ↔
      split c t <:+ split c s ∧ split c t ≠ split c s := by
  constructor
  · rintro ⟨before, rfl⟩
    rw [split_append_cons]
    exact ⟨List.suffix_append _ _, fun same =>
      split_ne_nil before (List.self_eq_append_left.mp same)⟩
  · rintro ⟨⟨front, same⟩, other⟩
    have filled : front ≠ [] := by
      rintro rfl
      exact other same
    refine ⟨List.intercalate [c] front, ?_⟩
    rw [← intercalate_append_split filled, same, split, List.intercalate_splitOn]

/-- A joined text is split into the parts of what was joined. -/
theorem split_intercalate {parts : List Str} (filled : parts ≠ []) :
    split c (List.intercalate [c] parts) = parts.flatMap (split c) := by
  induction parts with
  | nil => exact absurd rfl filled
  | cons first more ih =>
      rcases more with - | ⟨second, later⟩
      · simp
      · rw [List.intercalate_cons_of_ne_nil (List.cons_ne_nil _ _), List.append_assoc,
          List.singleton_append, split_append_cons, ih (List.cons_ne_nil _ _)]
        rfl

/-- The characters of the parts are those of the text. -/
theorem mem_of_mem_part {d : Char} {s part : Str} (inside : part ∈ split c s)
    (mem : d ∈ part) : d ∈ s := by
  induction s generalizing part with
  | nil =>
      rw [split_of_notMem List.not_mem_nil, List.mem_singleton] at inside
      rwa [inside] at mem
  | cons e rest ih =>
      rw [split_cons] at inside
      split at inside
      · rcases List.mem_cons.mp inside with rfl | later
        · cases mem
        · exact List.mem_cons_of_mem e (ih later mem)
      · obtain ⟨first, more, parts⟩ := List.exists_cons_of_ne_nil (@split_ne_nil c rest)
        rw [parts] at inside ih
        rcases List.mem_cons.mp inside with rfl | later
        · rcases List.mem_cons.mp mem with rfl | mem
          · exact List.mem_cons_self
          · exact List.mem_cons_of_mem e (ih List.mem_cons_self mem)
        · exact List.mem_cons_of_mem e (ih (List.mem_cons_of_mem _ later) mem)

end Splits

/-- Trimming does nothing to a text without whitespace. -/
theorem trim_eq_self {s : Str} (solid : ∀ c ∈ s, isWhitespace c = false) : trim s = s := by
  have front : s.dropWhile isWhitespace = s := by
    refine List.dropWhile_eq_self_iff.mpr fun pos => ?_
    simp [solid _ (List.getElem_mem pos)]
  rw [trim, front]
  refine List.rdropWhile_eq_self_iff.mpr fun nonempty => ?_
  simp [solid _ (List.getLast_mem nonempty)]

/-- `str::lines`, collected; `current` is the line being read, reversed. -/
def linesFrom (current : Str) : Str → List Str
  | [] => if current.isEmpty then [] else [current.reverse]
  | c :: rest =>
      if c = '\n' then
        (if current.head? = some '\r' then current.tail else current).reverse ::
          linesFrom [] rest
      else linesFrom (c :: current) rest

/-- `str::lines`, collected. -/
def lines (s : Str) : List Str := linesFrom [] s

theorem length_linesFrom (current s : Str) : (linesFrom current s).length ≤ s.length + 1 := by
  induction s generalizing current with
  | nil =>
      rw [linesFrom]
      split <;> simp
  | cons c rest ih =>
      rw [linesFrom]
      split
      · exact Nat.succ_le_succ (ih [])
      · exact Nat.le_succ_of_le (ih (c :: current))

theorem length_lines (s : Str) : (lines s).length ≤ s.length + 1 := length_linesFrom [] s

example : lines "a\r\nb\n\nc\r".toList =
    ["a".toList, "b".toList, [], "c\r".toList] := by decide

/-! ## Lower case

Two notions of lower case occur in the source, the one of ASCII and the one of Unicode.  The
second rests on tables that change with the version of the standard library, so it is a parameter,
`CaseTables`, with the few facts that all versions share. -/

/-- `str::to_ascii_lowercase`. -/
def toAsciiLowercase (s : Str) : Str := s.map Char.toLower

theorem toLower_wide {c : Char} (wide : 128 ≤ c.toNat) : c.toLower = c := by
  refine dif_neg fun upper => absurd wide (Nat.not_le.mpr ?_)
  exact Nat.lt_of_le_of_lt (UInt32.le_iff_toNat_le.mp upper.2) (by decide)

/-- What does not tell the ASCII letters from their lower case tells none. -/
theorem toLower_keeps {β : Type} {f : Char → β}
    (ascii : ∀ n < 128, f (Char.ofNat n).toLower = f (Char.ofNat n)) (c : Char) :
    f c.toLower = f c := by
  by_cases small : c.toNat < 128
  · exact ascii_forall (P := fun c => f c.toLower = f c) ascii small
  · rw [toLower_wide (Nat.le_of_not_lt small)]

/-- A character without case is the lower case of itself only. -/
theorem toLower_eq_iff {d : Char}
    (caseless : ∀ n < 128, (Char.ofNat n).toLower = d ↔ Char.ofNat n = d) (c : Char) :
    c.toLower = d ↔ c = d :=
  iff_of_eq (toLower_keeps (f := fun c => c = d)
    (fun n small => propext (caseless n small)) c)

theorem toLower_toLower (c : Char) : c.toLower.toLower = c.toLower := by
  unfold Char.toLower
  split
  next upper =>
    rw [dif_neg]
    rintro ⟨low, high⟩
    have := UInt32.le_iff_toNat_le.mp upper.1
    have := UInt32.le_iff_toNat_le.mp upper.2
    have := UInt32.le_iff_toNat_le.mp high
    simp [UInt32.toNat_add] at *
    omega
  next => rfl

theorem toAsciiLowercase_idem (s : Str) :
    s.toAsciiLowercase.toAsciiLowercase = s.toAsciiLowercase := by
  rw [toAsciiLowercase, toAsciiLowercase, List.map_map]
  exact List.map_congr_left fun c _ => toLower_toLower c

end Str

/-- The Unicode character data behind `str::to_lowercase`, with what every version of it
satisfies.  A result that has such an argument holds with the data of whatever toolchain compiled
the program. -/
structure CaseTables where
  /-- The full lower-case mapping of a character, which may be of several characters. -/
  lower : Char → Str
  /-- The property `Cased`. -/
  cased : Char → Bool
  /-- The property `Case_Ignorable`. -/
  caseIgnorable : Char → Bool
  /-- On ASCII the mapping is the ASCII one. -/
  lower_ascii : ∀ c, c.toNat < 128 → lower c = [c.toLower]
  /-- A lower-cased character is its own lower case. -/
  lower_stable : ∀ c, ∀ d ∈ lower c, lower d = [d]
  /-- An ASCII character that is not a letter is the image of itself only, so that lower-casing
  makes no full stops and no blanks. -/
  lower_separator : ∀ c, ∀ d ∈ lower c, d.toNat < 128 → d.isLower = false → c = d
  /-- The capital sigma and its two lower-case forms. -/
  lower_sigma : lower 'Σ' = ['σ'] ∧ lower 'σ' = ['σ'] ∧ lower 'ς' = ['ς']

namespace CaseTables

/-- Lower-casing of ASCII letters and of the sigma. -/
def asciiLower (c : Char) : Char := if c = 'Σ' then 'σ' else c.toLower

/-- The data restricted to ASCII. -/
def ascii : CaseTables where
  lower c := [asciiLower c]
  cased c := c.isAlpha
  caseIgnorable c := c = '\'' || c = '.' || c = ':' || c = '^' || c = '`'
  lower_ascii := by
    intro c small
    have notSigma : c ≠ 'Σ' := by
      rintro rfl
      simp at small
    rw [asciiLower, if_neg notSigma]
  lower_stable := by
    intro c d mem
    rw [List.mem_singleton.mp mem]
    unfold asciiLower
    split
    · decide
    next notSigma =>
      have stays : c.toLower ≠ 'Σ' :=
        mt (Str.toLower_eq_iff (by decide +kernel) c).mp notSigma
      rw [if_neg stays, Str.toLower_toLower]
  lower_separator := by
    intro c d mem small notLower
    rw [List.mem_singleton.mp mem] at small notLower ⊢
    unfold asciiLower at small notLower ⊢
    split at small
    · simp at small
    next notSigma =>
      rw [if_neg notSigma] at notLower ⊢
      unfold Char.toLower at small notLower ⊢
      split
      next upper =>
        rw [dif_pos upper] at notLower
        simp only [Char.isLower] at notLower
        have low := UInt32.le_iff_toNat_le.mp upper.1
        have high := UInt32.le_iff_toNat_le.mp upper.2
        simp [UInt32.le_iff_toNat_le, UInt32.toNat_add] at notLower low high
        omega
      next => rfl
  lower_sigma := by decide

variable (u : CaseTables)

/-- Whether the first character that is not case-ignorable is cased. -/
def caseIgnorableThenCased (s : Str) : Bool :=
  match s.dropWhile u.caseIgnorable with
  | c :: _ => u.cased c
  | [] => false

/-- Lower-casing of a suffix of a string; `before` is what precedes it, reversed.  A capital sigma
at the end of a word becomes `ς`: where a cased character stands before it, and none behind it,
case-ignorable characters left out of account. -/
def toLowercaseFrom (before : Str) : Str → Str
  | [] => []
  | c :: rest =>
      (if c = 'Σ' then
        if u.caseIgnorableThenCased before && !u.caseIgnorableThenCased rest
        then ['ς'] else ['σ']
      else u.lower c) ++ toLowercaseFrom (c :: before) rest

/-- `str::to_lowercase`. -/
def toLowercase (s : Str) : Str := u.toLowercaseFrom [] s

theorem toLowercaseFrom_ascii {s : Str} (small : ∀ c ∈ s, c.toNat < 128)
    (before : Str) : u.toLowercaseFrom before s = s.toAsciiLowercase := by
  induction s generalizing before with
  | nil => rfl
  | cons c rest ih =>
      have head := small c List.mem_cons_self
      have notSigma : c ≠ 'Σ' := by
        rintro rfl
        simp at head
      rw [toLowercaseFrom, if_neg notSigma, u.lower_ascii c head,
        ih fun d mem => small d (List.mem_cons_of_mem _ mem)]
      rfl

/-- On ASCII text `to_lowercase` is `to_ascii_lowercase`. -/
theorem toLowercase_ascii {s : Str} (small : ∀ c ∈ s, c.toNat < 128) :
    u.toLowercase s = s.toAsciiLowercase :=
  u.toLowercaseFrom_ascii small []

end CaseTables

end RustBlocker
