import RustBlocker.Handler
import RustBlocker.ListLoading

/-!
# Names by their labels

The handler decides on a text: what `hickory` prints of the name, in lower case and without its
final full stop.  An entry is meant of labels: an exact entry of the name with the same labels,
a wildcard of every name whose labels end in those of the entry.  This module says for which
names and lists the two readings agree.

* **The name** that `query.name()` gives is a `LowerName`: ASCII letters of its labels are in
  lower case before anything is printed.  So a label decides by its lower-case form alone,
  `XN--MNCHEN-3YA` like `xn--mnchen-3ya`.
* **The printer** joins the printed labels with full stops.  A label that starts with `xn--` is
  printed in Unicode where it decodes, and special bytes are escaped, full stops among them.
* **What is read back** of a label is the texts between the full stops printed for it; the test
  is label-wise on these (`covers_iff_hits`).
* **A plain label** is read back as itself.  What the test is of a name is decided by the last
  label that is not plain: an entry that names this label is missed, and an entry that is
  printed after a full stop of this label is found (`matches_iff_labels`).

### What is assumed of the printer

The printer and the IDNA tables are no code of the repository, so they are a parameter,
`NamePrinter`, and its fields are all that the proofs use of it.  Two of them carry the result.
`plain_of_not_special` says that every byte an entry cannot have is marked by a backslash, which
no entry has either.  `foreign` says that a decoded label does not turn into ASCII when the
handler lower-cases the text: before its first full stop some character keeps a part outside
ASCII.  It does not say that the Unicode form is in lower case already, which is false of scripts
whose valid form is the capital one (Cherokee).

Lower-casing depends on what stands around a character in one place, the final sigma.  No entry
has a sigma, so the proofs take both small sigmas as one (`CaseTables.fold`) and work one
character at a time.
-/

namespace RustBlocker

/-! ## The printer

The handler looks up a text, and the text is what `Display` makes of a `LowerName`: its labels are
in lower case first, and each is then printed, either as Unicode, if it is the ASCII form of some,
or byte by byte with escapes. -/

/-- `u8::to_ascii_lowercase` -/
def lowerByte (byte : UInt8) : UInt8 := if 65 ≤ byte && byte ≤ 90 then byte + 32 else byte

/-- A label of a `LowerName`. -/
def lowerLabel (label : Bytes) : Bytes := label.map lowerByte

/-- How a name is printed: what the code relies on of `hickory` and of the IDNA tables. -/
structure NamePrinter (u : CaseTables) where
  /-- The Unicode form of a label that starts with `xn--`, where IDNA decoding succeeds. -/
  toUnicode : Bytes → Option Str
  /-- The byte is escaped as the first one of its label, or as a later one. -/
  special : Bool → UInt8 → Bool
  /-- The digits of `\DDD`. -/
  digits : UInt8 → Str
  /-- What is printed as it is: letters, digits, hyphens, underscores and asterisks. -/
  plain_of_not_special : ∀ first byte, special first byte = false →
    isLabelByte byte = true ∨ byte = 42
  isDigit_of_mem : ∀ byte, ∀ c ∈ digits byte, c.isDigit = true
  /-- Up to its first full stop a Unicode form has a character whose lower case is not ASCII. -/
  foreign : ∀ label text, toUnicode label = some text →
    ∀ part ∈ (Str.split '.' text).head?, ∃ c ∈ part, ∃ d ∈ u.lower c, 128 ≤ d.toNat
  /-- Letters, digits, hyphens and underscores decode to no full stop. -/
  dot_notMem : ∀ label text, toUnicode label = some text →
    (∀ byte ∈ label, isLabelByte byte = true) → '.' ∉ text

/-- The code point of a byte. -/
def byteChar (byte : UInt8) : Char := Char.ofNat byte.toNat

namespace NamePrinter

variable {u : CaseTables} (printer : NamePrinter u)

/-- `\c`, or `\DDD` for a byte that is not printable. -/
def escape (byte : UInt8) : Str :=
  '\\' :: if 32 < byte && byte < 127 then [byteChar byte] else printer.digits byte

def printByte (first : Bool) (byte : UInt8) : Str :=
  if printer.special first byte then printer.escape byte else [byteChar byte]

/-- A label with its special bytes escaped. -/
def printEscaped : Bytes → Str
  | [] => []
  | byte :: later => printer.printByte true byte ++ later.flatMap (printer.printByte false)

def printLabel (label : Bytes) : Str :=
  if (Str.utf8 "xn--".toList).isPrefixOf label then
    (printer.toUnicode label).getD (printer.printEscaped label)
  else printer.printEscaped label

/-- The labels of a `LowerName`, printed with full stops between them. -/
def printLabels (name : Name) : Str :=
  List.intercalate ['.'] (name.map fun label => printer.printLabel (lowerLabel label))

/-- `Display for LowerName` -/
def display (name : Name) : Str := printer.printLabels name ++ ['.']

end NamePrinter

/-! ## What the entries are meant of -/

/-- The labels of an entry, in lower case. -/
def Entry.labels (e : Entry) : List Bytes :=
  (Str.split '.' e.text).map fun label => label.utf8.map lowerByte

/-- **The entry is meant of the name**: an exact entry has its labels, a wildcard the last ones
of them and not all. -/
def Entry.Names (e : Entry) (name : Name) : Prop :=
  match e with
  | .exact _ => e.labels = name.map fun label => label.map lowerByte
  | .wildcard _ =>
      e.labels <:+ (name.map fun label => label.map lowerByte) ∧
        e.labels ≠ name.map fun label => label.map lowerByte

instance (e : Entry) (name : Name) : Decidable (e.Names name) :=
  match e with
  | .exact _ => inferInstanceAs (Decidable (_ = _))
  | .wildcard _ => inferInstanceAs (Decidable (_ ∧ _))

/-! ## Lower case, one character at a time

The printed text is put into lower case once more, in the Unicode sense, where the form of a sigma
depends on what stands around it.  Taking the two small sigmas for one makes lower case a map of
single characters, and so it can be followed through the labels. -/

/-- The two small sigmas as one. -/
def oneSigma (c : Char) : Char := if c = 'ς' then 'σ' else c

theorem oneSigma_of_ascii {c : Char} (ascii : (oneSigma c).toNat < 128) : oneSigma c = c := by
  unfold oneSigma at ascii ⊢
  split at ascii
  · simp at ascii
  next other => exact if_neg other

theorem oneSigma_ascii {c : Char} (ascii : c.toNat < 128) : oneSigma c = c := by
  refine if_neg fun sigma => ?_
  rw [sigma] at ascii
  simp at ascii

/-- A text in lower case, but for the form of its sigmas. -/
def CaseTables.fold (u : CaseTables) (s : Str) : Str :=
  s.flatMap fun c => (u.lower c).map oneSigma

section Fold

variable {u : CaseTables}

@[simp] theorem CaseTables.fold_nil : u.fold [] = [] := rfl

theorem CaseTables.fold_append (s t : Str) : u.fold (s ++ t) = u.fold s ++ u.fold t :=
  List.flatMap_append

theorem CaseTables.fold_cons (c : Char) (s : Str) :
    u.fold (c :: s) = (u.lower c).map oneSigma ++ u.fold s := rfl

/-- The form of a sigma is all that lower-casing takes from the text around a character. -/
theorem map_toLowercaseFrom (before s : Str) :
    (u.toLowercaseFrom before s).map oneSigma = u.fold s := by
  induction s generalizing before with
  | nil => rfl
  | cons c rest ih =>
      rw [CaseTables.toLowercaseFrom, List.map_append, ih, CaseTables.fold_cons]
      congr 1
      by_cases sigma : c = 'Σ'
      · subst sigma
        rw [if_pos rfl, u.lower_sigma.1]
        split <;> rfl
      · rw [if_neg sigma]

/-- An ASCII end of a text is not changed by taking the two sigmas as one. -/
theorem map_oneSigma_eq_append {s before t : Str} (ascii : ∀ c ∈ t, c.toNat < 128) :
    s.map oneSigma = before ++ t ↔ ∃ front, s = front ++ t ∧ front.map oneSigma = before := by
  have fixed : ∀ t' : Str, t'.map oneSigma = t → t' = t := by
    intro t' same
    rw [← same]
    refine (List.map_id' t').symm.trans (List.map_congr_left fun c mem => ?_) |>.trans rfl
    exact (oneSigma_of_ascii (ascii _ (same ▸ List.mem_map_of_mem mem))).symm
  have kept : t.map oneSigma = t := by
    exact (List.map_congr_left fun c mem => oneSigma_ascii (ascii c mem)).trans (List.map_id t)
  constructor
  · intro same
    obtain ⟨front, back, rfl, frontSame, backSame⟩ := List.map_eq_append_iff.mp same
    exact ⟨front, by rw [fixed back backSame], frontSame⟩
  · rintro ⟨front, rfl, rfl⟩
    rw [List.map_append, kept]

/-- A full stop in lower case is a full stop. -/
theorem dot_mem_fold {s : Str} : '.' ∈ u.fold s ↔ '.' ∈ s := by
  constructor
  · intro mem
    obtain ⟨c, inside, mem⟩ := List.mem_flatMap.mp mem
    obtain ⟨d, lowered, same⟩ := List.mem_map.mp mem
    obtain rfl : d = '.' := by
      rw [← same]
      exact (oneSigma_of_ascii (by rw [same]; decide)).symm
    rwa [← u.lower_separator c '.' lowered (by decide) (by decide)]
  · intro mem
    refine List.mem_flatMap.mpr ⟨'.', mem, ?_⟩
    rw [u.lower_ascii '.' (by decide)]
    decide

end Fold

theorem split_fold {u : CaseTables} (s : Str) :
    Str.split '.' (u.fold s) = (Str.split '.' s).map u.fold := by
  induction s with
  | nil => rfl
  | cons c rest ih =>
      rw [CaseTables.fold_cons, Str.split_cons]
      by_cases dot : c = '.'
      · subst dot
        rw [if_pos rfl, List.map_cons, ← ih, u.lower_ascii '.' (by decide)]
        exact Str.split_cons '.' '.' (u.fold rest)
      · have free : '.' ∉ (u.lower c).map oneSigma := by
          intro mem
          have lowered : '.' ∈ u.fold [c] := by
            rw [CaseTables.fold_cons]
            exact List.mem_append_left _ mem
          exact dot (List.mem_singleton.mp (dot_mem_fold.mp lowered)).symm
        obtain ⟨first, more, parts⟩ := List.exists_cons_of_ne_nil (@Str.split_ne_nil '.' rest)
        rw [if_neg dot, Str.split_append_of_notMem free, ih, parts]
        rfl

/-! ## What is read back

Looking up a printed name amounts to splitting it at its full stops and comparing the parts with
entries.  `readBack` has the parts that come from one label; a label is plain if these are the
label itself. -/

/-- A label as a text in lower case. -/
def labelText (label : Bytes) : Str := label.map fun byte => byteChar (lowerByte byte)

/-- The last labels, or all of them. -/
def Entry.Hits (e : Entry) (labels : List Str) : Prop :=
  match e with
  | .exact name => Str.split '.' name = labels
  | .wildcard suffix => Str.split '.' suffix <:+ labels ∧ Str.split '.' suffix ≠ labels

namespace NamePrinter

variable {u : CaseTables} (printer : NamePrinter u)

/-- The texts between the full stops that are printed for the label, in lower case. -/
def readBack (label : Bytes) : List Str :=
  (Str.split '.' (printer.printLabel (lowerLabel label))).map u.fold

/-- **The label is read back as itself**, and an entry may have it.  It is a condition on the
bytes of the label and on the printer. -/
def Plain (label : Bytes) : Prop :=
  isListLabel (labelText label) = true ∧ printer.readBack label = [labelText label]

instance (label : Bytes) : Decidable (printer.Plain label) :=
  inferInstanceAs (Decidable (_ ∧ _))

end NamePrinter

section ReadBack

variable {u : CaseTables} (printer : NamePrinter u) {domain : Str}

namespace Canonical

theorem text_listName (canonical : Canonical domain) :
    isListName (entryOf domain).text = true := by
  rw [text_entryOf]
  exact canonical.listName

theorem text_ascii (canonical : Canonical domain) :
    ∀ c ∈ (entryOf domain).text, c.toNat < 128 := by
  intro c mem
  rcases isLabelChar_of_mem_listName canonical.text_listName mem with rfl | ok
  · decide
  · exact isLabelChar_ascii ok

theorem isListLabel_of_mem (canonical : Canonical domain) {label : Str}
    (mem : label ∈ Str.split '.' (entryOf domain).text) : isListLabel label = true := by
  have ok := canonical.text_listName
  rw [isListName, Bool.and_eq_true, List.all_eq_true] at ok
  exact ok.2 label mem

theorem toLower_text (canonical : Canonical domain) :
    ∀ c ∈ (entryOf domain).text, c.toLower = c := by
  intro c mem
  have lower : domain.map Char.toLower = domain.map id := by
    rw [List.map_id]
    exact (canonical_iff.mp canonical).2
  refine List.map_inj_left.mp lower c ?_
  rw [text_entryOf] at mem
  rcases unstarred_cases domain with ⟨-, same⟩ | ⟨suffix, -, same, whole⟩
  · rwa [same] at mem
  · rw [same] at mem
    rw [whole]
    exact List.mem_append_right _ mem

end Canonical

/-- A byte of an ASCII character, as the text of a label. -/
theorem byteChar_lowerByte_ascii {c : Char} (ascii : c.toNat < 128) :
    byteChar (lowerByte (UInt8.ofNat c.toNat)) = c.toLower :=
  Str.ascii_forall (P := fun c => byteChar (lowerByte (UInt8.ofNat c.toNat)) = c.toLower)
    (by decide +kernel) ascii

/-- The labels of an entry, as texts. -/
theorem map_labels (canonical : Canonical domain) :
    (entryOf domain).labels.map (List.map byteChar) =
      Str.split '.' (entryOf domain).text := by
  rw [Entry.labels, List.map_map]
  refine (List.map_congr_left fun label mem => ?_).trans (List.map_id _)
  have ascii : ∀ c ∈ label, c.toNat < 128 := fun c inside =>
    canonical.text_ascii c (Str.mem_of_mem_part mem inside)
  have lower : ∀ c ∈ label, c.toLower = c := fun c inside =>
    canonical.toLower_text c (Str.mem_of_mem_part mem inside)
  clear mem
  show (label.utf8.map lowerByte).map byteChar = label
  induction label with
  | nil => rfl
  | cons c rest ih =>
      have small := ascii c List.mem_cons_self
      rw [Str.utf8_cons, Str.utf8EncodeChar_ascii small, List.map_append, List.map_append,
        ih (fun d mem => ascii d (List.mem_cons_of_mem c mem))
          (fun d mem => lower d (List.mem_cons_of_mem c mem))]
      show byteChar (lowerByte (UInt8.ofNat c.toNat)) :: rest = c :: rest
      rw [byteChar_lowerByte_ascii small, lower c List.mem_cons_self]

/-- **An entry is meant of a name** exactly if it hits the texts of its labels. -/
theorem names_iff_hits (canonical : Canonical domain) (name : Name) :
    (entryOf domain).Names name ↔ (entryOf domain).Hits (name.map labelText) := by
  have injective : Function.Injective (List.map (List.map byteChar)) :=
    List.map_injective_iff.mpr (List.map_injective_iff.mpr Str.charOfByte_injective)
  have texts : (name.map fun label => label.map lowerByte).map (List.map byteChar) =
      name.map labelText := by
    rw [List.map_map]
    refine List.map_congr_left fun label _ => ?_
    show (label.map lowerByte).map byteChar = labelText label
    rw [List.map_map]
    rfl
  have same : (entryOf domain).labels = (name.map fun label => label.map lowerByte) ↔
      Str.split '.' (entryOf domain).text = name.map labelText := by
    rw [← map_labels canonical, ← texts]
    exact injective.eq_iff.symm
  have suffix : (entryOf domain).labels <:+ (name.map fun label => label.map lowerByte) ↔
      Str.split '.' (entryOf domain).text <:+ name.map labelText := by
    rw [← map_labels canonical, ← texts]
    refine ⟨fun ends => ends.map _, fun ends => ?_⟩
    obtain ⟨l, ends, mapped⟩ := List.suffix_map_iff.mp ends
    rwa [injective mapped]
  unfold Entry.Names Entry.Hits
  generalize (entryOf domain) = e at same suffix
  cases e with
  | exact text => exact same
  | wildcard text => exact and_congr suffix (not_congr same)

/-- The labels that are read back of a name. -/
theorem split_fold_display {name : Name} (filled : name ≠ []) :
    Str.split '.' (u.fold (printer.printLabels name)) =
      name.flatMap printer.readBack := by
  have parts : (name.map fun label => printer.printLabel (lowerLabel label)) ≠ [] :=
    fun nothing => filled (List.map_eq_nil_iff.mp nothing)
  rw [split_fold, NamePrinter.printLabels, Str.split_intercalate parts, List.map_flatMap,
    List.flatMap_map]
  rfl

/-- The text the handler looks up, but for the form of its sigmas. -/
theorem map_normalizeDomain_display (name : Name) :
    (normalizeDomain u (printer.display name)).map oneSigma =
      u.fold (printer.printLabels name) := by
  have folded : (u.toLowercase (printer.display name)).map oneSigma =
      u.fold (printer.printLabels name) ++ ['.'] := by
    rw [CaseTables.toLowercase, map_toLowercaseFrom, NamePrinter.display, CaseTables.fold_append,
      CaseTables.fold_cons, u.lower_ascii '.' (by decide)]
    rfl
  have dot : ∀ c ∈ ['.'], c.toNat < 128 := List.forall_mem_singleton.mpr (by decide)
  obtain ⟨front, lowered, same⟩ := (map_oneSigma_eq_append dot).mp folded
  rw [normalizeDomain, lowered]
  simp only [List.getLast?_concat, if_true, List.dropLast_concat]
  exact same

/-- The text that is looked up is a listed name. -/
theorem normalizeDomain_display_eq_iff (name : Name) {t : Str} (listed : isListName t = true)
    (ascii : ∀ c ∈ t, c.toNat < 128) :
    normalizeDomain u (printer.display name) = t ↔
      Str.split '.' t = name.flatMap printer.readBack := by
  have folded := map_normalizeDomain_display printer name
  generalize normalizeDomain u (printer.display name) = text at folded
  have exactly : text = t ↔
      t = u.fold (printer.printLabels name) := by
    rw [← folded]
    constructor
    · rintro rfl
      exact (List.map_id text).symm.trans
        (List.map_congr_left fun c mem => (oneSigma_ascii (ascii c mem)).symm)
    · intro same
      obtain ⟨front, whole, nothing⟩ := (@map_oneSigma_eq_append _ [] _ ascii).mp same.symm
      rw [whole, List.map_eq_nil_iff.mp nothing, List.nil_append]
  rw [exactly]
  rcases name with - | ⟨first, later⟩
  -- the root is looked up as the empty text, which is not listed
  · refine ⟨fun nothing => absurd nothing (ne_nil_of_listName listed), fun nothing => ?_⟩
    exact absurd nothing (Str.split_ne_nil t)
  · rw [← split_fold_display printer (List.cons_ne_nil first later)]
    exact Str.split_injective.eq_iff.symm

/-- The text that is looked up has a listed name after one of its full stops. -/
theorem normalizeDomain_display_ends_iff (name : Name) {t : Str}
    (ascii : ∀ c ∈ t, c.toNat < 128) :
    (∃ before, normalizeDomain u (printer.display name) = before ++ '.' :: t) ↔
      Str.split '.' t <:+ name.flatMap printer.readBack ∧
        Str.split '.' t ≠ name.flatMap printer.readBack := by
  have folded := map_normalizeDomain_display printer name
  generalize normalizeDomain u (printer.display name) = text at folded
  have dotted : ∀ c ∈ '.' :: t, c.toNat < 128 := List.forall_mem_cons.mpr ⟨by decide, ascii⟩
  have ends : (∃ before, text = before ++ '.' :: t) ↔
      ∃ before, u.fold (printer.printLabels name) =
        before ++ '.' :: t := by
    rw [← folded]
    constructor
    · rintro ⟨before, whole⟩
      exact ⟨_, (map_oneSigma_eq_append dotted).mpr ⟨before, whole, rfl⟩⟩
    · rintro ⟨before, whole⟩
      obtain ⟨front, whole, -⟩ := (map_oneSigma_eq_append dotted).mp whole
      exact ⟨front, whole⟩
  rw [ends]
  rcases name with - | ⟨first, later⟩
  · constructor
    · rintro ⟨before, whole⟩
      exact absurd whole.symm (List.append_ne_nil_of_right_ne_nil _ (List.cons_ne_nil _ _))
    · rintro ⟨ends, -⟩
      exact absurd (List.suffix_nil.mp ends) (Str.split_ne_nil t)
  · rw [Str.exists_eq_append_iff,
      split_fold_display printer (List.cons_ne_nil first later)]

/-- **The test is label-wise on what is read back.** -/
theorem covers_iff_hits {entries : List Str} (canonical : ∀ d ∈ entries, Canonical d)
    (name : Name) :
    (setsOf entries).Covers (normalizeDomain u (printer.display name)) ↔
      ∃ d ∈ entries, (entryOf d).Hits (name.flatMap printer.readBack) := by
  have facts : ∀ e : Entry, ∀ d ∈ entries, entryOf d = e → isListName e.text = true ∧
      ∀ c ∈ e.text, c.toNat < 128 := by
    rintro e d mem rfl
    exact ⟨(canonical d mem).text_listName, (canonical d mem).text_ascii⟩
  constructor
  · rintro (own | ⟨before, suffix, whole, own⟩)
    · obtain ⟨d, mem, entry⟩ := mem_setsOf.mp (DomainSets.exact_mem.mpr own)
      obtain ⟨listed, ascii⟩ := facts _ d mem entry
      refine ⟨d, mem, ?_⟩
      rw [entry]
      exact (normalizeDomain_display_eq_iff printer name listed ascii).mp rfl
    · obtain ⟨d, mem, entry⟩ := mem_setsOf.mp (DomainSets.wildcard_mem.mpr own)
      obtain ⟨-, ascii⟩ := facts _ d mem entry
      refine ⟨d, mem, ?_⟩
      rw [entry]
      exact (normalizeDomain_display_ends_iff printer name ascii).mp ⟨before, whole⟩
  · rintro ⟨d, mem, hits⟩
    rcases entry : entryOf d with own | suffix
    · obtain ⟨listed, ascii⟩ := facts _ d mem entry
      rw [entry] at hits
      left
      rw [(normalizeDomain_display_eq_iff printer name listed ascii).mpr hits]
      exact DomainSets.exact_mem.mp (mem_setsOf.mpr ⟨d, mem, entry⟩)
    · obtain ⟨-, ascii⟩ := facts _ d mem entry
      rw [entry] at hits
      obtain ⟨before, whole⟩ := (normalizeDomain_display_ends_iff printer name ascii).mpr hits
      exact Or.inr ⟨before, suffix, whole,
        DomainSets.wildcard_mem.mp (mem_setsOf.mpr ⟨d, mem, entry⟩)⟩

end ReadBack

/-! ## Labels that are not plain

A label that is not plain was printed as Unicode, or has an escaped byte.  In both cases the first
part that is read back is one that no entry can have, because it is not ASCII or contains a
backslash. -/

section Labels

theorem byte_forall {P : UInt8 → Prop} (each : ∀ n < 256, P (UInt8.ofNat n)) (byte : UInt8) :
    P byte := by
  have here := each byte.toNat byte.toNat_lt
  rwa [UInt8.ofNat_toNat] at here

/-- What is printed as it is, is ASCII and no full stop. -/
theorem byteChar_of_plain {byte : UInt8} (plain : isLabelByte byte = true ∨ byte = 42) :
    (byteChar byte).toNat < 128 ∧ byteChar byte ≠ '.' ∧
      (byteChar byte).toLower = byteChar (lowerByte byte) :=
  byte_forall (P := fun byte => isLabelByte byte = true ∨ byte = 42 →
      (byteChar byte).toNat < 128 ∧ byteChar byte ≠ '.' ∧
        (byteChar byte).toLower = byteChar (lowerByte byte))
    (by decide +kernel) byte plain

theorem isLabelByte_of_labelText {byte : UInt8}
    (ok : isLabelChar (byteChar (lowerByte byte)) = true) : isLabelByte byte = true :=
  byte_forall (P := fun byte => isLabelChar (byteChar (lowerByte byte)) = true →
    isLabelByte byte = true) (by decide +kernel) byte ok

variable {u : CaseTables} (printer : NamePrinter u)

/-- A backslash stands before the first full stop. -/
def Escapes (s : Str) : Prop := ∃ first more, Str.split '.' s = first :: more ∧ '\\' ∈ first

theorem escapes_cons {c : Char} {s : Str} (other : c ≠ '.') (escapes : c = '\\' ∨ Escapes s) :
    Escapes (c :: s) := by
  obtain ⟨first, more, parts⟩ := List.exists_cons_of_ne_nil (@Str.split_ne_nil '.' s)
  refine ⟨c :: first, more, ?_, ?_⟩
  · rw [Str.split_cons, if_neg other, parts]
    rfl
  · rcases escapes with rfl | ⟨first', more', parts', mem⟩
    · exact List.mem_cons_self
    · obtain ⟨rfl, -⟩ := List.cons.inj (parts.symm.trans parts')
      exact List.mem_cons_of_mem c mem

/-- A byte is printed as it is, or a backslash stands first. -/
theorem printByte_cases (first : Bool) (byte : UInt8) (s : Str) :
    printer.printByte first byte = [byteChar byte] ∧ (isLabelByte byte = true ∨ byte = 42) ∨
      Escapes (printer.printByte first byte ++ s) := by
  unfold NamePrinter.printByte
  rcases marked : printer.special first byte with - | -
  · exact Or.inl ⟨if_neg (by simp), printer.plain_of_not_special first byte marked⟩
  · rw [if_pos rfl]
    exact Or.inr (escapes_cons (by decide) (Or.inl rfl))

theorem printLater_cases (later : Bytes) :
    later.flatMap (printer.printByte false) = later.map byteChar ∧
        (∀ byte ∈ later, isLabelByte byte = true ∨ byte = 42) ∨
      Escapes (later.flatMap (printer.printByte false)) := by
  induction later with
  | nil => exact Or.inl ⟨rfl, fun _ mem => absurd mem List.not_mem_nil⟩
  | cons byte rest ih =>
      rw [List.flatMap_cons]
      rcases printByte_cases printer false byte _ with ⟨printed, plain⟩ | escapes
      · rw [printed]
        rcases ih with ⟨same, all⟩ | escapes
        · rw [same]
          exact Or.inl ⟨rfl, List.forall_mem_cons.mpr ⟨plain, all⟩⟩
        · exact Or.inr (escapes_cons (byteChar_of_plain plain).2.1 (Or.inr escapes))
      · exact Or.inr escapes

/-- A label is printed as it is, or a backslash stands before the first full stop. -/
theorem printEscaped_cases (label : Bytes) :
    printer.printEscaped label = label.map byteChar ∧
        (∀ byte ∈ label, isLabelByte byte = true ∨ byte = 42) ∨
      Escapes (printer.printEscaped label) := by
  rcases label with - | ⟨byte, later⟩
  · exact Or.inl ⟨rfl, fun _ mem => absurd mem List.not_mem_nil⟩
  · rw [NamePrinter.printEscaped]
    rcases printByte_cases printer true byte (later.flatMap (printer.printByte false)) with
      ⟨printed, plain⟩ | escapes
    · rw [printed]
      rcases printLater_cases printer later with ⟨same, all⟩ | escapes
      · rw [same]
        exact Or.inl ⟨rfl, List.forall_mem_cons.mpr ⟨plain, all⟩⟩
      · exact Or.inr (escapes_cons (byteChar_of_plain plain).2.1 (Or.inr escapes))
    · exact Or.inr escapes

theorem printLabel_cases (label : Bytes) :
    printer.toUnicode label = some (printer.printLabel label) ∨
      printer.printLabel label = printer.printEscaped label := by
  unfold NamePrinter.printLabel
  split
  · rcases printer.toUnicode label with - | text
    · exact Or.inr rfl
    · exact Or.inl rfl
  · exact Or.inr rfl

theorem isListLabel_of_notMem {label : Str} {c : Char} (mem : c ∈ label)
    (refused : isLabelChar c = false) : isListLabel label = false := by
  refine Bool.eq_false_iff.mpr fun ok => ?_
  rw [(isListLabel_iff.mp ok).2.2 c mem] at refused
  cases refused

theorem lowerByte_lowerByte (byte : UInt8) : lowerByte (lowerByte byte) = lowerByte byte :=
  byte_forall (P := fun byte => lowerByte (lowerByte byte) = lowerByte byte)
    (by decide +kernel) byte

/-- The text of a label does not tell whether it is in lower case. -/
@[simp] theorem labelText_lowerLabel (label : Bytes) :
    labelText (lowerLabel label) = labelText label := by
  rw [labelText, lowerLabel, List.map_map]
  refine List.map_congr_left fun byte _ => ?_
  show byteChar (lowerByte (lowerByte byte)) = byteChar (lowerByte byte)
  rw [lowerByte_lowerByte]

/-- In lower case, what is printed as it is becomes the text of its label. -/
theorem fold_map_byteChar {label : Bytes}
    (plain : ∀ byte ∈ label, isLabelByte byte = true ∨ byte = 42) :
    u.fold (label.map byteChar) = labelText label := by
  induction label with
  | nil => rfl
  | cons byte rest ih =>
      obtain ⟨ascii, -, lower⟩ := byteChar_of_plain (plain byte List.mem_cons_self)
      rw [List.map_cons, CaseTables.fold_cons, u.lower_ascii _ ascii, lower,
        ih fun other mem => plain other (List.mem_cons_of_mem byte mem)]
      have small : (byteChar (lowerByte byte)).toNat < 128 := by
        rw [← lower]
        exact (Str.ascii_forall (P := fun c => c.toLower.toNat < 128) (by decide +kernel) ascii)
      show oneSigma _ :: labelText rest = _
      rw [oneSigma_ascii small]
      rfl

/-- What is printed as it is, is read back as itself. -/
theorem readBack_of_plain {label : Bytes}
    (printed : printer.printLabel (lowerLabel label) = (lowerLabel label).map byteChar)
    (plain : ∀ byte ∈ lowerLabel label, isLabelByte byte = true ∨ byte = 42) :
    printer.readBack label = [labelText label] := by
  have free : '.' ∉ (lowerLabel label).map byteChar := by
    intro mem
    obtain ⟨byte, inside, dot⟩ := List.mem_map.mp mem
    exact (byteChar_of_plain (plain byte inside)).2.1 dot
  rw [NamePrinter.readBack, printed, Str.split_of_notMem free, List.map_singleton,
    fold_map_byteChar plain, labelText_lowerLabel]

/-- **A label that is not plain** is read back as something no entry starts with. -/
theorem exists_readBack_eq_cons {label : Bytes} (odd : ¬ printer.Plain label) :
    ∃ first more, printer.readBack label = first :: more ∧ isListLabel first = false := by
  obtain ⟨first, more, parts⟩ :=
    List.exists_cons_of_ne_nil (@Str.split_ne_nil '.' (printer.printLabel (lowerLabel label)))
  have read : printer.readBack label = u.fold first :: more.map u.fold := by
    rw [NamePrinter.readBack, parts]
    rfl
  rcases printLabel_cases printer (lowerLabel label) with decoded | escaped
  -- before its first full stop, a Unicode form in lower case has a character no entry has
  · obtain ⟨c, mem, d, lowered, wide⟩ :=
      printer.foreign (lowerLabel label) _ decoded first (by rw [parts]; exact rfl)
    refine ⟨_, _, read, isListLabel_of_notMem (c := oneSigma d) ?_ ?_⟩
    · exact List.mem_flatMap.mpr ⟨c, mem, List.mem_map_of_mem lowered⟩
    · refine Bool.eq_false_iff.mpr fun ok => ?_
      have small := isLabelChar_ascii ok
      rw [oneSigma_of_ascii small] at small
      omega
  · rcases printEscaped_cases printer (lowerLabel label) with
      ⟨printed, plain⟩ | ⟨first', more', parts', mem⟩
    -- what is printed as it is would be plain, if an entry could have it
    · have same := readBack_of_plain printer (escaped.trans printed) plain
      refine ⟨_, _, same, Bool.eq_false_iff.mpr fun ok => odd ⟨ok, same⟩⟩
    · rw [escaped] at parts
      obtain ⟨rfl, -⟩ := List.cons.inj (parts.symm.trans parts')
      refine ⟨_, _, read, isListLabel_of_notMem (c := '\\') ?_ (by decide)⟩
      refine List.mem_flatMap.mpr ⟨'\\', mem, ?_⟩
      rw [u.lower_ascii '\\' (by decide)]
      decide

/-- A label an entry may have is printed without a full stop. -/
theorem readBack_tail_of_listLabel {label : Bytes} (listed : isListLabel (labelText label) = true) :
    (printer.readBack label).tail = [] := by
  rw [← labelText_lowerLabel] at listed
  rw [NamePrinter.readBack]
  generalize lowerLabel label = label at listed ⊢
  have bytes : ∀ byte ∈ label, isLabelByte byte = true := fun byte mem =>
    isLabelByte_of_labelText ((isListLabel_iff.mp listed).2.2 _ (List.mem_map_of_mem mem))
  have free : '.' ∉ printer.printLabel label := by
    rcases printLabel_cases printer label with decoded | escaped
    · exact printer.dot_notMem label _ decoded bytes
    · have each : ∀ first, ∀ byte ∈ label, '.' ∉ printer.printByte first byte := by
        intro first byte inside mem
        have other := (byteChar_of_plain (Or.inl (bytes byte inside))).2.1
        unfold NamePrinter.printByte NamePrinter.escape at mem
        split at mem
        · rcases List.mem_cons.mp mem with impossible | mem
          · exact absurd impossible (by decide)
          · split at mem
            · exact other (List.mem_singleton.mp mem).symm
            · exact absurd (printer.isDigit_of_mem byte '.' mem) (by decide)
        · exact other (List.mem_singleton.mp mem).symm
      rw [escaped]
      rcases label with - | ⟨byte, later⟩
      · exact List.not_mem_nil
      · intro mem
        rcases List.mem_append.mp mem with here | mem
        · exact each true byte List.mem_cons_self here
        · obtain ⟨other, inside, there⟩ := List.mem_flatMap.mp mem
          exact each false other (List.mem_cons_of_mem byte inside) there
  rw [Str.split_of_notMem free]
  rfl

end Labels

/-! ## The last label that is not plain

An entry is compared from the right.  Up to the last label that is not plain the comparison is of
labels; from there on an entry is missed, or found by mistake, unless a wildcard covers the labels
behind it anyway. -/

section LastOdd

theorem suffix_append_iff {α : Type} {l before tail : List α} :
    l <:+ before ++ tail ↔ l <:+ tail ∨ ∃ m, m ≠ [] ∧ m <:+ before ∧ l = m ++ tail := by
  constructor
  · intro ends
    rcases List.suffix_or_suffix_of_suffix ends (List.suffix_append before tail) with
      inside | ⟨m, rfl⟩
    · exact Or.inl inside
    · by_cases nothing : m = []
      · subst nothing
        exact Or.inl (List.suffix_refl _)
      · exact Or.inr ⟨m, nothing, List.suffix_append_self_iff.mp ends, rfl⟩
  · rintro (inside | ⟨m, -, ends, rfl⟩)
    · exact List.suffix_append_of_suffix inside
    · exact List.suffix_append_self_iff.mpr ends

/-- A list ends in a list with an element it cannot have only after that element. -/
theorem suffix_of_notMem {α : Type} {m front more : List α} {a : α} (other : a ∉ m)
    (ends : m <:+ front ++ a :: more) : m <:+ more := by
  rcases suffix_append_iff.mp ends with inside | ⟨m', -, -, rfl⟩
  · rcases List.suffix_cons_iff.mp inside with rfl | inside
    · exact absurd List.mem_cons_self other
    · exact inside
  · exact absurd (List.mem_append_right m' List.mem_cons_self) other

variable {u : CaseTables} (printer : NamePrinter u)

/-- All labels are plain, or there is a last one that is not. -/
theorem plain_or_exists_last (name : Name) :
    (∀ label ∈ name, printer.Plain label) ∨
      ∃ before label after, name = before ++ label :: after ∧ ¬ printer.Plain label ∧
        ∀ other ∈ after, printer.Plain other := by
  induction name with
  | nil => exact Or.inl fun _ mem => absurd mem List.not_mem_nil
  | cons label rest ih =>
      rcases ih with all | ⟨before, odd, after, rfl, rest⟩
      · by_cases plain : printer.Plain label
        · exact Or.inl (List.forall_mem_cons.mpr ⟨plain, all⟩)
        · exact Or.inr ⟨[], label, rest, rfl, plain, all⟩
      · exact Or.inr ⟨label :: before, odd, after, rfl, rest⟩

/-- The labels that are read back of plain labels are their texts. -/
theorem flatMap_readBack_of_plain {name : Name} (plain : ∀ label ∈ name, printer.Plain label) :
    name.flatMap printer.readBack = name.map labelText := by
  induction name with
  | nil => rfl
  | cons label rest ih =>
      obtain ⟨here, later⟩ := List.forall_mem_cons.mp plain
      rw [List.flatMap_cons, here.2, ih later]
      rfl

/-- The entry is a wildcard of the last of the labels, and none but them. -/
def Entry.Ends (e : Entry) (after : Name) : Prop :=
  match e with
  | .exact _ => False
  | .wildcard suffix => Str.split '.' suffix <:+ after.map labelText

/-- **The entry is missed**: it is meant of the name and has more labels than the last ones. -/
def Entry.Reaches (e : Entry) (name after : Name) : Prop :=
  e.Names name ∧ after.length < e.labels.length

/-- **The entry is found by mistake**: a wildcard of texts that are printed after a full stop of
the label, and of the labels after it. -/
def NamePrinter.Imitates (e : Entry) (label : Bytes) (after : Name) : Prop :=
  match e with
  | .exact _ => False
  | .wildcard suffix =>
      ∃ m, m ≠ [] ∧ m <:+ (printer.readBack label).tail ∧
        Str.split '.' suffix = m ++ after.map labelText

/-- **What keeps the test label-wise**: of the last label that is not plain, if there is one, a
wildcard covers the labels after it, or no entry is missed and none is found by mistake. -/
def NamePrinter.LabelWise (name : Name) (entries : List Str) : Prop :=
  ∀ before label after, name = before ++ label :: after → ¬ printer.Plain label →
    (∀ other ∈ after, printer.Plain other) →
      (∃ d ∈ entries, (entryOf d).Ends after) ∨
        ∀ d ∈ entries, ¬ (entryOf d).Reaches name after ∧
          ¬ printer.Imitates (entryOf d) label after

section Decomposed

variable {domain : Str} {before : Name} {label : Bytes} {after : Name}

/-- What hits the labels that are read back. -/
theorem hits_readBack_iff (canonical : Canonical domain) (odd : ¬ printer.Plain label)
    (rest : ∀ other ∈ after, printer.Plain other) :
    (entryOf domain).Hits ((before ++ label :: after).flatMap printer.readBack) ↔
      (entryOf domain).Ends after ∨ printer.Imitates (entryOf domain) label after := by
  obtain ⟨first, more, read, refused⟩ := exists_readBack_eq_cons printer odd
  have parts : (before ++ label :: after).flatMap printer.readBack =
      (before.flatMap printer.readBack ++ first :: more) ++ after.map labelText := by
    rw [List.flatMap_append, List.flatMap_cons, read, flatMap_readBack_of_plain printer rest,
      List.append_assoc]
  have tail : (printer.readBack label).tail = more := by
    rw [read]
    rfl
  -- no entry has the text that is read back first
  have free : ∀ m, m <:+ Str.split '.' (entryOf domain).text ∨
      m <+: Str.split '.' (entryOf domain).text → first ∉ m := by
    intro m inside mem
    have listed := canonical.isListLabel_of_mem
      (inside.elim (fun suffix => suffix.subset mem) fun front => front.subset mem)
    rw [refused] at listed
    cases listed
  have here : first ∈ (before.flatMap printer.readBack ++ first :: more) ++ after.map labelText :=
    List.mem_append_left _ (List.mem_append_right _ List.mem_cons_self)
  rw [parts]
  unfold Entry.Hits Entry.Ends NamePrinter.Imitates
  rw [tail]
  generalize entryOf domain = e at free
  cases e with
  | exact own =>
      refine ⟨fun same => ?_, fun impossible => impossible.elim False.elim False.elim⟩
      exact absurd (same ▸ here) (free _ (Or.inl (List.suffix_refl _)))
  | wildcard suffix =>
      constructor
      · rintro ⟨ends, -⟩
        rcases suffix_append_iff.mp ends with inside | ⟨m, filled, ends, whole⟩
        · exact Or.inl inside
        · have other : first ∉ m := free m (Or.inr ⟨_, whole.symm⟩)
          exact Or.inr ⟨m, filled, suffix_of_notMem other ends, whole⟩
      · intro hits
        have ends : Str.split '.' suffix <:+
            (before.flatMap printer.readBack ++ first :: more) ++ after.map labelText := by
          rcases hits with inside | ⟨m, filled, ends, whole⟩
          · exact List.suffix_append_of_suffix inside
          · refine suffix_append_iff.mpr (Or.inr ⟨m, filled, ?_, whole⟩)
            exact List.suffix_append_of_suffix (ends.trans (List.suffix_cons first more))
        exact ⟨ends, fun same => free _ (Or.inl (List.suffix_refl _)) (same ▸ here)⟩

theorem length_labels (e : Entry) : e.labels.length = (Str.split '.' e.text).length :=
  List.length_map _

/-- The labels after the label are the last ones. -/
theorem after_suffix :
    labelText label :: after.map labelText <:+ (before ++ label :: after).map labelText :=
  ⟨before.map labelText, by rw [List.map_append, List.map_cons]⟩

theorem suffix_of_hits {e : Entry} {labels : List Str} (hits : e.Hits labels) :
    Str.split '.' e.text <:+ labels := by
  cases e with
  | exact own =>
      rw [← show Str.split '.' own = labels from hits]
      exact List.suffix_refl _
  | wildcard suffix => exact hits.1

/-- An entry is meant of the name by the labels after the label, or by the label too. -/
theorem names_iff (canonical : Canonical domain) :
    (entryOf domain).Names (before ++ label :: after) ↔
      (entryOf domain).Ends after ∨
        (entryOf domain).Reaches (before ++ label :: after) after := by
  have longer : (after.map labelText).length <
      ((before ++ label :: after).map labelText).length := by
    simp only [List.length_map, List.length_append, List.length_cons]
    omega
  constructor
  · intro names
    by_cases reaches : after.length < (entryOf domain).labels.length
    · exact Or.inr ⟨names, reaches⟩
    -- no longer than the labels after the label, so a suffix of them
    · have hits := (names_iff_hits canonical _).mp names
      have short : (Str.split '.' (entryOf domain).text).length ≤
          (after.map labelText).length := by
        rw [← length_labels, List.length_map]
        exact Nat.le_of_not_lt reaches
      have ends := List.suffix_of_suffix_length_le (suffix_of_hits hits)
        ((List.suffix_cons _ _).trans after_suffix) short
      left
      generalize entryOf domain = e at hits short ends
      cases e with
      | exact own =>
          have same : Str.split '.' own = _ := hits
          have equal := congrArg List.length same
          exact absurd (Nat.lt_of_lt_of_le longer (equal ▸ short)) (Nat.lt_irrefl _)
      | wildcard suffix => exact ends
  · rintro (ends | reaches)
    · refine (names_iff_hits canonical _).mpr ?_
      generalize entryOf domain = e at ends
      cases e with
      | exact own => exact ends.elim
      | wildcard suffix =>
          refine ⟨ends.trans ((List.suffix_cons _ _).trans after_suffix), fun same => ?_⟩
          have short := ends.length_le
          rw [same] at short
          exact absurd longer (Nat.not_lt.mpr short)
    · exact reaches.1

/-- An entry that is missed has the label. -/
theorem listLabel_of_reaches (canonical : Canonical domain)
    (reaches : (entryOf domain).Reaches (before ++ label :: after) after) :
    isListLabel (labelText label) = true := by
  obtain ⟨names, long⟩ := reaches
  have ends := suffix_of_hits ((names_iff_hits canonical _).mp names)
  rw [length_labels] at long
  have inside : labelText label :: after.map labelText <:+
      Str.split '.' (entryOf domain).text := by
    refine List.suffix_of_suffix_length_le after_suffix ends ?_
    rw [List.length_cons, List.length_map]
    exact long
  exact canonical.isListLabel_of_mem (inside.subset List.mem_cons_self)

end Decomposed

/-- **At the last label that is not plain**: the test is label-wise exactly if a wildcard covers
the labels after it, or no entry is missed and none is found by mistake. -/
theorem hits_iff_names_iff {entries : List Str} {before : Name} {label : Bytes} {after : Name}
    (canonical : ∀ d ∈ entries, Canonical d) (odd : ¬ printer.Plain label)
    (rest : ∀ other ∈ after, printer.Plain other) :
    ((∃ d ∈ entries, (entryOf d).Hits ((before ++ label :: after).flatMap printer.readBack)) ↔
        ∃ d ∈ entries, (entryOf d).Names (before ++ label :: after)) ↔
      (∃ d ∈ entries, (entryOf d).Ends after) ∨
        ∀ d ∈ entries, ¬ (entryOf d).Reaches (before ++ label :: after) after ∧
          ¬ printer.Imitates (entryOf d) label after := by
  -- a label an entry may have is printed without a full stop
  have apart : ∀ d ∈ entries, ∀ d' ∈ entries,
      (entryOf d).Reaches (before ++ label :: after) after →
        ¬ printer.Imitates (entryOf d') label after := by
    intro d mem d' _ reaches imitates
    have nothing := readBack_tail_of_listLabel printer
      (listLabel_of_reaches (canonical d mem) reaches)
    generalize entryOf d' = e at imitates
    cases e with
    | exact own => exact imitates
    | wildcard suffix =>
        obtain ⟨m, filled, ends, -⟩ := imitates
        rw [nothing] at ends
        exact filled (List.suffix_nil.mp ends)
  constructor
  · intro same
    by_cases common : ∃ d ∈ entries, (entryOf d).Ends after
    · exact Or.inl common
    · refine Or.inr fun d mem => ⟨fun reaches => ?_, fun imitates => ?_⟩
      · obtain ⟨d', mem', hits⟩ :=
          same.mpr ⟨d, mem, (names_iff (canonical d mem)).mpr (Or.inr reaches)⟩
        rcases (hits_readBack_iff printer (canonical d' mem') odd rest).mp hits with
          ends | imitates
        · exact common ⟨d', mem', ends⟩
        · exact apart d mem d' mem' reaches imitates
      · obtain ⟨d', mem', names⟩ :=
          same.mp ⟨d, mem,
            (hits_readBack_iff printer (canonical d mem) odd rest).mpr (Or.inr imitates)⟩
        rcases (names_iff (canonical d' mem')).mp names with ends | reaches
        · exact common ⟨d', mem', ends⟩
        · exact apart d' mem' d mem reaches imitates
  · rintro (⟨d, mem, ends⟩ | neither)
    · exact ⟨fun _ => ⟨d, mem, (names_iff (canonical d mem)).mpr (Or.inl ends)⟩,
        fun _ => ⟨d, mem, (hits_readBack_iff printer (canonical d mem) odd rest).mpr
          (Or.inl ends)⟩⟩
    · constructor
      · rintro ⟨d, mem, hits⟩
        rcases (hits_readBack_iff printer (canonical d mem) odd rest).mp hits with
          ends | imitates
        · exact ⟨d, mem, (names_iff (canonical d mem)).mpr (Or.inl ends)⟩
        · exact absurd imitates (neither d mem).2
      · rintro ⟨d, mem, names⟩
        rcases (names_iff (canonical d mem)).mp names with ends | reaches
        · exact ⟨d, mem, (hits_readBack_iff printer (canonical d mem) odd rest).mpr
            (Or.inl ends)⟩
        · exact absurd reaches (neither d mem).1

end LastOdd

/-! ## The property

The condition is about the entries and the labels of one name, and holds for every entry if all
labels are plain.  The two ways in which it fails are shown at a name in Unicode and at a name
with a full stop inside of a label. -/

/-- **Name matching is label-wise** exactly if a wildcard covers the labels after the last one
that is not plain, or that label makes no entry missed and none found by mistake. -/
theorem matches_iff_labels {u : CaseTables} (hash : Bytes → UInt64) (printer : NamePrinter u)
    {entries : List Str} (canonical : ∀ d ∈ entries, Canonical d)
    (room : packedBytes entries < 2 ^ 32) (name : Name) :
    ((storeOf u hash entries).matches hash (normalizeDomain u (printer.display name)) = true ↔
        ∃ d ∈ entries, (entryOf d).Names name) ↔
      printer.LabelWise name entries := by
  rw [(models_storeOf u hash canonical room).1.matches_iff,
    covers_iff_hits printer canonical name]
  constructor
  · rintro same before label after rfl odd rest
    exact (hits_iff_names_iff printer canonical odd rest).mp same
  · intro labelWise
    rcases plain_or_exists_last printer name with plain |
      ⟨before, label, after, rfl, odd, rest⟩
    · rw [flatMap_readBack_of_plain printer plain]
      exact exists_congr fun d => and_congr_right fun mem =>
        (names_iff_hits (canonical d mem) name).symm
    · exact (hits_iff_names_iff printer canonical odd rest).mpr
        (labelWise before label after rfl odd rest)

/-- Names of plain labels are matched by their labels, whatever the entries. -/
theorem labelWise_of_plain {u : CaseTables} {printer : NamePrinter u} {name : Name}
    (plain : ∀ label ∈ name, printer.Plain label) (entries : List Str) :
    printer.LabelWise name entries := by
  rintro before label after rfl odd -
  exact absurd (plain label (List.mem_append_right before List.mem_cons_self)) odd

/-- The octal digits of a byte. -/
def octalDigits (byte : UInt8) : Str :=
  [byte / 64, byte / 8 % 8, byte % 8].map fun digit => byteChar (48 + digit)

def munich : Bytes := Str.utf8 "xn--mnchen-3ya".toList

/-- A printer that knows one Unicode form. -/
def onePrinter : NamePrinter .ascii where
  toUnicode label := if label = munich then some "münchen".toList else none
  special first byte := !isLabelByte byte && !(first && byte == 42) || first && byte == 45
  digits := octalDigits
  plain_of_not_special first byte plain :=
    byte_forall (P := fun byte => ∀ first,
        (!isLabelByte byte && !(first && byte == 42) || first && byte == 45) = false →
          isLabelByte byte = true ∨ byte = 42)
      (by decide +kernel) byte first plain
  isDigit_of_mem byte :=
    List.all_eq_true.mp (byte_forall (P := fun byte => (octalDigits byte).all Char.isDigit = true)
      (by decide +kernel) byte)
  foreign label text decoded part head := by
    obtain ⟨-, same⟩ := Option.ite_none_right_eq_some.mp decoded
    obtain rfl := Option.some.inj same
    obtain rfl : "münchen".toList = part := by
      have whole : (Str.split '.' "münchen".toList).head? = some "münchen".toList := by
        decide +kernel
      exact Option.some.inj (whole.symm.trans head)
    exact ⟨'ü', by decide, 'ü', by decide, by decide⟩
  dot_notMem label text decoded _ := by
    obtain ⟨-, same⟩ := Option.ite_none_right_eq_some.mp decoded
    obtain rfl := Option.some.inj same
    decide

/-- A name under a wildcard. -/
theorem matches_iff_labels_wildcard :
    let name : Name := [Str.utf8 "WWW".toList, Str.utf8 "ads".toList, Str.utf8 "example".toList]
    let entries := ["*.ads.example".toList]
    ((storeOf .ascii (fun _ => 0) entries).matches (fun _ => 0)
        (normalizeDomain .ascii (onePrinter.display name)) = true ↔
      ∃ d ∈ entries, (entryOf d).Names name) ∧
        ∃ d ∈ entries, (entryOf d).Names name := by
  intro name entries
  have labels : ∀ label ∈ name, onePrinter.Plain label := by decide +kernel
  refine ⟨(matches_iff_labels (fun _ => 0) onePrinter ?_ ?_ name).mpr
    (labelWise_of_plain labels entries), ?_⟩
  · decide +kernel
  · decide +kernel
  · decide +kernel

/-- **A name in Unicode is missed**, in either case, **and a full stop in a label is taken for
the end of one.** -/
theorem not_matches_iff_labels :
    (∀ label ∈ [munich, Str.utf8 "XN--MNCHEN-3YA".toList],
      let name : Name := [label, Str.utf8 "de".toList]
      let entries := ["xn--mnchen-3ya.de".toList]
      ¬ ((storeOf .ascii (fun _ => 0) entries).matches (fun _ => 0)
            (normalizeDomain .ascii (onePrinter.display name)) = true ↔
          ∃ d ∈ entries, (entryOf d).Names name)) ∧
      let name : Name := [Str.utf8 "ads.example".toList, Str.utf8 "com".toList]
      let entries := ["*.example.com".toList]
      ¬ ((storeOf .ascii (fun _ => 0) entries).matches (fun _ => 0)
            (normalizeDomain .ascii (onePrinter.display name)) = true ↔
          ∃ d ∈ entries, (entryOf d).Names name) := by
  decide +kernel

end RustBlocker
