import Mathlib

/-!
# JSON values and their readers

A parsed JSON value, and readers that take data out of one in the manner of a derived
deserializer:

* **Numbers.**  A number without a fraction is an `int`.  No reader here accepts one with a
  fraction, so nothing else is kept of it.
* **Records.**  A record is read from an object, by the names of its fields and with unknown
  fields ignored, or from an array that has one element for each field, in their order.
* **Optional fields** may be `null`, and missing from an object.

A reader is a function to `Option`; readers of larger data are put together in its monad.

The text of a JSON document is not modelled: a value is what a parser has made of it.  An object
keeps its members as a list, and a reader takes the first of a name; a parser that keeps one member
for each name hands over a list in which there is no other.  Writers are the constructors
themselves, and for each reader there is a lemma that reads back what was written,
`elements_array_map_of_mem` for arrays, `required_bind` for fields and `unsigned_int` for numbers,
from which the round trip of a record is put together field by field.
-/

/-- A JSON value. -/
inductive Json where
  | null
  | bool (b : Bool)
  | int (n : Int)
  | fraction
  | string (s : List Char)
  | array (values : List Json)
  | object (members : List (List Char × Json))

namespace Json

universe u

variable {α : Type u}

/-- The string a value is. -/
def asString : Json → Option (List Char)
  | string s => some s
  | _ => none

/-- The members of an object. -/
def asObject : Json → Option (List (List Char × Json))
  | object members => some members
  | _ => none

/-- An unsigned integer of the given width. -/
def unsigned (width : Nat) : Json → Option Nat
  | int n => if 0 ≤ n ∧ n < 2 ^ width then some n.toNat else none
  | _ => none

/-- A signed integer that takes `width` bits besides its sign. -/
def signed (width : Nat) : Json → Option Int
  | int n => if -2 ^ width ≤ n ∧ n < 2 ^ width then some n else none
  | _ => none

/-- `null` or a value. -/
def nullable (read : Json → Option α) : Json → Option (Option α)
  | null => some none
  | value => (read value).map some

/-- The elements of an array. -/
def elements (read : Json → Option α) : Json → Option (List α)
  | array values => values.mapM read
  | _ => none

/-- The fields of a record, from an object or from an array.  An array must have as many elements
as the record has fields; an object may have more members, and which of them are missing is for
the readers of the fields to say. -/
def record (names : List (List Char)) : Json → Option (List (List Char × Json))
  | object members => some members
  | array values => if values.length = names.length then some (names.zip values) else none
  | _ => none

/-- A field that must be there.  That it is `null` is a matter for its own reader. -/
def required (name : List Char) (read : Json → Option α)
    (members : List (List Char × Json)) : Option α :=
  (members.lookup name).bind read

/-- A field that may be missing, which is read as if it were `null`. -/
def optional (name : List Char) (read : Json → Option α)
    (members : List (List Char × Json)) : Option (Option α) :=
  match members.lookup name with
  | none => some none
  | some value => nullable read value

/-- What an array is read as was read from its elements. -/
theorem exists_of_mem_elements {read : Json → Option α} {value : Json} {list : List α}
    (h : elements read value = some list) {a : α} (mem : a ∈ list) :
    ∃ element, read element = some a := by
  cases value with
  | array values =>
      rw [elements] at h
      induction values generalizing list with
      | nil =>
          cases h
          cases mem
      | cons element rest ih =>
          rw [List.mapM_cons] at h
          obtain ⟨first, here, h⟩ := Option.bind_eq_some_iff.mp h
          obtain ⟨later, there, h⟩ := Option.bind_eq_some_iff.mp h
          obtain rfl := Option.some.inj h
          rcases List.mem_cons.mp mem with rfl | mem
          · exact ⟨element, here⟩
          · exact ih mem there
  | _ => cases h

/-! ## Reading what was written

The readers applied to the values that the writers make.  What is read back is what was written,
as long as numbers are in the range of their type. -/

/-- A text that may be missing. -/
def ofText? : Option (List Char) → Json
  | none => null
  | some s => string s

@[simp] theorem nullable_ofText? (text : Option (List Char)) :
    nullable asString (ofText? text) = some text := by
  cases text <;> rfl

/-- An array is read back element by element. -/
theorem elements_array_map_of_mem {β : Type u} {read : Json → Option α} {write : β → Json}
    {f : β → α} {list : List β} (back : ∀ b ∈ list, read (write b) = some (f b)) :
    elements read (array (list.map write)) = some (list.map f) := by
  show (list.map write).mapM read = _
  induction list with
  | nil => rfl
  | cons b rest ih =>
      rw [List.map_cons, List.mapM_cons, back b List.mem_cons_self,
        ih fun b mem => back b (List.mem_cons_of_mem _ mem)]
      rfl

theorem elements_array_map {β : Type u} {read : Json → Option α} {write : β → Json} {f : β → α}
    (back : ∀ b, read (write b) = some (f b)) (list : List β) :
    elements read (array (list.map write)) = some (list.map f) :=
  elements_array_map_of_mem fun b _ => back b

/-- A field that is there is read, and the reader goes on with it. -/
theorem required_bind {β : Type u} {name : List Char} {members : List (List Char × Json)}
    {value : Json} {read : Json → Option α} {a : α} (held : members.lookup name = some value)
    (back : read value = some a) (next : α → Option β) :
    (required name read members >>= next) = next a := by
  rw [required, held, Option.bind_some, back]
  rfl

@[simp] theorem asString_string (s : List Char) : asString (string s) = some s := rfl

/-- A number in range is read back. -/
theorem unsigned_int {width n : Nat} (small : n < 2 ^ width) :
    unsigned width (int n) = some n := by
  have bounds : 0 ≤ (n : Int) ∧ (n : Int) < 2 ^ width :=
    ⟨Int.natCast_nonneg n, by exact_mod_cast small⟩
  rw [unsigned, if_pos bounds, Int.toNat_natCast]

theorem signed_int {width : Nat} {n : Int} (bounds : -2 ^ width ≤ n ∧ n < 2 ^ width) :
    signed width (int n) = some n := by
  rw [signed, if_pos bounds]

/-- What is read as an unsigned integer is in range. -/
theorem lt_of_unsigned {width n : Nat} {value : Json} (h : unsigned width value = some n) :
    n < 2 ^ width := by
  cases value with
  | int m =>
      rw [unsigned] at h
      split at h
      next bounds =>
        obtain rfl := Option.some.inj h
        have := bounds.2
        zify
        rwa [Int.toNat_of_nonneg bounds.1]
      next => cases h
  | _ => cases h

end Json
