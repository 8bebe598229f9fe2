import Mathlib

/-!
# Base64

The encoding of bytes in groups of six bits, with the standard alphabet and with padding. Three
bytes give four characters; one or two bytes left over give two or three characters and are padded
to four.

`decode` is the strict decoder: it wants the padding, takes no other character and wants the bits
that encode nothing to be zero.  `decode_encode` is the round trip.

The other round trip, that what is decoded encodes to the same text, holds of the strict decoder
too, but nothing here needs it and it is not proved.  The proof of `decode_encode` goes by the
number of bytes that are left over; each of the three endings is a computation on at most three
bytes, which is done once for all bytes by arithmetic, not by trying them.
-/

namespace Base64

/-- The sixty-four digits, in the order of the values that they stand for. -/
def alphabet : List Char :=
  "ABCDEFGHIJKLMNOPQRSTUVWXYZabcdefghijklmnopqrstuvwxyz0123456789+/".toList

def padding : Char := '='

def digit (n : Nat) : Char := alphabet.getD n padding

/-- The six bits a character stands for, if it is a digit.  The padding is not one. -/
def value (c : Char) : Option Nat := alphabet.findIdx? fun d => d == c

def encode : List UInt8 → List Char
  | [] => []
  | [x] => [digit (x.toNat / 4), digit (x.toNat % 4 * 16), padding, padding]
  | [x, y] =>
      [digit (x.toNat / 4), digit (x.toNat % 4 * 16 + y.toNat / 16),
        digit (y.toNat % 16 * 4), padding]
  | x :: y :: z :: rest =>
      digit (x.toNat / 4) :: digit (x.toNat % 4 * 16 + y.toNat / 16) ::
        digit (y.toNat % 16 * 4 + z.toNat / 64) :: digit (z.toNat % 64) :: encode rest

/-- The byte at the end of a text, from two characters and two of padding. -/
def decodeOne (a b : Char) : Option (List UInt8) := do
  let a ← value a
  let b ← value b
  if b % 16 = 0 then some [UInt8.ofNat (a * 4 + b / 16)] else none

/-- The two bytes at the end of a text, from three characters and one of padding. -/
def decodeTwo (a b c : Char) : Option (List UInt8) := do
  let a ← value a
  let b ← value b
  let c ← value c
  if c % 4 = 0 then
    some [UInt8.ofNat (a * 4 + b / 16), UInt8.ofNat (b % 16 * 16 + c / 4)]
  else none

/-- Three bytes from four characters. -/
def decodeThree (a b c d : Char) : Option (List UInt8) := do
  let a ← value a
  let b ← value b
  let c ← value c
  let d ← value d
  some [UInt8.ofNat (a * 4 + b / 16), UInt8.ofNat (b % 16 * 16 + c / 4),
    UInt8.ofNat (c % 4 * 64 + d)]

def decode : List Char → Option (List UInt8)
  | [] => some []
  | a :: b :: c :: d :: rest =>
      if rest.isEmpty && d == padding then
        if c == padding then decodeOne a b else decodeTwo a b c
      else do
        let bytes ← decodeThree a b c d
        let later ← decode rest
        some (bytes ++ later)
  | _ => none

/-! ## The round trip

The encoder works on groups of three bytes and pads the last one; the decoder is followed along
the same groups. -/

theorem value_digit {n : Nat} (bound : n < 64) : value (digit n) = some n := by
  have each : ∀ m : Fin 64, value (digit m) = some m.val := by decide +kernel
  exact each ⟨n, bound⟩

theorem digit_ne_padding {n : Nat} (bound : n < 64) : digit n ≠ padding := by
  have each : ∀ m : Fin 64, digit m ≠ padding := by decide +kernel
  exact each ⟨n, bound⟩

section Groups

variable (x y z : UInt8)

theorem decodeOne_digits :
    decodeOne (digit (x.toNat / 4)) (digit (x.toNat % 4 * 16)) = some [x] := by
  have small := x.toNat_lt
  rw [decodeOne, value_digit (by omega), value_digit (by omega)]
  have aligned : x.toNat % 4 * 16 % 16 = 0 := by omega
  have whole : x.toNat / 4 * 4 + x.toNat % 4 * 16 / 16 = x.toNat := by omega
  simp only [Option.bind_eq_bind, Option.bind_some, aligned, whole, if_true, UInt8.ofNat_toNat]

theorem decodeTwo_digits :
    decodeTwo (digit (x.toNat / 4)) (digit (x.toNat % 4 * 16 + y.toNat / 16))
      (digit (y.toNat % 16 * 4)) = some [x, y] := by
  have first := x.toNat_lt
  have second := y.toNat_lt
  rw [decodeTwo, value_digit (by omega), value_digit (by omega), value_digit (by omega)]
  have aligned : y.toNat % 16 * 4 % 4 = 0 := by omega
  have one : x.toNat / 4 * 4 + (x.toNat % 4 * 16 + y.toNat / 16) / 16 = x.toNat := by omega
  have two : (x.toNat % 4 * 16 + y.toNat / 16) % 16 * 16 + y.toNat % 16 * 4 / 4 = y.toNat := by
    omega
  simp only [Option.bind_eq_bind, Option.bind_some, aligned, one, two, if_true,
    UInt8.ofNat_toNat]

theorem decodeThree_digits :
    decodeThree (digit (x.toNat / 4)) (digit (x.toNat % 4 * 16 + y.toNat / 16))
      (digit (y.toNat % 16 * 4 + z.toNat / 64)) (digit (z.toNat % 64)) = some [x, y, z] := by
  have first := x.toNat_lt
  have second := y.toNat_lt
  have third := z.toNat_lt
  rw [decodeThree, value_digit (by omega), value_digit (by omega), value_digit (by omega),
    value_digit (by omega)]
  have one : x.toNat / 4 * 4 + (x.toNat % 4 * 16 + y.toNat / 16) / 16 = x.toNat := by omega
  have two : (x.toNat % 4 * 16 + y.toNat / 16) % 16 * 16 +
      (y.toNat % 16 * 4 + z.toNat / 64) / 4 = y.toNat := by omega
  have three : (y.toNat % 16 * 4 + z.toNat / 64) % 4 * 64 + z.toNat % 64 = z.toNat := by omega
  simp only [Option.bind_eq_bind, Option.bind_some, one, two, three, UInt8.ofNat_toNat]

end Groups

/-- **What was encoded is decoded.** -/
@[simp] theorem decode_encode (bytes : List UInt8) : decode (encode bytes) = some bytes := by
  fun_induction encode bytes with
  | case1 => rfl
  | case2 x =>
      show decodeOne _ _ = _
      exact decodeOne_digits x
  | case3 x y =>
      have solid : digit (y.toNat % 16 * 4) ≠ padding := by
        have small := y.toNat_lt
        exact digit_ne_padding (by omega)
      simp only [decode, List.isEmpty_nil, beq_self_eq_true, Bool.and_self, if_true,
        beq_eq_false_iff_ne.mpr solid, Bool.false_eq_true, if_false]
      exact decodeTwo_digits x y
  | case4 x y z rest ih =>
      have solid : digit (z.toNat % 64) ≠ padding := digit_ne_padding (Nat.mod_lt _ (by decide))
      simp only [decode, beq_eq_false_iff_ne.mpr solid, Bool.and_false, Bool.false_eq_true,
        if_false, decodeThree_digits, ih]
      rfl

end Base64
