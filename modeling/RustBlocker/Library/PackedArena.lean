import Mathlib

/-!
# Length-prefixed entries packed in one byte arena

An arena is a list of bytes to which entries are only ever appended.  An entry is a little-endian
`u16` length followed by that many bytes; it is addressed by the position of its first byte and
never moves, so a reader holding the position recovers the entry from any later arena.

`HasEntry arena i payload` says that `payload` was packed at position `i`.  It is stable under
appending (`HasEntry.append`), it holds of a freshly appended entry (`hasEntry_pack`), and it
determines what the reader returns (`HasEntry.entryAt`).  The payload must be shorter than `2 ^
16` bytes, or its length prefix would be truncated.

The reader is total: at a position where no whole entry lies it returns the empty payload, as code
does that slices with a check.  So `entryAt` alone says nothing of what was stored, and every
statement about stored entries goes through `HasEntry`.  Positions are natural numbers here; what
becomes of a position that is kept in fewer bits is for the user to say, since the arena does not
know how it is addressed.
-/

/-- A string of bytes. -/
abbrev Bytes := List UInt8

namespace PackedArena

/-- The bytes of a `u16`, low byte first. -/
def leBytes (n : UInt16) : Bytes :=
  [UInt8.ofNat n.toNat, UInt8.ofNat (n.toNat / 256)]

/-- The `u16` with the given low and high byte. -/
def ofLeBytes (low high : UInt8) : UInt16 :=
  UInt16.ofNat (low.toNat + 256 * high.toNat)

theorem ofLeBytes_leBytes (n : UInt16) :
    ofLeBytes (UInt8.ofNat n.toNat) (UInt8.ofNat (n.toNat / 256)) = n := by
  apply UInt16.toNat_inj.mp
  have small := n.toNat_lt
  simp only [ofLeBytes, UInt16.toNat_ofNat', UInt8.toNat_ofNat']
  omega

/-- The bytes of a packed entry: the length prefix and the payload. -/
def pack (payload : Bytes) : Bytes :=
  leBytes (UInt16.ofNat payload.length) ++ payload

@[simp] theorem length_pack (payload : Bytes) :
    (pack payload).length = 2 + payload.length := by
  simp [pack, leBytes]
  omega

/-- A checked slice: `none` where the range does not lie in the list, as
`<[u8]>::get` has it. -/
def getRange (arena : Bytes) (start stop : Nat) : Option Bytes :=
  if start ≤ stop ∧ stop ≤ arena.length then
    some ((arena.drop start).take (stop - start))
  else none

/-- The payload at position `i`, empty where no whole entry lies there. -/
def entryAt (arena : Bytes) (i : Nat) : Bytes :=
  match getRange arena i (i + 2) with
  | some [low, high] =>
      (getRange arena (i + 2) (i + 2 + (ofLeBytes low high).toNat)).getD []
  | _ => []

/-- `payload` is packed at position `i` of the arena.  This is a statement about the bytes there,
prefix and payload, and about nothing before or behind them. -/
def HasEntry (arena : Bytes) (i : Nat) (payload : Bytes) : Prop :=
  payload.length < 2 ^ 16 ∧
    ∃ before after, arena = before ++ (pack payload ++ after) ∧ before.length = i

theorem getRange_middle (before middle after : Bytes) :
    getRange (before ++ (middle ++ after)) before.length
      (before.length + middle.length) = some middle := by
  have inside : before.length ≤ before.length + middle.length ∧
      before.length + middle.length ≤ (before ++ (middle ++ after)).length := by
    simp only [List.length_append]
    omega
  rw [getRange, if_pos inside]
  simp

/-- **A packed entry is read back exactly.** -/
theorem HasEntry.entryAt {arena payload : Bytes} {i : Nat}
    (has : HasEntry arena i payload) : entryAt arena i = payload := by
  obtain ⟨short, before, after, rfl, rfl⟩ := has
  have prefixed := getRange_middle before
    (leBytes (UInt16.ofNat payload.length)) (payload ++ after)
  have body := getRange_middle
    (before ++ leBytes (UInt16.ofNat payload.length)) payload after
  have len : (UInt16.ofNat payload.length).toNat = payload.length := by
    rw [UInt16.toNat_ofNat']
    exact Nat.mod_eq_of_lt short
  simp only [List.length_append, leBytes, List.length_cons, List.length_nil,
    List.append_assoc, Nat.zero_add, Nat.reduceAdd] at prefixed body
  rw [PackedArena.entryAt, pack, leBytes, List.append_assoc, prefixed]
  simp only [ofLeBytes_leBytes]
  rw [len] at body ⊢
  rw [body, Option.getD_some]

theorem HasEntry.append {arena payload : Bytes} {i : Nat}
    (has : HasEntry arena i payload) (more : Bytes) :
    HasEntry (arena ++ more) i payload := by
  obtain ⟨short, before, after, rfl, rfl⟩ := has
  exact ⟨short, before, after ++ more, by simp, rfl⟩

/-- An entry packed at the end of the arena lies at the old length. -/
theorem hasEntry_pack (arena : Bytes) {payload : Bytes}
    (short : payload.length < 2 ^ 16) :
    HasEntry (arena ++ pack payload) arena.length payload :=
  ⟨short, arena, [], by simp, rfl⟩

end PackedArena
