import RustBlocker.Text

/-!
# IP addresses

The address types of the standard library and their `FromStr`.

* **IPv4** is four decimal numbers below 256, without leading zeros, in at most fifteen bytes.
* **IPv6** is eight groups of up to four hexadecimal digits; one `::` stands for one or more zero
  groups, and the last two groups may be written as an IPv4 address.
* **Reading** a part of a text gives what was read and the rest; a parse succeeds when nothing is
  left over.

The readers are those of `core::net::parser`, one for one and with their limits: how many digits a
number may have, whether a leading zero is taken, where an IPv4 tail may stand.  The limits decide
which texts are accepted, and a good part of what is proved elsewhere is about texts that one
reader accepts and another does not.  An address is its number of 32 or 128 bits; that an IPv6
address may stand for an IPv4 one is not looked at by the parser, and not here.
-/

namespace RustBlocker

/-- `Ipv4Addr`, its four octets in network order. -/
abbrev Ipv4Addr := BitVec 32

/-- `Ipv6Addr`, its eight segments in network order. -/
abbrev Ipv6Addr := BitVec 128

/-- `IpAddr`: an address of either version.  An IPv4 address that is written as an IPv6 one is
another address. -/
inductive IpAddr where
  | v4 (addr : Ipv4Addr)
  | v6 (addr : Ipv6Addr)
deriving DecidableEq, Repr

namespace IpAddr

/-- `char::to_digit` -/
def toDigit (radix : Nat) (c : Char) : Option Nat :=
  let value :=
    if c.isDigit then some (c.toNat - '0'.toNat)
    else if 'a' ≤ c ∧ c ≤ 'z' then some (c.toNat - 'a'.toNat + 10)
    else if 'A' ≤ c ∧ c ≤ 'Z' then some (c.toNat - 'A'.toNat + 10)
    else none
  value.filter fun n => n < radix

/-- `Parser::read_number`: up to `maxDigits` digits with a value below `limit`.  It takes as many
digits as there are, and fails where there is one too many or the value is too large. -/
def readNumber (radix maxDigits limit : Nat) (zeroPrefix : Bool) (s : Str) :
    Option (Nat × Str) :=
  let digits := s.takeWhile fun c => (toDigit radix c).isSome
  let value := digits.foldl (fun n c => n * radix + (toDigit radix c).getD 0) 0
  if digits.length = 0 ∨ maxDigits < digits.length then none
  else if zeroPrefix = false ∧ s.head? = some '0' ∧ 1 < digits.length then none
  else if value < limit then some (value, s.drop digits.length)
  else none

/-- `Parser::read_separator`: a separator comes before all but the first item. -/
def readSeparator {α : Type} (separator : Char) (index : Nat)
    (inner : Str → Option (α × Str)) (s : Str) : Option (α × Str) :=
  if index = 0 then inner s
  else
    match s with
    | c :: rest => if c = separator then inner rest else none
    | [] => none

/-- The octets of an IPv4 address from the one of the given index on. -/
def readOctets : Nat → Nat → Str → Option (List Nat × Str)
  | 0, _, s => some ([], s)
  | left + 1, index, s => do
      let (octet, rest) ← readSeparator '.' index (readNumber 10 3 256 false) s
      let (octets, rest) ← readOctets left (index + 1) rest
      return (octet :: octets, rest)

/-- Digits of a base, the most significant first. -/
def joinGroups (base : Nat) (groups : List Nat) : Nat :=
  groups.foldl (fun n group => n * base + group) 0

/-- `Parser::read_ipv4_addr` -/
def readIpv4 (s : Str) : Option (Ipv4Addr × Str) :=
  (readOctets 4 0 s).map fun (octets, rest) => (BitVec.ofNat 32 (joinGroups 256 octets), rest)

/-- `read_groups`: up to `left` groups, and whether the last two of them were written as an IPv4
address.  After an IPv4 part no other group is read. -/
def readGroups : Nat → Nat → Str → List Nat × Bool × Str
  | 0, _, s => ([], false, s)
  | left + 1, index, s =>
      match if 1 ≤ left then readSeparator ':' index readIpv4 s else none with
      | some (addr, rest) => ([addr.toNat / 65536, addr.toNat % 65536], true, rest)
      | none =>
          match readSeparator ':' index (readNumber 16 4 65536 true) s with
          | none => ([], false, s)
          | some (group, rest) =>
              let (groups, embedded, rest) := readGroups left (index + 1) rest
              (group :: groups, embedded, rest)

/-- `Parser::read_ipv6_addr` -/
def readIpv6 (s : Str) : Option (Ipv6Addr × Str) :=
  let (head, headIpv4, rest) := readGroups 8 0 s
  if head.length = 8 then some (BitVec.ofNat 128 (joinGroups 65536 head), rest)
  else if headIpv4 then none
  else
    match rest with
    | ':' :: ':' :: rest =>
        let (tail, _, rest) := readGroups (8 - (head.length + 1)) 0 rest
        let zeros := List.replicate (8 - head.length - tail.length) 0
        some (BitVec.ofNat 128 (joinGroups 65536 (head ++ zeros ++ tail)), rest)
    | _ => none

/-- `Parser::parse_with`: the whole text is read, or the parse fails. -/
def parseWith {α : Type} (inner : Str → Option (α × Str)) (s : Str) : Option α :=
  (inner s).bind fun (value, rest) => if rest = [] then some value else none

/-- `Ipv4Addr::from_str` -/
def parseIpv4 (s : Str) : Option Ipv4Addr :=
  if 15 < s.len then none else parseWith readIpv4 s

/-- `Ipv6Addr::from_str` -/
def parseIpv6 (s : Str) : Option Ipv6Addr := parseWith readIpv6 s

/-- `IpAddr::from_str` -/
def parse (s : Str) : Option IpAddr :=
  parseWith (fun s =>
    ((readIpv4 s).map fun (addr, rest) => (v4 addr, rest)) <|>
      (readIpv6 s).map fun (addr, rest) => (v6 addr, rest)) s

example : parseIpv4 "192.0.2.1".toList = some 0xC0000201#32 := by decide +kernel
example : parseIpv4 "192.0.02.1".toList = none := by decide +kernel
example : parseIpv6 "2001:db8::192.0.2.1".toList =
    some 0x20010DB80000000000000000C0000201#128 := by decide +kernel

end IpAddr

end RustBlocker
