import RustBlocker.IpAddr
import RustBlocker.Sessions

/-!
# Socket addresses

`SocketAddr` of the standard library and its `FromStr`: an IPv4 address, a colon and a port, or an
IPv6 address in brackets, a colon and a port.

* **A text after a separator** does not matter to what was read before it, so that an address with
  a port behind it is read as the address alone is, up to the colon.

`parse_append_port` says which addresses make a socket address with a port behind them.

The server makes its two listen addresses in just this way, by writing an address and a port into
one text with a colon between them.  For an IPv4 address this is the text of a socket address; an
IPv6 address would have to be put into brackets, so it is none, and a server that is told to
listen on one does not start.  That is a consequence of `parse_append_port`, which is proved by
following the readers over the separator: digits are read up to what is no digit, octets up to
what is neither a digit nor a full stop, and a text that an address reader has read in full is
read as far as the colon when a colon follows.
-/

namespace RustBlocker

/-- `SocketAddr` -/
structure SocketAddr where
  ip : IpAddr
  port : Nat
  scopeId : Nat := 0
deriving DecidableEq, Repr

namespace SocketAddr

/-- `Parser::read_given_char` -/
def readGivenChar (c : Char) : Str → Option Str
  | d :: rest => if d = c then some rest else none
  | [] => none

/-- `Parser::read_port`: a number of any length. -/
def readPort (s : Str) : Option (Nat × Str) := do
  let rest ← readGivenChar ':' s
  IpAddr.readNumber 10 rest.length 65536 true rest

/-- `Parser::read_scope_id` -/
def readScopeId (s : Str) : Option (Nat × Str) := do
  let rest ← readGivenChar '%' s
  IpAddr.readNumber 10 rest.length (2 ^ 32) true rest

/-- `Parser::read_socket_addr_v4` -/
def readSocketAddrV4 (s : Str) : Option (SocketAddr × Str) := do
  let (ip, rest) ← IpAddr.readIpv4 s
  let (port, rest) ← readPort rest
  return ({ ip := .v4 ip, port }, rest)

/-- `Parser::read_socket_addr_v6` -/
def readSocketAddrV6 (s : Str) : Option (SocketAddr × Str) := do
  let rest ← readGivenChar '[' s
  let (ip, rest) ← IpAddr.readIpv6 rest
  let (scopeId, rest) := (readScopeId rest).getD (0, rest)
  let rest ← readGivenChar ']' rest
  let (port, rest) ← readPort rest
  return ({ ip := .v6 ip, port, scopeId }, rest)

/-- `SocketAddr::from_str` -/
def parse (s : Str) : Option SocketAddr :=
  IpAddr.parseWith (fun s => readSocketAddrV4 s <|> readSocketAddrV6 s) s

example : parse "192.0.2.1:53".toList = some ⟨.v4 0xC0000201#32, 53, 0⟩ := by decide +kernel
example : parse "[::1]:53".toList = some ⟨.v6 1#128, 53, 0⟩ := by decide +kernel

end SocketAddr

/-! ## Reading up to a separator

A number, an octet and an address are read from the front of a text, and what is left is handed
on. The lemmas say that a reader which has succeeded on a text succeeds on a longer one as well,
if the text goes on with something that is no part of a number. -/

namespace IpAddr

section Append

variable {radix maxDigits limit : Nat} {zeroPrefix : Bool} {c : Char}

/-- Digits are read up to what is no digit. -/
theorem readNumber_append (other : toDigit radix c = none) (s t : Str) :
    readNumber radix maxDigits limit zeroPrefix (s ++ c :: t) =
      (readNumber radix maxDigits limit zeroPrefix s).map fun (n, rest) =>
        (n, rest ++ c :: t) := by
  have digits : (s ++ c :: t).takeWhile (fun d => (toDigit radix d).isSome) =
      s.takeWhile fun d => (toDigit radix d).isSome := by
    rw [List.takeWhile_append]
    split
    next all =>
      rw [List.takeWhile_cons_of_neg (by simp [other]), List.append_nil]
      exact (List.takeWhile_prefix _).eq_of_length all |>.symm
    · rfl
  unfold readNumber
  simp only [digits]
  generalize taken : s.takeWhile (fun d => (toDigit radix d).isSome) = number
  have prefixed : number <+: s := taken ▸ List.takeWhile_prefix _
  by_cases bad : number.length = 0 ∨ maxDigits < number.length
  · rw [if_pos bad, if_pos bad]
    rfl
  · rw [if_neg bad, if_neg bad]
    have filled : s ≠ [] := by
      rintro rfl
      exact bad (Or.inl (by rw [List.prefix_nil.mp prefixed]; rfl))
    rw [List.head?_append_of_ne_nil _ filled]
    split
    · rfl
    · split
      · rw [List.drop_append_of_le_length prefixed.length_le]
        rfl
      · rfl

/-- Octets are read up to what is neither a digit nor a dot. -/
theorem readOctets_append (other : toDigit 10 c = none) (dot : c ≠ '.') (left index : Nat)
    (s t : Str) :
    readOctets left index (s ++ c :: t) =
      (readOctets left index s).map fun (octets, rest) => (octets, rest ++ c :: t) := by
  induction left generalizing index s with
  | zero => rfl
  | succ left ih =>
      have first : readSeparator '.' index (readNumber 10 3 256 false) (s ++ c :: t) =
          (readSeparator '.' index (readNumber 10 3 256 false) s).map fun (n, rest) =>
            (n, rest ++ c :: t) := by
        unfold readSeparator
        split
        · exact readNumber_append other s t
        · cases s with
          | nil =>
              show (if c = '.' then _ else none) = none
              rw [if_neg dot]
          | cons d rest =>
              show (if d = '.' then _ else none) = _
              by_cases here : d = '.'
              · rw [if_pos here]
                simp only [if_pos here]
                exact readNumber_append other rest t
              · rw [if_neg here]
                simp only [if_neg here]
                rfl
      unfold readOctets
      rw [first]
      rcases readSeparator '.' index (readNumber 10 3 256 false) s with _ | ⟨octet, rest⟩
      · rfl
      · simp only [Option.map_some, Option.bind_eq_bind, Option.bind_some, ih]
        rcases readOctets left (index + 1) rest with _ | ⟨octets, rest⟩ <;> rfl

theorem readIpv4_append (other : toDigit 10 c = none) (dot : c ≠ '.') (s t : Str) :
    readIpv4 (s ++ c :: t) = (readIpv4 s).map fun (ip, rest) => (ip, rest ++ c :: t) := by
  unfold readIpv4
  rw [readOctets_append other dot]
  rcases readOctets 4 0 s with _ | ⟨octets, rest⟩ <;> rfl

end Append

/-- An address as it is read: in full by one of the two readers. -/
theorem parse_eq_some {s : Str} {ip : IpAddr} (parsed : parse s = some ip) :
    (∃ addr, ip = .v4 addr ∧ readIpv4 s = some (addr, [])) ∨
      ∃ addr, ip = .v6 addr ∧ readIpv4 s = none ∧ readIpv6 s = some (addr, []) := by
  obtain ⟨⟨value, rest⟩, read, whole⟩ := Option.bind_eq_some_iff.mp parsed
  obtain ⟨ended, here⟩ := Option.ite_none_right_eq_some.mp whole
  obtain rfl : rest = [] := ended
  obtain rfl : value = ip := Option.some.inj here
  simp only at read
  cases v4 : readIpv4 s with
  | some part =>
      rw [v4] at read
      obtain ⟨addr, rest⟩ := part
      obtain ⟨rfl, same⟩ := Prod.mk.inj (Option.some.inj read)
      obtain rfl : rest = [] := same
      exact Or.inl ⟨addr, rfl, rfl⟩
  | none =>
      rw [v4] at read
      obtain ⟨⟨addr, rest⟩, v6, same⟩ := Option.map_eq_some_iff.mp (read : Option.map _ _ = _)
      obtain ⟨rfl, left⟩ := Prod.mk.inj same
      obtain rfl : rest = [] := left
      exact Or.inr ⟨addr, rfl, rfl, v6⟩

/-- An IPv6 address does not begin with a bracket. -/
theorem readIpv6_bracket (s : Str) : readIpv6 ('[' :: s) = none := by
  have number : ∀ maxDigits limit zeroPrefix,
      readNumber 16 maxDigits limit zeroPrefix ('[' :: s) = none := by
    intro maxDigits limit zeroPrefix
    exact (readNumber_append (c := '[') (by decide) [] s).trans rfl
  have v4 : readIpv4 ('[' :: s) = none :=
    (readIpv4_append (c := '[') (by decide) (by decide) [] s).trans rfl
  have groups : readGroups 8 0 ('[' :: s) = ([], false, '[' :: s) := by
    unfold readGroups
    simp only [readSeparator, if_true, v4, number, ite_self]
  unfold readIpv6
  rw [groups]
  rfl

end IpAddr

/-! ## An address and a port

The text of a setting is an address, and the start puts a colon and a port behind it.  For an IPv4
address this is the text of a socket address; an IPv6 address would need brackets, which nobody
writes. -/

theorem toDigit_of_isDigit {c : Char} (digit : c.isDigit = true) :
    IpAddr.toDigit 10 c = some (c.toNat - '0'.toNat) := by
  unfold IpAddr.toDigit
  rw [if_pos digit]
  refine Option.filter_eq_some_iff.mpr ⟨rfl, ?_⟩
  have upper : c.toNat ≤ 57 := by
    have := (Char.isDigit_iff_toNat.mp digit).2
    simpa using this
  have zero : '0'.toNat = 48 := rfl
  simp only [decide_eq_true_eq]
  omega

namespace SocketAddr

/-- A port that was written is read. -/
theorem readPort_decimal {port : Nat} (small : port < 65536) :
    readPort (':' :: decimal port) = some (port, []) := by
  have digit : ∀ c ∈ decimal port, c.isDigit = true := fun c mem => isDigit_of_mem_decimal mem
  have all : (decimal port).takeWhile (fun c => (IpAddr.toDigit 10 c).isSome) = decimal port := by
    rw [List.takeWhile_eq_self_iff]
    intro c mem
    rw [toDigit_of_isDigit (digit c mem)]
    rfl
  have value :
      (decimal port).foldl (fun n c => n * 10 + (IpAddr.toDigit 10 c).getD 0) 0 = port := by
    have folded : Nat.ofDigitChars 10 (decimal port) 0 = port := by
      rw [decimal, Nat.toList_repr]
      exact Nat.ofDigitChars_ten_toDigits
    rw [Nat.ofDigitChars_eq_foldl] at folded
    refine Eq.trans (List.foldl_ext _ _ _ fun n c mem => ?_) folded
    rw [toDigit_of_isDigit (digit c mem), Nat.mul_comm, Option.getD_some]
  have filled : (decimal port).length ≠ 0 := by
    rw [decimal, Nat.toList_repr, Ne, List.length_eq_zero_iff]
    exact Nat.toDigits_ne_nil
  show IpAddr.readNumber 10 (decimal port).length 65536 true (decimal port) = _
  unfold IpAddr.readNumber
  simp only [all, value]
  rw [if_neg (by omega), if_neg (by simp), if_pos small, List.drop_length]

/-- The socket address of an address that is written with a port behind it. -/
def ofParts (port : Nat) : IpAddr → Option SocketAddr
  | .v4 addr => some { ip := .v4 addr, port }
  | .v6 _ => none

/-- **An address with a port behind it is a socket address exactly if it is an IPv4
address**: an IPv6 address would need brackets. -/
theorem parse_append_port {s : Str} {ip : IpAddr} {port : Nat}
    (parsed : IpAddr.parse s = some ip) (small : port < 65536) :
    parse (s ++ ':' :: decimal port) = ofParts port ip := by
  have append := IpAddr.readIpv4_append (c := ':') (by decide) (by decide) s (decimal port)
  rcases IpAddr.parse_eq_some parsed with ⟨addr, rfl, read⟩ | ⟨addr, rfl, read, v6⟩
  · rw [read] at append
    have v4 : readSocketAddrV4 (s ++ ':' :: decimal port) =
        some ({ ip := .v4 addr, port }, []) := by
      unfold readSocketAddrV4
      rw [append]
      show ((readPort (':' :: decimal port)).bind _) = _
      rw [readPort_decimal small]
      rfl
    unfold parse IpAddr.parseWith
    simp only [v4]
    rfl
  · rw [read] at append
    have v4 : readSocketAddrV4 (s ++ ':' :: decimal port) = none := by
      unfold readSocketAddrV4
      rw [append]
      rfl
    have noBracket : readSocketAddrV6 (s ++ ':' :: decimal port) = none := by
      have first : readGivenChar '[' (s ++ ':' :: decimal port) = none := by
        cases s with
        | nil => rfl
        | cons c rest =>
            show (if c = '[' then some _ else none) = none
            refine if_neg ?_
            rintro rfl
            rw [IpAddr.readIpv6_bracket] at v6
            cases v6
      unfold readSocketAddrV6
      rw [first]
      rfl
    unfold parse IpAddr.parseWith
    simp only [v4, noBracket]
    rfl

end SocketAddr

end RustBlocker
