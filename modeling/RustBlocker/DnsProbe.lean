import RustBlocker.Library.Checked
import RustBlocker.Library.Cuts
import RustBlocker.Lists
import RustBlocker.SourceRefresh

/-!
# The DNS probe of the deploy tool

The deploy tool asks the deployed server over UDP and parses the answers itself, without a
library: the header, then the questions, then the records, with an offset that the lengths in the
packet move.

* **The code** can fail in its own words, and it can panic: at an index outside of the buffer, at
  a sum beyond `usize::MAX`.  Both are faults here, and so is a loop that does not end.
* **A message** is its questions and records, one after the other (`Layout`).  The start of a name
  determines its end (`NameEnds`), so that a message is cut in one way.
* **Safety**: the only faults are the code's own, and what is accepted is a message.

A byte buffer is in memory, so that it has at most `isize::MAX` bytes: this is what keeps the sums
of the code from overflowing.

## How the faults are modelled

Every access of the source is checked here and returns `outOfBounds` where Rust would panic, every
sum that Rust does not write with `checked_add` is checked against `usize::MAX`, and every `loop`
has a number of rounds, after which it is `outOfRounds`.  None of the three is a hypothesis of the
results.  `parsers_safe` says that they do not occur, on any packet, if the rounds are more than
the bytes of the buffer: each round moves the offset forward, and the offset stays within the
buffer.

The layout of a message is stated without the parser, by what lies at which byte, and it is shown
that what the parser accepts is one.  The converse is not claimed.  The parser is meant for the
answers of one server, and it refuses messages that others would take, for instance a compressed
name that points forward is skipped and not followed.

The rules by which the proofs go are those of `RustBlocker.Library.Checked` for computations that
may fail, and of `RustBlocker.Library.Cuts` for stretches that are cut into items.
-/

namespace RustBlocker

/-! ## Buffers and faults

Every access and every sum of the code can fail in the model: with the error that the code
returns, or with a fault that it must not come to, an index out of range, an overflow or too many
rounds. -/

/-- What ends a run: an error that the code returns, or what it must not come to. -/
inductive DnsFault where
  /-- `Err(text)` -/
  | returned (text : Str)
  /-- An index outside of the buffer. -/
  | outOfBounds
  /-- A sum beyond `usize::MAX`. -/
  | overflow
  /-- A loop that has not ended within its rounds. -/
  | outOfRounds
deriving DecidableEq, Repr

/-- The bytes of a `&[u8]`, with the bound that every allocation has. -/
structure Buffer where
  bytes : Bytes
  /-- An allocation spans at most `isize::MAX` bytes. -/
  fits : bytes.length ≤ 2 ^ 63 - 1

/-- `+` of `usize` -/
def addUsize (a b : Nat) : Except DnsFault Nat :=
  if a + b ≤ usizeMax then .ok (a + b) else .error .overflow

/-- `if bad { return Err(text) }` -/
def refuse (bad : Prop) [Decidable bad] (text : Str) : Except DnsFault Unit :=
  if bad then .error (.returned text) else .ok ()

/-- `u16::from_be_bytes` -/
def ofBeBytes (high low : UInt8) : UInt16 := UInt16.ofNat (256 * high.toNat + low.toNat)

namespace Buffer

def len (buf : Buffer) : Nat := buf.bytes.length

/-- `buf[offset + k]` -/
def byteAt (buf : Buffer) (offset k : Nat) : Except DnsFault UInt8 := do
  let index ← addUsize offset k
  match buf.bytes[index]? with
  | some byte => .ok byte
  | none => .error .outOfBounds

/-- `u16::from_be_bytes([buf[offset + k], buf[offset + k + 1]])` -/
def u16At (buf : Buffer) (offset k : Nat) : Except DnsFault UInt16 := do
  let high ← buf.byteAt offset k
  let low ← buf.byteAt offset (k + 1)
  return ofBeBytes high low

/-- `u32::from_be_bytes` of four bytes from `buf[offset + k]` on. -/
def u32At (buf : Buffer) (offset k : Nat) : Except DnsFault UInt32 := do
  let high ← buf.u16At offset k
  let low ← buf.u16At offset (k + 2)
  return UInt32.ofNat (65536 * high.toNat + low.toNat)

/-- `checked_add`, at most `buf.len()`, or the error. -/
def advance (buf : Buffer) (offset count : Nat) (text : Str) : Except DnsFault Nat :=
  if offset + count ≤ usizeMax ∧ offset + count ≤ buf.len then .ok (offset + count)
  else .error (.returned text)

end Buffer

/-! ## The parsers

The two parsers of the tool, written with the loops of the code.  A loop has a number of rounds,
which is the length of the buffer and one more; that it suffices is proved along with the rest. -/

/-- One round of the loop of `skip_dns_name`: the next offset, or the one it returns with.  The
length of a label is read off its first byte, of which the two high bits are the tag. -/
def skipRound (buf : Buffer) (offset : Nat) : Except DnsFault (Nat ⊕ Nat) := do
  refuse (buf.len ≤ offset) "truncated dns name".toList
  let len ← buf.byteAt offset 0
  let offset ← addUsize offset 1
  if len &&& 0xc0 = 0xc0 then
    refuse (buf.len ≤ offset) "truncated dns pointer".toList
    let offset ← addUsize offset 1
    return .inr offset
  else if len = 0 then
    return .inr offset
  else
    refuse (len &&& 0xc0 ≠ 0) "unsupported dns label".toList
    let offset ← buf.advance offset len.toNat "truncated dns label".toList
    return .inl offset

/-- `skip_dns_name`, in `rounds` rounds: the offset after the name. -/
def skipDnsName (rounds : Nat) (buf : Buffer) (offset : Nat) : Except DnsFault Nat :=
  iterate .outOfRounds (skipRound buf) rounds offset

/-- One question, in both parsers. -/
def skipQuestion (rounds : Nat) (buf : Buffer) (offset : Nat) : Except DnsFault Nat := do
  let offset ← skipDnsName rounds buf offset
  buf.advance offset 4 "truncated dns question".toList

structure DnsProbe where
  rcode : UInt8
  flags : UInt16
  answers : UInt16
  authorities : UInt16
  additionals : UInt16
  hasSoa : Bool
  authoritySoaOwnerRoot : Bool
  authoritySoaTtl : Option UInt32
  authoritySoaMinimum : Option UInt32
  hasRrsig : Bool
  hasOpt : Bool
  ede : Option UInt16
deriving DecidableEq, Repr

/-- The local variables of `parse_dns_probe_response` in its loop over the records. -/
structure ProbeState where
  offset : Nat
  ede : Option UInt16 := none
  hasSoa : Bool := false
  authoritySoaOwnerRoot : Bool := false
  authoritySoaTtl : Option UInt32 := none
  authoritySoaMinimum : Option UInt32 := none
  hasRrsig : Bool := false
  hasOpt : Bool := false

/-- The data of an SOA record in the authority section, from `offset` to `stop`. -/
def readSoa (rounds : Nat) (buf : Buffer) (offset stop : Nat) (ownerIsRoot : Bool) (ttl : UInt32)
    (s : ProbeState) : Except DnsFault ProbeState := do
  let soaOffset ← skipDnsName rounds buf offset
  let soaOffset ← skipDnsName rounds buf soaOffset
  let last ← addUsize soaOffset 20
  refuse (last ≠ stop) "invalid SOA rdata".toList
  let minimum ← buf.u32At soaOffset 16
  return { s with
    authoritySoaOwnerRoot := ownerIsRoot
    authoritySoaTtl := some ttl
    authoritySoaMinimum := some minimum }

/-- The extended error of an EDNS option with this code and length, else the one before. -/
def optionEde (buf : Buffer) (optionOffset : Nat) (code len : UInt16) (ede : Option UInt16) :
    Except DnsFault (Option UInt16) :=
  if code = 15 ∧ 2 ≤ len.toNat then do
    let value ← buf.u16At optionOffset 0
    return some value
  else return ede

/-- One round of the loop over the EDNS options, which ends at `stop`. -/
def optionRound (buf : Buffer) (stop : Nat) (s : Nat × Option UInt16) :
    Except DnsFault ((Nat × Option UInt16) ⊕ Option UInt16) := do
  let head ← addUsize s.1 4
  if head ≤ stop then
    let code ← buf.u16At s.1 0
    let len ← buf.u16At s.1 2
    let optionOffset ← addUsize s.1 4
    let last ← addUsize optionOffset len.toNat
    refuse (stop < last) "truncated edns option".toList
    let ede ← optionEde buf optionOffset code len s.2
    let optionOffset ← addUsize optionOffset len.toNat
    return .inl (optionOffset, ede)
  else
    return .inr s.2

/-- The options of an OPT record in the additional section, from `offset` to `stop`. -/
def readOptions (rounds : Nat) (buf : Buffer) (offset stop : Nat) (s : ProbeState) :
    Except DnsFault ProbeState := do
  let ede ← iterate .outOfRounds (optionRound buf stop) rounds (offset, s.ede)
  return { s with hasOpt := true, ede := ede }

/-- One record of `parse_dns_probe_response`. -/
def probeRecord (rounds : Nat) (buf : Buffer) (ancount nscount : UInt16) (index : Nat)
    (s : ProbeState) : Except DnsFault ProbeState := do
  let ownerIsRoot := buf.bytes[s.offset]? == some 0
  let offset ← skipDnsName rounds buf s.offset
  let head ← addUsize offset 10
  refuse (buf.len < head) "truncated dns record".toList
  let rrType ← buf.u16At offset 0
  let ttl ← buf.u32At offset 4
  let rdlen ← buf.u16At offset 8
  let offset ← addUsize offset 10
  let stop ← buf.advance offset rdlen.toNat "truncated dns rdata".toList
  let authorityEnd ← addUsize ancount.toNat nscount.toNat
  let seen := { s with hasSoa := s.hasSoa || rrType == 6 }
  let s ← (if ancount.toNat ≤ index ∧ index < authorityEnd ∧ rrType = 6 then
      readSoa rounds buf offset stop ownerIsRoot ttl seen
    else pure seen)
  let seen := { s with hasRrsig := s.hasRrsig || rrType == 46 }
  let s ← (if authorityEnd ≤ index ∧ rrType = 41 then readOptions rounds buf offset stop seen
    else pure seen)
  return { s with offset := stop }

/-- `parse_dns_probe_response`, with the offset it ends at. -/
def parseDnsProbeResponse (rounds : Nat) (buf : Buffer) : Except DnsFault (DnsProbe × Nat) := do
  refuse (buf.len < 12) "short dns response".toList
  let flags ← buf.u16At 0 2
  let qdcount ← buf.u16At 0 4
  let ancount ← buf.u16At 0 6
  let nscount ← buf.u16At 0 8
  let arcount ← buf.u16At 0 10
  let offset ← forRange (fun _ => skipQuestion rounds buf) qdcount.toNat 12
  let authorityEnd ← addUsize ancount.toNat nscount.toNat
  let records ← addUsize authorityEnd arcount.toNat
  let s ← forRange (probeRecord rounds buf ancount nscount) records { offset := offset }
  return ({
    rcode := (flags &&& 0x000f).toUInt8
    flags := flags
    answers := ancount
    authorities := nscount
    additionals := arcount
    hasSoa := s.hasSoa
    authoritySoaOwnerRoot := s.authoritySoaOwnerRoot
    authoritySoaTtl := s.authoritySoaTtl
    authoritySoaMinimum := s.authoritySoaMinimum
    hasRrsig := s.hasRrsig
    hasOpt := s.hasOpt
    ede := s.ede }, s.offset)

/-- The address in an A record of class IN, as text. -/
def readIp (buf : Buffer) (offset : Nat) : Except DnsFault Str := do
  let a ← buf.byteAt offset 0
  let b ← buf.byteAt offset 1
  let c ← buf.byteAt offset 2
  let d ← buf.byteAt offset 3
  return List.intercalate ['.'] ([a, b, c, d].map fun byte => decimal byte.toNat)

/-- The addresses so far, with that of a record of this type, class and length. -/
def pushIp (buf : Buffer) (offset : Nat) (rrType rrClass rdlen : UInt16) (ips : List Str) :
    Except DnsFault (List Str) :=
  if rrType = 1 ∧ rrClass = 1 ∧ rdlen = 4 then do
    let ip ← readIp buf offset
    return ips ++ [ip]
  else return ips

/-- One answer of `parse_dns_a_response`: the offset after it, and the addresses so far. -/
def answerRecord (rounds : Nat) (buf : Buffer) (s : Nat × List Str) :
    Except DnsFault (Nat × List Str) := do
  let offset ← skipDnsName rounds buf s.1
  let head ← addUsize offset 10
  refuse (buf.len < head) "truncated dns answer".toList
  let rrType ← buf.u16At offset 0
  let rrClass ← buf.u16At offset 2
  let rdlen ← buf.u16At offset 8
  let offset ← addUsize offset 10
  let stop ← addUsize offset rdlen.toNat
  refuse (buf.len < stop) "truncated dns rdata".toList
  let ips ← pushIp buf offset rrType rrClass rdlen s.2
  let offset ← addUsize offset rdlen.toNat
  return (offset, ips)

/-- `parse_dns_a_response`, with the offset it ends at. -/
def parseDnsAResponse (rounds : Nat) (buf : Buffer) : Except DnsFault (Str × Nat) := do
  refuse (buf.len < 12) "short dns response".toList
  let qdcount ← buf.u16At 0 4
  let ancount ← buf.u16At 0 6
  let status ← buf.byteAt 0 3
  let rcode := status &&& 0x0f
  refuse (rcode ≠ 0 ∧ rcode ≠ 3) ("dns rcode ".toList ++ decimal rcode.toNat)
  let offset ← forRange (fun _ => skipQuestion rounds buf) qdcount.toNat 12
  let s ← forRange (fun _ => answerRecord rounds buf) ancount.toNat (offset, [])
  return (List.intercalate ['\n'] s.2, s.1)

/-! ## The encoder -/

/-- The loop of `encode_dns_name` over the labels of the domain, and the root label. -/
def encodeLabels (domain : Str) : List Str → Bytes → Except Str Unit × Bytes
  | [], packet => (.ok (), packet ++ [0])
  | label :: later, packet =>
      if label.len = 0 ∨ 63 < label.len then
        (.error ("invalid dns label: ".toList ++ domain), packet)
      else encodeLabels domain later (packet ++ [UInt8.ofNat label.len] ++ label.utf8)

/-- `encode_dns_name`, with the packet it leaves. -/
def encodeDnsName (packet : Bytes) (domain : Str) : Except Str Unit × Bytes :=
  encodeLabels domain (Str.split '.' (Str.trimEndMatches '.' domain)) packet

/-! ## Messages -/

/-- The big-endian number in the two bytes from `k` on. -/
def be16 (bytes : Bytes) (k : Nat) : Nat :=
  256 * (bytes.getD k 0).toNat + (bytes.getD (k + 1) 0).toNat

/-- A name starts at `start` and ends at `stop`: labels, and then the root label or a pointer.  A
pointer ends the name; what it points to is read by nobody here. -/
inductive NameEnds (bytes : Bytes) : Nat → Nat → Prop
  | root {start : Nat} (here : bytes[start]? = some 0) : NameEnds bytes start (start + 1)
  | pointer {start : Nat} {byte : UInt8} (here : bytes[start]? = some byte)
      (tagged : byte &&& 0xc0 = 0xc0) (second : start + 2 ≤ bytes.length) :
      NameEnds bytes start (start + 2)
  | label {start stop : Nat} {byte : UInt8} (here : bytes[start]? = some byte)
      (untagged : byte &&& 0xc0 = 0) (filled : byte ≠ 0)
      (inside : start + 1 + byte.toNat ≤ bytes.length)
      (rest : NameEnds bytes (start + 1 + byte.toNat) stop) : NameEnds bytes start stop

/-- A question: a name, its type and its class. -/
def IsQuestion (bytes : Bytes) (start stop : Nat) : Prop :=
  ∃ nameEnd, NameEnds bytes start nameEnd ∧ stop = nameEnd + 4 ∧ stop ≤ bytes.length

/-- A record: a name, ten bytes, and as many bytes as the last two of these say. -/
def IsRecord (bytes : Bytes) (start stop : Nat) : Prop :=
  ∃ nameEnd, NameEnds bytes start nameEnd ∧ stop = nameEnd + 10 + be16 bytes (nameEnd + 8) ∧
    stop ≤ bytes.length

/-- **The layout of a message** that ends at `stop`, with as many questions as its header says and
so many records.  Regions are pairs of offsets, so that two records can be compared by where they
lie. -/
structure Layout (bytes : Bytes) (count : Nat) (questions records : List (Nat × Nat))
    (stop : Nat) : Prop where
  length_questions : questions.length = be16 bytes 4
  length_records : records.length = count
  /-- One after the other, from the end of the header on. -/
  cut : ∃ middle, Cut (IsQuestion bytes) 12 questions middle ∧
    Cut (IsRecord bytes) middle records stop
  disjoint : (questions ++ records).Pairwise fun region later =>
    Disjoint (Set.Ico region.1 region.2) (Set.Ico later.1 later.2)
  inside : ∀ region ∈ questions ++ records,
    12 ≤ region.1 ∧ region.1 < region.2 ∧ region.2 ≤ bytes.length

theorem NameEnds.bounds {bytes : Bytes} {start stop : Nat} (name : NameEnds bytes start stop) :
    start < stop ∧ stop ≤ bytes.length := by
  induction name with
  | root here =>
      have := (List.getElem?_eq_some_iff.mp here).1
      omega
  | pointer here tagged second => omega
  | label here untagged some inside rest ih => omega

/-! ## No fault but the code's own

For each access a lemma: from an offset within the buffer it succeeds, or the code refuses it
first. The buffer is shorter than any address space, so that no sum comes near to overflowing. -/

/-- The faults that the code returns. -/
def Returned (fault : DnsFault) : Prop := ∃ text, fault = .returned text

theorem meets_refuse (bad : Prop) [Decidable bad] (text : Str) :
    Meets Returned (fun _ => ¬ bad) (refuse bad text) :=
  Meets.ite (fun _ => meets_error ⟨text, rfl⟩) fun fine => meets_ok fine

theorem refuse_eq {bad : Prop} [Decidable bad] (fine : ¬ bad) (text : Str) :
    refuse bad text = .ok () :=
  if_neg fine

theorem addUsize_eq {a b : Nat} (fits : a + b ≤ usizeMax) : addUsize a b = .ok (a + b) :=
  if_pos fits

theorem meets_addUsize {a b : Nat} (fits : a + b ≤ usizeMax) :
    Meets Returned (fun c => c = a + b) (addUsize a b) := by
  rw [addUsize_eq fits]
  exact meets_ok rfl

namespace Buffer

variable (buf : Buffer)

theorem sum_fits {a b : Nat} (inside : a ≤ buf.len) (small : b ≤ 2 ^ 63) :
    a + b ≤ usizeMax := by
  have := buf.fits
  unfold len at inside
  unfold usizeMax
  omega

/-- From an offset in the buffer no sum of the code overflows. -/
theorem meets_move {offset : Nat} (inside : offset ≤ buf.len) {count : Nat}
    (small : count ≤ 2 ^ 63) :
    Meets Returned (fun next => next = offset + count) (addUsize offset count) :=
  meets_addUsize (buf.sum_fits inside small)

theorem byteAt_eq {offset k : Nat} {byte : UInt8} (here : buf.bytes[offset + k]? = some byte)
    (small : k ≤ 2 ^ 63) : buf.byteAt offset k = .ok byte := by
  have inside : offset + k < buf.len := (List.getElem?_eq_some_iff.mp here).1
  rw [byteAt, addUsize_eq (buf.sum_fits (by omega) small)]
  show (match buf.bytes[offset + k]? with
    | some byte => (.ok byte : Except DnsFault UInt8)
    | none => .error .outOfBounds) = .ok byte
  rw [here]

theorem meets_byteAt {offset k : Nat} (inside : offset + k < buf.len) (small : k ≤ 2 ^ 63) :
    Meets Returned (fun byte => buf.bytes[offset + k]? = some byte) (buf.byteAt offset k) := by
  obtain ⟨byte, here⟩ : ∃ byte, buf.bytes[offset + k]? = some byte :=
    ⟨_, List.getElem?_eq_getElem inside⟩
  rw [buf.byteAt_eq here small]
  exact meets_ok here

theorem meets_u16At {offset k : Nat} (inside : offset + k + 1 < buf.len) (small : k < 2 ^ 63) :
    Meets Returned (fun value => value.toNat = be16 buf.bytes (offset + k))
      (buf.u16At offset k) := by
  unfold u16At
  refine (buf.meets_byteAt (by omega) small.le).bind fun high high_here => ?_
  refine (buf.meets_byteAt (by omega) small).bind fun low low_here => meets_ok ?_
  have := high.toNat_lt
  have := low.toNat_lt
  rw [ofBeBytes, UInt16.toNat_ofNat', be16, List.getD_eq_getElem?_getD,
    List.getD_eq_getElem?_getD, high_here, Nat.add_assoc, low_here]
  simp only [Option.getD_some]
  omega

theorem meets_u32At {offset k : Nat} (inside : offset + k + 3 < buf.len) (small : k + 2 < 2 ^ 63) :
    Meets Returned (fun _ => True) (buf.u32At offset k) := by
  unfold u32At
  refine (buf.meets_u16At (by omega) (by omega)).bind fun high _ => ?_
  refine (buf.meets_u16At (by omega) small).bind fun low _ => meets_ok trivial

theorem advance_eq {offset count : Nat} (fits : offset + count ≤ buf.len) (text : Str) :
    buf.advance offset count text = .ok (offset + count) :=
  if_pos ⟨buf.sum_fits (b := 0) fits (Nat.zero_le _), fits⟩

theorem meets_advance (offset count : Nat) (text : Str) :
    Meets Returned (fun next => next = offset + count ∧ next ≤ buf.len)
      (buf.advance offset count text) :=
  Meets.ite (fun fits => meets_ok ⟨rfl, fits.2⟩) fun _ => meets_error ⟨text, rfl⟩

end Buffer

/-! ## Names

A name is read label by label, up to the root or to a pointer.  Its end is determined by its
start, which is what makes the layout of a message unique. -/

section Names

variable (buf : Buffer)

theorem skipRound_root {offset : Nat} (here : buf.bytes[offset]? = some 0) :
    skipRound buf offset = .ok (.inr (offset + 1)) := by
  have inside : offset < buf.len := (List.getElem?_eq_some_iff.mp here).1
  rw [skipRound, refuse_eq (by omega), buf.byteAt_eq here (by omega),
    addUsize_eq (buf.sum_fits (by omega) (by omega))]
  rfl

theorem skipRound_pointer {offset : Nat} {byte : UInt8} (here : buf.bytes[offset]? = some byte)
    (tagged : byte &&& 0xc0 = 0xc0) (second : offset + 2 ≤ buf.len) :
    skipRound buf offset = .ok (.inr (offset + 2)) := by
  rw [skipRound, refuse_eq (by omega), buf.byteAt_eq here (by omega),
    addUsize_eq (buf.sum_fits (by omega) (by omega))]
  show (if byte &&& 0xc0 = 0xc0 then _ else _) = _
  rw [if_pos tagged, refuse_eq (by omega), addUsize_eq (buf.sum_fits (by omega) (by omega))]
  rfl

theorem skipRound_label {offset : Nat} {byte : UInt8} (here : buf.bytes[offset]? = some byte)
    (untagged : byte &&& 0xc0 = 0) (filled : byte ≠ 0) (fits : offset + 1 + byte.toNat ≤ buf.len) :
    skipRound buf offset = .ok (.inl (offset + 1 + byte.toNat)) := by
  have inside : offset < buf.len := (List.getElem?_eq_some_iff.mp here).1
  rw [skipRound, refuse_eq (by omega), buf.byteAt_eq here (by omega),
    addUsize_eq (buf.sum_fits (by omega) (by omega))]
  show (if byte &&& 0xc0 = 0xc0 then _ else if byte = 0 then _ else _) = _
  rw [if_neg (by rw [untagged]; decide), if_neg filled, refuse_eq (not_not.mpr untagged),
    buf.advance_eq fits]
  rfl

/-- **A round on a name** reads a label of it, or its end. -/
theorem meets_skipRound (offset : Nat) :
    Meets Returned (Sum.elim
      (fun next => offset < next ∧ next ≤ buf.len ∧
        ∀ stop, NameEnds buf.bytes next stop → NameEnds buf.bytes offset stop)
      (fun stop => NameEnds buf.bytes offset stop)) (skipRound buf offset) := by
  unfold skipRound
  refine (meets_refuse _ _).bind fun _ inside => ?_
  refine (buf.meets_byteAt (by omega) (by omega)).bind fun len here => ?_
  refine (buf.meets_move (by omega) (by omega)).bind ?_
  rintro _ rfl
  refine Meets.ite (fun tagged => ?_) fun _ => Meets.ite (fun zero => ?_) fun filled => ?_
  · refine (meets_refuse _ _).bind fun _ second => ?_
    refine (buf.meets_move (by omega) (by omega)).bind ?_
    rintro _ rfl
    exact meets_ok (.pointer here tagged (by unfold Buffer.len at second; omega))
  · subst zero
    exact meets_ok (.root here)
  · refine (meets_refuse _ _).bind fun _ untagged => ?_
    refine (buf.meets_advance _ _ _).bind ?_
    rintro _ ⟨rfl, fits⟩
    refine meets_ok ⟨by omega, fits, fun stop rest => ?_⟩
    exact .label here (not_not.mp untagged) filled fits rest

/-- **A name is skipped**, in fewer rounds than there are bytes from its start on. -/
theorem NameEnds.skipDnsName_eq {start stop : Nat} (name : NameEnds buf.bytes start stop)
    {rounds : Nat} (enough : buf.len - start < rounds) :
    skipDnsName rounds buf start = .ok stop := by
  unfold skipDnsName
  induction name generalizing rounds with
  | root here =>
      obtain ⟨fewer, rfl⟩ := Nat.exists_eq_add_one.mpr (Nat.zero_lt_of_lt enough)
      exact iterate_of_inr (skipRound_root buf here) fewer
  | pointer here tagged second =>
      obtain ⟨fewer, rfl⟩ := Nat.exists_eq_add_one.mpr (Nat.zero_lt_of_lt enough)
      exact iterate_of_inr (skipRound_pointer buf here tagged second) fewer
  | @label start stop byte here untagged some inside rest ih =>
      obtain ⟨fewer, rfl⟩ := Nat.exists_eq_add_one.mpr (Nat.zero_lt_of_lt enough)
      have within : start < buf.len := (List.getElem?_eq_some_iff.mp here).1
      rw [iterate_of_inl (skipRound_label buf here untagged some inside)]
      exact ih (by omega)

/-- The start of a name determines its end. -/
theorem NameEnds.functional {start stop stop' : Nat} (name : NameEnds buf.bytes start stop)
    (name' : NameEnds buf.bytes start stop') : stop = stop' := by
  have skipped := name.skipDnsName_eq buf (Nat.lt_succ_self _)
  rw [name'.skipDnsName_eq buf (Nat.lt_succ_self _)] at skipped
  exact (Except.ok.inj skipped).symm

variable {rounds : Nat} (enough : buf.len < rounds)

include enough

/-- **What is skipped is a name.** -/
theorem meets_skipDnsName (offset : Nat) :
    Meets Returned (fun stop => NameEnds buf.bytes offset stop)
      (skipDnsName rounds buf offset) := by
  refine meets_iterate
    (fun next => ∀ stop, NameEnds buf.bytes next stop → NameEnds buf.bytes offset stop)
    (fun next => buf.len - next) (fun next behind => ?_) (fun _ name => name) (by omega)
  refine (meets_skipRound buf next).mono ?_
  rintro (later | stop) round
  · obtain ⟨forward, inside, before⟩ := round
    exact ⟨fun stop name => behind stop (before stop name), by omega⟩
  · exact behind stop round

end Names

/-! ## Questions and records

What the parsers make of the inside of a record, an address, an SOA or the options, does not move
the offset.  So each record is cut at the same place, whatever is read from it. -/

section Records

variable (buf : Buffer) {rounds : Nat} (enough : buf.len < rounds)

include enough

theorem meets_skipQuestion (offset : Nat) :
    Meets Returned (fun stop => IsQuestion buf.bytes offset stop)
      (skipQuestion rounds buf offset) := by
  unfold skipQuestion
  refine (meets_skipDnsName buf enough offset).bind fun nameEnd name => ?_
  refine (buf.meets_advance _ _ _).mono fun stop moved => ?_
  exact ⟨nameEnd, name, moved.1, moved.2⟩

theorem meets_readSoa {offset stop : Nat} (inside : stop ≤ buf.len) (ownerIsRoot : Bool)
    (ttl : UInt32) (s : ProbeState) :
    Meets Returned (fun _ => True) (readSoa rounds buf offset stop ownerIsRoot ttl s) := by
  unfold readSoa
  refine (meets_skipDnsName buf enough _).bind fun primaryEnd _ => ?_
  refine (meets_skipDnsName buf enough _).bind fun mailboxEnd mailbox => ?_
  refine (buf.meets_move mailbox.bounds.2 (by omega)).bind ?_
  rintro _ rfl
  refine (meets_refuse _ _).bind fun _ last => ?_
  refine (buf.meets_u32At (by omega) (by omega)).seq fun minimum => meets_ok trivial

omit enough in
theorem meets_optionEde {offset : Nat} {code len : UInt16} (inside : offset + len.toNat ≤ buf.len)
    (ede : Option UInt16) : Meets Returned (fun _ => True) (optionEde buf offset code len ede) := by
  refine Meets.ite (fun both => ?_) fun _ => meets_ok trivial
  have := both.2
  exact (buf.meets_u16At (by omega) (by omega)).bind fun value _ => meets_ok trivial

omit enough in
/-- **A round on the options** stays before the end of the data. -/
theorem meets_optionRound {stop : Nat} (inside : stop ≤ buf.len) (s : Nat × Option UInt16)
    (before : s.1 ≤ stop) :
    Meets Returned (Sum.elim (fun next => next.1 ≤ stop ∧ stop - next.1 < stop - s.1)
      (fun _ => True)) (optionRound buf stop s) := by
  unfold optionRound
  refine (buf.meets_move (by omega) (by omega)).bind ?_
  rintro _ rfl
  refine Meets.ite (fun room => ?_) fun _ => meets_ok trivial
  refine (buf.meets_u16At (by omega) (by omega)).bind fun code _ => ?_
  refine (buf.meets_u16At (by omega) (by omega)).bind fun len _ => ?_
  have := len.toNat_lt
  refine (buf.meets_move (by omega) (by omega)).bind ?_
  rintro _ rfl
  refine (buf.meets_move (by omega) (by omega)).bind ?_
  rintro _ rfl
  refine (meets_refuse _ _).bind fun _ fits => ?_
  refine (meets_optionEde buf (by omega) s.2).bind fun ede _ => ?_
  refine (buf.meets_move (by omega) (by omega)).bind ?_
  rintro _ rfl
  refine meets_ok ⟨?_, ?_⟩
  · show s.1 + 4 + len.toNat ≤ stop
    omega
  · show stop - (s.1 + 4 + len.toNat) < stop - s.1
    omega

theorem meets_readOptions {offset stop : Nat} (inside : stop ≤ buf.len) (before : offset ≤ stop)
    (s : ProbeState) : Meets Returned (fun _ => True) (readOptions rounds buf offset stop s) := by
  unfold readOptions
  refine (meets_iterate (fun s => s.1 ≤ stop) (fun s => stop - s.1)
    (meets_optionRound buf inside) before ?_).seq fun ede => meets_ok trivial
  show stop - offset < rounds
  omega

/-- **What the probe reads as a record is one**, whatever is in it. -/
theorem meets_probeRecord (ancount nscount : UInt16) (index : Nat) (s : ProbeState) :
    Meets Returned (fun next => IsRecord buf.bytes s.offset next.offset)
      (probeRecord rounds buf ancount nscount index s) := by
  unfold probeRecord
  refine (meets_skipDnsName buf enough s.offset).bind fun nameEnd name => ?_
  refine (buf.meets_move name.bounds.2 (by omega)).bind ?_
  rintro _ rfl
  refine (meets_refuse _ _).bind fun _ head => ?_
  refine (buf.meets_u16At (by omega) (by omega)).bind fun rrType _ => ?_
  refine (buf.meets_u32At (by omega) (by omega)).bind fun ttl _ => ?_
  refine (buf.meets_u16At (by omega) (by omega)).bind fun rdlen dataLength => ?_
  refine (buf.meets_move (by omega) (by omega)).bind ?_
  rintro _ rfl
  refine (buf.meets_advance _ _ _).bind ?_
  rintro _ ⟨rfl, inside⟩
  refine (meets_addUsize ?_).bind fun authorityEnd _ => ?_
  · have := ancount.toNat_lt
    have := nscount.toNat_lt
    unfold usizeMax
    omega
  refine Meets.seq ?_ fun withSoa => Meets.seq ?_ fun withOptions => meets_ok ?_
  · exact Meets.ite (fun _ => meets_readSoa buf enough inside _ _ _) fun _ => meets_ok trivial
  · exact Meets.ite (fun _ => meets_readOptions buf enough inside (by omega) _)
      fun _ => meets_ok trivial
  · exact ⟨nameEnd, name, by rw [dataLength], inside⟩

omit enough in
theorem meets_readIp {offset : Nat} (inside : offset + 4 ≤ buf.len) :
    Meets Returned (fun _ => True) (readIp buf offset) := by
  unfold readIp
  refine (buf.meets_byteAt (by omega) (by omega)).bind fun a _ => ?_
  refine (buf.meets_byteAt (by omega) (by omega)).bind fun b _ => ?_
  refine (buf.meets_byteAt (by omega) (by omega)).bind fun c _ => ?_
  exact (buf.meets_byteAt (by omega) (by omega)).bind fun d _ => meets_ok trivial

omit enough in
theorem meets_pushIp {offset : Nat} {rdlen : UInt16} (inside : offset + rdlen.toNat ≤ buf.len)
    (rrType rrClass : UInt16) (ips : List Str) :
    Meets Returned (fun _ => True) (pushIp buf offset rrType rrClass rdlen ips) := by
  refine Meets.ite (fun address => ?_) fun _ => meets_ok trivial
  obtain ⟨-, -, rfl⟩ := address
  exact (meets_readIp buf inside).seq fun ip => meets_ok trivial

/-- **What is read as an answer is a record.** -/
theorem meets_answerRecord (s : Nat × List Str) :
    Meets Returned (fun next => IsRecord buf.bytes s.1 next.1) (answerRecord rounds buf s) := by
  unfold answerRecord
  refine (meets_skipDnsName buf enough s.1).bind fun nameEnd name => ?_
  refine (buf.meets_move name.bounds.2 (by omega)).bind ?_
  rintro _ rfl
  refine (meets_refuse _ _).bind fun _ head => ?_
  refine (buf.meets_u16At (by omega) (by omega)).bind fun rrType _ => ?_
  refine (buf.meets_u16At (by omega) (by omega)).bind fun rrClass _ => ?_
  refine (buf.meets_u16At (by omega) (by omega)).bind fun rdlen dataLength => ?_
  have := rdlen.toNat_lt
  refine (buf.meets_move (by omega) (by omega)).bind ?_
  rintro _ rfl
  refine (buf.meets_move (by omega) (by omega)).bind ?_
  rintro _ rfl
  refine (meets_refuse _ _).bind fun _ inside => ?_
  refine (meets_pushIp buf (by omega) rrType rrClass s.2).seq fun ips => ?_
  refine (buf.meets_move (by omega) (by omega)).bind ?_
  rintro _ rfl
  exact meets_ok ⟨nameEnd, name, by rw [dataLength], by unfold Buffer.len at inside; omega⟩

end Records

/-! ## Messages that are accepted

The header announces how many questions and records there are, and the loops read so many.  What
has been accepted is therefore cut into a message, in the one way there is. -/

section Accepted

variable (buf : Buffer)

theorem IsQuestion.bounds {bytes : Bytes} {start stop : Nat}
    (question : IsQuestion bytes start stop) : start < stop ∧ stop ≤ bytes.length := by
  obtain ⟨nameEnd, name, rfl, inside⟩ := question
  exact ⟨by have := name.bounds.1; omega, inside⟩

theorem IsRecord.bounds {bytes : Bytes} {start stop : Nat} (record : IsRecord bytes start stop) :
    start < stop ∧ stop ≤ bytes.length := by
  obtain ⟨nameEnd, name, rfl, inside⟩ := record
  exact ⟨by have := name.bounds.1; omega, inside⟩

theorem IsQuestion.functional (start stop stop' : Nat) (question : IsQuestion buf.bytes start stop)
    (question' : IsQuestion buf.bytes start stop') : stop = stop' := by
  obtain ⟨nameEnd, name, rfl, -⟩ := question
  obtain ⟨nameEnd', name', rfl, -⟩ := question'
  rw [name.functional buf name']

theorem IsRecord.functional (start stop stop' : Nat) (record : IsRecord buf.bytes start stop)
    (record' : IsRecord buf.bytes start stop') : stop = stop' := by
  obtain ⟨nameEnd, name, rfl, -⟩ := record
  obtain ⟨nameEnd', name', rfl, -⟩ := record'
  rw [name.functional buf name']

/-- Questions and records that follow one another are the layout of a message. -/
theorem Layout.of_cuts {bytes : Bytes} {questions records : List (Nat × Nat)} {middle stop : Nat}
    (asked : Cut (IsQuestion bytes) 12 questions middle)
    (answered : Cut (IsRecord bytes) middle records stop)
    (length_questions : questions.length = be16 bytes 4) :
    Layout bytes records.length questions records stop := by
  have both := (asked.mono fun a b question => question.bounds).append
    (answered.mono fun a b record => record.bounds)
  have forward : ∀ a b, a < b ∧ b ≤ bytes.length → a < b := fun a b bounds => bounds.1
  refine ⟨length_questions, rfl, ⟨middle, asked, answered⟩, both.disjoint forward,
    fun region mem => ?_⟩
  exact ⟨(both.within forward mem).1, both.item_of_mem mem⟩

/-- A message has one layout. -/
theorem Layout.unique {count stop : Nat} {questions records questions' records' : List (Nat × Nat)}
    (layout : Layout buf.bytes count questions records stop)
    (layout' : Layout buf.bytes count questions' records' stop) :
    questions' = questions ∧ records' = records := by
  obtain ⟨middle, asked, answered⟩ := layout.cut
  obtain ⟨middle', asked', answered'⟩ := layout'.cut
  obtain ⟨rfl, rfl⟩ := asked'.unique (IsQuestion.functional buf) asked
    (layout'.length_questions.trans layout.length_questions.symm)
  obtain ⟨rfl, -⟩ := answered'.unique (IsRecord.functional buf) answered
    (layout'.length_records.trans layout.length_records.symm)
  exact ⟨rfl, rfl⟩

/-- What has been parsed up to `stop` is a message with so many records. -/
def IsMessage (bytes : Bytes) (count stop : Nat) : Prop :=
  stop ≤ bytes.length ∧ ∃! regions : List (Nat × Nat) × List (Nat × Nat),
    Layout bytes count regions.1 regions.2 stop

theorem isMessage_of_cutInto {middle count stop : Nat} (header : 12 ≤ buf.len)
    (asked : CutInto (IsQuestion buf.bytes) 12 (be16 buf.bytes 4) middle)
    (answered : CutInto (IsRecord buf.bytes) middle count stop) :
    IsMessage buf.bytes count stop := by
  obtain ⟨questions, length_questions, asked⟩ := asked
  obtain ⟨records, rfl, answered⟩ := answered
  have layout := Layout.of_cuts asked answered length_questions
  refine ⟨?_, (questions, records), layout, fun regions other => ?_⟩
  · have start := asked.stop_le (fun a b question => question.bounds.2) header
    exact answered.stop_le (fun a b record => record.bounds.2) start
  · obtain ⟨questions_eq, records_eq⟩ := layout.unique buf other
    exact Prod.ext questions_eq records_eq

variable {rounds : Nat} (enough : buf.len < rounds)

include enough

theorem meets_questions (count : Nat) :
    Meets Returned (fun middle => CutInto (IsQuestion buf.bytes) 12 count middle)
      (forRange (fun _ => skipQuestion rounds buf) count 12) := by
  refine meets_forRange (fun count offset => CutInto (IsQuestion buf.bytes) 12 count offset)
    (fun index offset asked => ?_) cutInto_zero count
  exact (meets_skipQuestion buf enough offset).mono fun next question => asked.succ question

/-- **The probe accepts messages only.** -/
theorem meets_parseDnsProbeResponse :
    Meets Returned (fun parsed => IsMessage buf.bytes
        (be16 buf.bytes 6 + be16 buf.bytes 8 + be16 buf.bytes 10) parsed.2)
      (parseDnsProbeResponse rounds buf) := by
  unfold parseDnsProbeResponse
  refine (meets_refuse _ _).bind fun _ header => ?_
  refine (buf.meets_u16At (by omega) (by omega)).bind fun flags _ => ?_
  refine (buf.meets_u16At (by omega) (by omega)).bind fun qdcount asks => ?_
  refine (buf.meets_u16At (by omega) (by omega)).bind fun ancount answers => ?_
  refine (buf.meets_u16At (by omega) (by omega)).bind fun nscount authorities => ?_
  refine (buf.meets_u16At (by omega) (by omega)).bind fun arcount additionals => ?_
  refine (meets_questions buf enough _).bind fun middle asked => ?_
  have := ancount.toNat_lt
  have := nscount.toNat_lt
  have := arcount.toNat_lt
  refine (meets_addUsize (by unfold usizeMax; omega)).bind ?_
  rintro _ rfl
  refine (meets_addUsize (by unfold usizeMax; omega)).bind ?_
  rintro _ rfl
  refine (meets_forRange
    (fun count s => CutInto (IsRecord buf.bytes) middle count s.offset)
    (fun index s answered => ?_) cutInto_zero _).bind fun s answered => meets_ok ?_
  · exact (meets_probeRecord buf enough ancount nscount index s).mono
      fun next record => answered.succ record
  · rw [asks] at asked
    rw [answers, authorities, additionals] at answered
    exact isMessage_of_cutInto buf (by omega) asked answered

/-- **The other parser accepts messages only**, which it reads up to the end of the answers. -/
theorem meets_parseDnsAResponse :
    Meets Returned (fun parsed => IsMessage buf.bytes (be16 buf.bytes 6) parsed.2)
      (parseDnsAResponse rounds buf) := by
  unfold parseDnsAResponse
  refine (meets_refuse _ _).bind fun _ header => ?_
  refine (buf.meets_u16At (by omega) (by omega)).bind fun qdcount asks => ?_
  refine (buf.meets_u16At (by omega) (by omega)).bind fun ancount answers => ?_
  refine (buf.meets_byteAt (by omega) (by omega)).bind fun status _ => ?_
  refine (meets_refuse _ _).bind fun _ rcode => ?_
  refine (meets_questions buf enough _).bind fun middle asked => ?_
  refine (meets_forRange
    (fun count s => CutInto (IsRecord buf.bytes) middle count s.1)
    (fun index s answered => ?_) cutInto_zero _).bind fun s answered => meets_ok ?_
  · exact (meets_answerRecord buf enough s).mono fun next record => answered.succ record
  · rw [asks] at asked
    rw [answers] at answered
    exact isMessage_of_cutInto buf (by omega) asked answered

end Accepted

/-! ## Names that are encoded

The tool also writes a name, into its question.  What it writes is a name in the sense above, and
is skipped by its own parser. -/

theorem prefix_encodeLabels (domain : Str) (labels : List Str) (packet : Bytes) :
    packet <+: (encodeLabels domain labels packet).2 := by
  induction labels generalizing packet with
  | nil => exact List.prefix_append _ _
  | cons label later ih =>
      rw [encodeLabels]
      split
      · exact List.prefix_rfl
      · rw [List.append_assoc] at *
        exact (List.prefix_append _ _).trans (ih _)

/-- A length of a label is no pointer and not the root. -/
theorem label_byte {n : Nat} (pos : n ≠ 0) (small : n ≤ 63) :
    UInt8.ofNat n &&& 0xc0 = 0 ∧ UInt8.ofNat n ≠ 0 ∧ (UInt8.ofNat n).toNat = n := by
  have each : ∀ n : Fin 64, n.val ≠ 0 →
      UInt8.ofNat n &&& 0xc0 = 0 ∧ UInt8.ofNat n ≠ 0 ∧ (UInt8.ofNat n).toNat = n := by decide
  exact each ⟨n, by omega⟩ pos

/-- **What is encoded is a name**, whatever stands before it and after it. -/
theorem nameEnds_encodeLabels {domain : Str} {labels : List Str} {packet encoded : Bytes}
    (done : encodeLabels domain labels packet = (.ok (), encoded)) (later : Bytes) :
    NameEnds (encoded ++ later) packet.length encoded.length := by
  induction labels generalizing packet with
  | nil =>
      obtain rfl : packet ++ [0] = encoded := (Prod.mk.inj done).2
      rw [List.length_append]
      exact .root (by simp)
  | cons label rest ih =>
      rw [encodeLabels] at done
      split at done
      next refused => cases (Prod.mk.inj done).1
      next fine =>
        obtain ⟨untagged, filled, value⟩ := label_byte (n := label.len) (by omega) (by omega)
        obtain ⟨tail, rfl⟩ : packet ++ [UInt8.ofNat label.len] ++ label.utf8 <+: encoded := by
          have grown := prefix_encodeLabels domain rest
            (packet ++ [UInt8.ofNat label.len] ++ label.utf8)
          rwa [done] at grown
        have name := ih done
        refine .label ?_ untagged filled ?_ ?_
        · simp
        · rw [value]
          simp [Str.len]
          omega
        · rw [value]
          have here : packet.length + 1 + label.len =
              (packet ++ [UInt8.ofNat label.len] ++ label.utf8).length := by
            simp [Str.len]
            omega
          rw [here]
          exact name

theorem skipDnsName_encodeDnsName (buf : Buffer) {rounds : Nat} (enough : buf.len < rounds)
    {packet encoded later : Bytes} {domain : Str}
    (done : encodeDnsName packet domain = (.ok (), encoded)) (here : buf.bytes = encoded ++ later) :
    skipDnsName rounds buf packet.length = .ok encoded.length := by
  have name := nameEnds_encodeLabels done later
  rw [← here] at name
  exact name.skipDnsName_eq buf (by omega)

/-! ## Safety -/

/-- **The parsers are safe on any packet.**  In more rounds than the buffer has bytes no loop is
cut short; no index is outside of the buffer and no sum overflows.  What is skipped is a name,
what is accepted is a message, and a name that was encoded is skipped to its end. -/
theorem parsers_safe (rounds : Nat) (buf : Buffer) (enough : buf.len < rounds) :
    (∀ offset, Meets Returned (fun stop => NameEnds buf.bytes offset stop)
      (skipDnsName rounds buf offset)) ∧
    Meets Returned (fun parsed => IsMessage buf.bytes
      (be16 buf.bytes 6 + be16 buf.bytes 8 + be16 buf.bytes 10) parsed.2)
      (parseDnsProbeResponse rounds buf) ∧
    Meets Returned (fun parsed => IsMessage buf.bytes (be16 buf.bytes 6) parsed.2)
      (parseDnsAResponse rounds buf) ∧
    ∀ packet domain encoded later, encodeDnsName packet domain = (.ok (), encoded) →
      buf.bytes = encoded ++ later →
        skipDnsName rounds buf packet.length = .ok encoded.length :=
  ⟨meets_skipDnsName buf enough, meets_parseDnsProbeResponse buf enough,
    meets_parseDnsAResponse buf enough,
    fun _ _ _ _ done here => skipDnsName_encodeDnsName buf enough done here⟩

/-- The header of an answer to one question, with one record. -/
def answerHeader : Bytes := [0x52, 0x43, 0x81, 0x80, 0, 1, 0, 1, 0, 0, 0, 0]

/-- The type and class of the question, and an address for the same name, by a pointer. -/
def answerRest : Bytes :=
  [0, 1, 0, 1, 0xc0, 12, 0, 1, 0, 1, 0, 0, 0, 60, 0, 4, 192, 0, 2, 1]

/-- The answer to a question for the address of `a.b`. -/
def answerPacket : Buffer where
  bytes := answerHeader ++ [1, 97, 1, 98, 0] ++ answerRest
  fits := by decide

theorem parsers_safe_answer :
    parseDnsAResponse 64 answerPacket = .ok ("192.0.2.1".toList, 37) ∧
      IsMessage answerPacket.bytes 1 37 ∧
      (∃ probe, parseDnsProbeResponse 64 answerPacket = .ok (probe, 37)) ∧
      skipDnsName 64 answerPacket 12 = .ok 17 := by
  obtain ⟨-, probe, address, name⟩ := parsers_safe 64 answerPacket (by decide)
  have read : parseDnsAResponse 64 answerPacket = .ok ("192.0.2.1".toList, 37) := by rfl
  refine ⟨read, address.result _ read, ⟨_, by rfl⟩, ?_⟩
  exact name answerHeader "a.b".toList (answerHeader ++ [1, 97, 1, 98, 0]) answerRest (by rfl)
    (by rfl)

end RustBlocker
