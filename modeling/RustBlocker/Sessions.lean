import RustBlocker.Library.Base64
import RustBlocker.SourceRefresh

/-!
# Session cookies

A session is a cookie that says when it expires and is signed with the key of the server:
`{expires}|{signature}`, the signature an HMAC of `admin|{expires}` in Base64.  The server keeps
no table of sessions; to validate a cookie is to sign its expiry again.

* **The HMAC** is a parameter, from a key and a message to a tag.
* **Time** is what `unix_now` returns.

Since nothing is stored of a session, there is no way to end one but to replace the key, and a
cookie is good from the moment it is made until it expires or the key is replaced.  What can be
said of a single cookie is said here; what a change of the password does to all of them is in
`Credentials`.
-/

namespace RustBlocker

namespace Str

/-- `str::split_once` -/
def splitOnce (c : Char) : Str → Option (Str × Str)
  | [] => none
  | d :: rest =>
      if d = c then some ([], rest)
      else (splitOnce c rest).map fun parts => (d :: parts.1, parts.2)

theorem splitOnce_append_cons {c : Char} {s : Str} (free : c ∉ s) (t : Str) :
    splitOnce c (s ++ c :: t) = some (s, t) := by
  induction s with
  | nil => simp [splitOnce]
  | cons d s ih =>
      rw [List.mem_cons, not_or] at free
      rw [List.cons_append, splitOnce, if_neg (Ne.symm free.1), ih free.2]
      rfl

/-- `str::parse::<u64>`: a sign is allowed, and nothing but digits after it. -/
def parseU64 (s : Str) : Option UInt64 :=
  let digits := (stripPrefix ['+'] s).getD s
  if digits.isEmpty || !digits.all Char.isDigit then none
  else
    let n := Nat.ofDigitChars 10 digits 0
    if n < UInt64.size then some (UInt64.ofNat n) else none

theorem parseU64_decimal (n : UInt64) : parseU64 (decimal n.toNat) = some n := by
  have unsigned : stripPrefix ['+'] (decimal n.toNat) = none := by
    refine stripPrefix_eq_none.mpr fun rest signed => ?_
    have sign : '+' ∈ decimal n.toNat := by
      rw [signed]
      exact List.mem_cons_self
    exact notMem_decimal rfl sign
  have digits : (decimal n.toNat).all Char.isDigit = true :=
    List.all_eq_true.mpr fun c mem => isDigit_of_mem_decimal mem
  have filled : (decimal n.toNat).isEmpty = false := by
    rw [List.isEmpty_eq_false_iff, decimal, Nat.toList_repr]
    exact Nat.toDigits_ne_nil
  have number : Nat.ofDigitChars 10 (decimal n.toNat) 0 = n.toNat := by
    rw [decimal, Nat.toList_repr]
    exact Nat.ofDigitChars_ten_toDigits
  simp only [parseU64, unsigned, Option.getD_none, digits, filled, number, Bool.not_true,
    Bool.or_self, Bool.false_eq_true, if_false, n.toNat_lt, UInt64.ofNat_toNat, if_true]

end Str

def sessionMaxAgeSecs : UInt64 := 7 * 24 * 60 * 60

/-- `generate_secret` gives this many bytes. -/
def sessionSecretBytes : Nat := 32

/-- `encode_secret` -/
def encodeSecret (secret : Bytes) : Str := Base64.encode secret

/-- `decode_secret` -/
def decodeSecret (secret : Str) : Option Bytes := Base64.decode secret

@[simp] theorem decodeSecret_encodeSecret (secret : Bytes) :
    decodeSecret (encodeSecret secret) = some secret :=
  Base64.decode_encode secret

section Cookies

variable (hmac : Bytes → Bytes → Bytes)

/-- What is signed of a session. -/
def sessionPayload (expires : UInt64) : Str := "admin|".toList ++ decimal expires.toNat

/-- `sign` -/
def sign (secret : Bytes) (payload : Str) : Bytes := hmac secret payload.utf8

/-- `verify_signature` -/
def verifySignature (secret : Bytes) (payload : Str) (signature : Bytes) : Bool :=
  hmac secret payload.utf8 == signature

/-- `create_session`; the sum wraps. -/
def createSession (secret : Bytes) (now maxAgeSecs : UInt64) : Str :=
  let expires := now + maxAgeSecs
  let signature := sign hmac secret (sessionPayload expires)
  decimal expires.toNat ++ '|' :: Base64.encode signature

/-- `validate_session` -/
def validateSession (secret : Bytes) (now : UInt64) (cookieValue : Str) : Bool :=
  match Str.splitOnce '|' cookieValue with
  | none => false
  | some (expiresStr, signatureB64) =>
      match Str.parseU64 expiresStr with
      | none => false
      | some expires =>
          if expires < now then false
          else
            match Base64.decode signatureB64 with
            | none => false
            | some signature => verifySignature hmac secret (sessionPayload expires) signature

/-- The expiry a cookie states. -/
def sessionExpiry (cookieValue : Str) : Option UInt64 :=
  (Str.splitOnce '|' cookieValue).bind fun parts => Str.parseU64 parts.1

theorem splitOnce_createSession (secret : Bytes) (now maxAgeSecs : UInt64) :
    Str.splitOnce '|' (createSession hmac secret now maxAgeSecs) =
      some (decimal (now + maxAgeSecs).toNat,
        Base64.encode (sign hmac secret (sessionPayload (now + maxAgeSecs)))) :=
  Str.splitOnce_append_cons (notMem_decimal rfl) _

theorem sessionExpiry_createSession (secret : Bytes) (now maxAgeSecs : UInt64) :
    sessionExpiry (createSession hmac secret now maxAgeSecs) = some (now + maxAgeSecs) := by
  rw [sessionExpiry, splitOnce_createSession, Option.bind_some]
  exact Str.parseU64_decimal _

/-- A cookie of the server is accepted until it expires, by the keys that sign its payload
alike. -/
theorem validateSession_createSession (secret secret' : Bytes) (issued maxAgeSecs now : UInt64) :
    validateSession hmac secret' now (createSession hmac secret issued maxAgeSecs) = true ↔
      now ≤ issued + maxAgeSecs ∧
        sign hmac secret' (sessionPayload (issued + maxAgeSecs)) =
          sign hmac secret (sessionPayload (issued + maxAgeSecs)) := by
  simp only [validateSession, splitOnce_createSession, Str.parseU64_decimal,
    Base64.decode_encode]
  split
  next past => simp [UInt64.not_le.mpr past]
  next live => simp [UInt64.not_lt.mp live, verifySignature, sign]

/-- The key that signed a cookie accepts it until it expires. -/
theorem validateSession_same_iff {secret : Bytes} {issued maxAgeSecs now : UInt64} :
    validateSession hmac secret now (createSession hmac secret issued maxAgeSecs) = true ↔
      now ≤ issued + maxAgeSecs := by
  rw [validateSession_createSession, and_iff_left rfl]

variable {hmac}

/-- Another key never does, if the tags of the payload tell the keys apart. -/
theorem validateSession_other
    (injective : ∀ message, Function.Injective fun key => hmac key message)
    {secret secret' : Bytes} (other : secret ≠ secret') (issued maxAgeSecs now : UInt64) :
    validateSession hmac secret' now (createSession hmac secret issued maxAgeSecs) = false := by
  rw [← Bool.not_eq_true, validateSession_createSession]
  rintro ⟨-, same⟩
  exact other (injective _ same.symm)

end Cookies

end RustBlocker
