import CommitGate.OpenPgp.Field
import CommitGate.Text.Utf8

/-! # Subpackets of a signature

A signature's two areas hold subpackets: a tag, a bit that says whether the tag must be understood,
and a value.

* `Subpacket.isWellFormed` is the check of each value's form.
* `Area.read` reads all subpackets of an area, or none.
* `Area.last?` is the one that counts if a tag stands more than once: the last.
-/

namespace CommitGate.OpenPgp

/-- A statement in a signature. -/
structure Subpacket where
  tag : Nat
  isCritical : Bool
  value : Bytes
deriving DecidableEq, Repr

namespace Subpacket

/-- When the signature was made. -/
def creationTime : Nat := 2
/-- How many seconds the signature is valid. -/
def signatureLifetime : Nat := 3
/-- Whether the signature may leave the keyring. -/
def exportable : Nat := 4
/-- How far the signer trusts the key's owner. -/
def trustLevel : Nat := 5
/-- Whom the trust extends to. -/
def regularExpression : Nat := 6
/-- Whether the signature may be revoked. -/
def revocable : Nat := 7
/-- How many seconds the key is valid. -/
def keyLifetime : Nat := 9
/-- Who else may revoke the key. -/
def revocationKey : Nat := 12
/-- The key id of the signer. -/
def issuer : Nat := 16
/-- A name with a value. -/
def notationData : Nat := 20
/-- Whether the user id is the main one. -/
def primaryUserId : Nat := 25
/-- What the key may be used for. -/
def keyFlags : Nat := 27
/-- Why a key or a binding is revoked. -/
def revocationReason : Nat := 29
/-- Which signature the signature is about. -/
def signatureTarget : Nat := 31
/-- A whole signature. -/
def embeddedSignature : Nat := 32
/-- The fingerprint of the signer. -/
def issuerFingerprint : Nat := 33
/-- The fingerprint of someone whom the signature is meant for. -/
def intendedRecipient : Nat := 35
/-- Digests of certifications by others. -/
def attestedCertifications : Nat := 37

/-- Whether bytes hold a version and a fingerprint as long as the version wants it. -/
def isFingerprint : Bytes → Bool
  | 4 :: fp => fp.length == 20
  | 5 :: fp => fp.length == 32
  | _ :: _ => true
  | [] => false

/-- Whether bytes hold flags, a name in UTF-8 and a value, with the lengths in front of them. -/
def isNotation (value : Bytes) : Bool :=
  match value with
  | _ :: _ :: _ :: _ :: n1 :: n0 :: v1 :: v0 :: text =>
    let name := n1.toNat * 256 + n0.toNat
    text.length == name + (v1.toNat * 256 + v0.toNat) && (Utf8.decode (text.take name)).toBool
  | _ => false

/-- The length of a digest in bytes. -/
def digestLength? : UInt8 → Option Nat
  | 1 => some 16
  | 2 => some 20
  | 3 => some 20
  | 8 => some 32
  | 9 => some 48
  | 10 => some 64
  | 11 => some 28
  | _ => none

/-- Whether a value has the form that its tag wants. `embedded` checks a signature within it, and
`hash` is the digest algorithm of the signature that the value stands in. -/
def isWellFormed (embedded : Bytes → Bool) (hash : UInt8) (tag : Nat) (value : Bytes) : Bool :=
  if tag ∈ [creationTime, signatureLifetime, keyLifetime] then value.length == 4
  else if tag ∈ [exportable, revocable, primaryUserId] then value == [0] || value == [1]
  else if tag == trustLevel then value.length == 2
  else if tag == regularExpression then value.getLast? == some 0
  else if tag == revocationKey then 22 ≤ value.length && value.head?.any (0x80 ≤ ·)
  else if tag == notationData then isNotation value
  else if tag == revocationReason then !value.isEmpty
  else if tag == signatureTarget then 2 ≤ value.length
  else if tag == embeddedSignature then embedded value
  else if tag ∈ [issuerFingerprint, intendedRecipient] then isFingerprint value
  else if tag == attestedCertifications then
    (digestLength? hash).all fun n => value.length % n == 0
  else true

/-- The length of a subpacket. -/
def readLength : Field Nat := do
  let a ← Field.byte
  if a < 192 then pure a.toNat
  else if a < 255 then return (a.toNat - 192) * 256 + (← Field.byte).toNat + 192
  else Field.number 4

/-- Read a subpacket. -/
def read (embedded : Bytes → Bool) (hash : UInt8) : Field Subpacket := do
  let length ← readLength
  let body ← Field.take length
  match body with
  | [] => failure
  | first :: value =>
    let tag := first.toNat % 128
    Field.guardThat (isWellFormed embedded hash tag value)
    pure { tag, isCritical := 128 ≤ first.toNat, value }

end Subpacket

/-- The subpackets of an area of a signature. -/
abbrev Area := List Subpacket

namespace Area

/-- Read all subpackets of an area. Each one takes a byte at least, so `fuel` may be its length. -/
def readFrom (embedded : Bytes → Bool) (hash : UInt8) : (fuel : Nat) → Bytes → Option Area
  | _, [] => some []
  | 0, _ => none
  | fuel + 1, bs => do
    let (p, rest) ← (Subpacket.read embedded hash) bs
    let ps ← readFrom embedded hash fuel rest
    pure (p :: ps)

/-- The subpackets that fill an area. -/
def read (embedded : Bytes → Bool) (hash : UInt8) (bs : Bytes) : Option Area :=
  readFrom embedded hash bs.length bs

/-- The last value with a tag. -/
def last? (area : Area) (tag : Nat) : Option Bytes :=
  (area.reverse.find? (·.tag == tag)).map (·.value)

/-- The number in the last value with a tag. -/
def number? (area : Area) (tag : Nat) : Option Nat := (last? area tag).map Bytes.toNat

end Area

end CommitGate.OpenPgp
