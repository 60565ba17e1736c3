import CommitGate.Crypto.Sha1
import CommitGate.Crypto.Sha2

/-! # Digest algorithms of signatures

* `Hash.ofCode?` knows the algorithms that a signature may be checked with.
* `Hash.objectName` is the name that stands in front of the digest in an RSA signature.

Scope limit: algorithms that no policy accepts for any signature are not here.
-/

namespace CommitGate.OpenPgp

/-- A digest algorithm. -/
inductive Hash where
  | sha1
  | sha224
  | sha256
  | sha384
  | sha512
deriving DecidableEq, Repr

namespace Hash

/-- The algorithm with a number. -/
def ofCode? : UInt8 → Option Hash
  | 2 => some .sha1
  | 8 => some .sha256
  | 9 => some .sha384
  | 10 => some .sha512
  | 11 => some .sha224
  | _ => none

/-- The digest of a byte sequence. -/
def digest : Hash → Bytes → Bytes
  | .sha1 => Crypto.Sha1.digest
  | .sha224 => Crypto.Sha2.sha224
  | .sha256 => Crypto.Sha2.sha256
  | .sha384 => Crypto.Sha2.sha384
  | .sha512 => Crypto.Sha2.sha512

/-- The encoded name of a member of the SHA-2 family, whose digests have `length` bytes. -/
def familyName (member length : UInt8) : Bytes :=
  [0x30, length + 17, 0x30, 0x0D, 0x06, 0x09, 0x60, 0x86, 0x48, 0x01, 0x65, 0x03, 0x04, 0x02, member,
    0x05, 0x00, 0x04, length]

/-- The encoded name of the algorithm and the length of its digest. -/
def objectName : Hash → Bytes
  | .sha1 => [0x30, 0x21, 0x30, 0x09, 0x06, 0x05, 0x2B, 0x0E, 0x03, 0x02, 0x1A, 0x05, 0x00, 0x04, 0x14]
  | .sha224 => familyName 4 28
  | .sha256 => familyName 1 32
  | .sha384 => familyName 2 48
  | .sha512 => familyName 3 64

end Hash

end CommitGate.OpenPgp
