import CommitGate.OpenPgp.Key

/-! # What signatures are about

A signature's kind says what its digest covers besides the signature itself: a document, a key, a key
with a user id, or two keys.

* `Signature.verifies` checks a signature by a key over given bytes.
* `Signature.documentBytes?` normalises a document as the signature's kind wants it.

A signature without a time, or one older than the key, verifies nothing.
-/

namespace CommitGate.OpenPgp

namespace Signature

/-! ## Kinds -/

/-- Over a document as it is. -/
def binaryKind : UInt8 := 0x00
/-- Over a text. -/
def textKind : UInt8 := 0x01
/-- Of a subkey to a key. -/
def subkeyKind : UInt8 := 0x18
/-- By a subkey over the key that it belongs to. -/
def backKind : UInt8 := 0x19
/-- Over a key alone. -/
def directKind : UInt8 := 0x1F
/-- Revoking a key. -/
def keyRevocationKind : UInt8 := 0x20
/-- Revoking a subkey. -/
def subkeyRevocationKind : UInt8 := 0x28
/-- Revoking a user id. -/
def userIdRevocationKind : UInt8 := 0x30

/-- Whether a kind binds a user id to a key. -/
def isUserIdKind (kind : UInt8) : Bool := 0x10 ≤ kind && kind ≤ 0x13

/-- Whether a kind revokes something. -/
def isRevocationKind (kind : UInt8) : Bool :=
  kind ∈ [keyRevocationKind, subkeyRevocationKind, userIdRevocationKind]

/-! ## Digests -/

/-- A text with a carriage return and a line feed for each line end. -/
def normalise : Bytes → Bytes
  | [] => []
  | 0x0D :: 0x0A :: rest => 0x0D :: 0x0A :: normalise rest
  | 0x0D :: rest => 0x0D :: 0x0A :: normalise rest
  | 0x0A :: rest => 0x0D :: 0x0A :: normalise rest
  | b :: rest => b :: normalise rest

/-- The bytes of a document that a signature covers, if it covers a document. -/
def documentBytes? (s : Signature) (document : Bytes) : Option Bytes :=
  if s.kind == binaryKind then some document
  else if s.kind == textKind then some (normalise document)
  else none

/-- What the digest covers after the data. -/
def trailer (s : Signature) : Bytes :=
  if s.version = 4 then s.covered ++ [4, 0xFF] ++ Bytes.ofNat 4 s.covered.length else s.covered

/-- Whether the signature's algorithm belongs to the key's material. -/
def suits (s : Signature) : KeyMaterial → Bool
  | .rsa _ _ => s.keyAlgorithm ∈ [1, 3]
  | .dsa _ => s.keyAlgorithm == 17
  | .ecdsa _ _ => s.keyAlgorithm == 19
  | .eddsa _ _ => s.keyAlgorithm == 22
  | _ => false

/-- Whether the signature is one by `key` over `data`. -/
def verifies (s : Signature) (key : Key) (data : Bytes) : Bool :=
  match s.created?, Hash.ofCode? s.hashAlgorithm with
  | some created, some hash =>
    key.created ≤ created && s.suits key.material
      && key.verifies hash (hash.digest (data ++ s.trailer)) s.values
  | _, _ => false

/-! ## What a signature says about time and use -/

/-- A number of seconds of which 0 means no limit. -/
def lifetime? (s : Signature) (tag : Nat) : Option Nat :=
  (s.hashed.number? tag).filter (0 < ·)

/-- Whether the signature is valid at a moment, if moments up to `skew` later count as reached. -/
def isAlive (s : Signature) (skew moment : Nat) : Bool :=
  s.created?.any fun created =>
    created ≤ moment + skew
      && (s.lifetime? Subpacket.signatureLifetime).all fun n => moment < created + n

/-- Whether a key with this signature over it is valid at a moment. -/
def keepsAlive (s : Signature) (key : Key) (moment : Nat) : Bool :=
  key.created ≤ moment
    && (s.lifetime? Subpacket.keyLifetime).all fun n => moment < key.created + n

/-- Whether the signature says what a key is for, and if so, whether it may sign. -/
def mayKeySign? (s : Signature) : Option Bool :=
  (s.hashed.last? Subpacket.keyFlags).map fun flags => (flags.headD 0).toNat / 2 % 2 == 1

/-- Whether the signature calls its user id the main one. -/
def isPrimary (s : Signature) : Bool := s.hashed.last? Subpacket.primaryUserId == some [1]

/-- Whether a revocation holds for all times: unless it says that the key was only replaced or is no
longer used. -/
def isHard (s : Signature) : Bool :=
  (s.hashed.last? Subpacket.revocationReason).all fun reason => reason.headD 0 ∉ [1, 3, 32]

end Signature

end CommitGate.OpenPgp
