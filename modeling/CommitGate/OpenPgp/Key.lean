import CommitGate.Crypto.Dsa
import CommitGate.Crypto.Ecdsa
import CommitGate.Crypto.Ed25519
import CommitGate.Crypto.Rsa
import CommitGate.OpenPgp.Hash
import CommitGate.OpenPgp.Signature

/-! # Key packets

* `Key.ofBody?` reads the body of a key packet of version 4, of a secret key too.
* `Key.fingerprint` and `Key.id` name a key.
* `Key.verifies` checks a signature's integers against a digest.

Scope limit: signatures are checked for RSA, for DSA, for ECDSA on three curves and for Ed25519; a key of
another algorithm verifies nothing.
-/

namespace CommitGate.OpenPgp

/-- The public part of a key. -/
inductive KeyMaterial where
  | rsa (modulus exponent : Bytes)
  | dsa (values : List Bytes)
  | elgamal (values : List Bytes)
  | ecdsa (curve point : Bytes)
  | eddsa (curve point : Bytes)
  | ecdh (curve point : Bytes)
  | other (body : Bytes)
deriving DecidableEq, Repr

/-- A key. -/
structure Key where
  created : Nat
  algorithm : UInt8
  material : KeyMaterial
  /-- The bytes of the public part. -/
  body : Bytes
deriving DecidableEq, Repr

namespace Key

/-! ## Reading -/

/-- A name of a curve, with its length in front. -/
def readCurve : Field Bytes := do Field.take (← Field.byte).toNat

/-- `n` integers. -/
def readIntegers (n : Nat) : Field (List Bytes) := (List.range n).mapM fun _ => Field.integer

/-- The public part of a key of an algorithm. -/
def readMaterial (algorithm : UInt8) : Field KeyMaterial := do
  if algorithm ∈ [1, 2, 3] then return .rsa (← Field.integer) (← Field.integer)
  else if algorithm == 17 then return .dsa (← readIntegers 4)
  else if algorithm ∈ [16, 20] then return .elgamal (← readIntegers 3)
  else if algorithm == 18 then
    let curve ← readCurve
    let point ← Field.integer
    Field.guardThat ((← Field.byte) == 3)
    Field.guardThat ((← Field.byte) == 1)
    let _ ← Field.take 2
    return .ecdh curve point
  else if algorithm == 19 then return .ecdsa (← readCurve) (← Field.integer)
  else if algorithm == 22 then return .eddsa (← readCurve) (← Field.integer)
  else return .other (← Field.rest)

/-- How many integers the secret part of a key of an algorithm has, if that is known. -/
def secretCount? (algorithm : UInt8) : Option Nat :=
  if algorithm ∈ [1, 2, 3] then some 4
  else if algorithm ∈ [16, 17, 18, 19, 20, 22] then some 1
  else none

/-- The secret part of a key. If it is not encrypted, its integers end with the sum of their bytes. -/
def readSecret (algorithm : UInt8) : Field Unit := do
  let usage ← Field.byte
  match secretCount? algorithm with
  | some n =>
    if usage == 0 then
      let before ← get
      let _ ← readIntegers n
      let after ← get
      let sum := (before.take (before.length - after.length)).foldl (fun n b => n + b.toNat) 0
      Field.guardThat ((← Field.number 2) == sum % 65536)
  | none => pure ()

/-- Read the body of a key packet. -/
def read (isSecret : Bool) : Field Key := do
  let before ← get
  Field.guardThat ((← Field.byte) == 4)
  let created ← Field.number 4
  let algorithm ← Field.byte
  let material ← readMaterial algorithm
  let after ← get
  if isSecret then readSecret algorithm
  pure { created, algorithm, material, body := before.take (before.length - after.length) }

/-- The key in the body of a packet. -/
def ofBody? (isSecret : Bool) (body : Bytes) : Option Key := (read isSecret).run? body

/-! ## Names -/

/-- The bytes that stand for the key where it is part of a digest. -/
def hashed (k : Key) : Bytes := 0x99 :: Bytes.ofNat 2 k.body.length ++ k.body

/-- The fingerprint: a digest of twenty bytes. -/
def fingerprint (k : Key) : Bytes := Crypto.Sha1.digest k.hashed

/-- The key id: the last eight bytes of the fingerprint. -/
def id (k : Key) : Bytes := k.fingerprint.drop 12

/-! ## Checking signatures -/

/-- The curve with a name. -/
def curve? (name : Bytes) : Option Crypto.Ecdsa.Curve :=
  if name == [0x2A, 0x86, 0x48, 0xCE, 0x3D, 0x03, 0x01, 0x07] then some Crypto.Ecdsa.p256
  else if name == [0x2B, 0x81, 0x04, 0x00, 0x22] then some Crypto.Ecdsa.p384
  else if name == [0x2B, 0x81, 0x04, 0x00, 0x23] then some Crypto.Ecdsa.p521
  else none

/-- The name of the curve of Ed25519. -/
def edwards : Bytes := [0x2B, 0x06, 0x01, 0x04, 0x01, 0xDA, 0x47, 0x0F, 0x01]

/-- The name of the curve of X25519. -/
def montgomery : Bytes := [0x2B, 0x06, 0x01, 0x04, 0x01, 0x97, 0x55, 0x01, 0x05, 0x01]

/-- An integer with zeros in front, in `width` bytes. -/
def widen (width : Nat) (bs : Bytes) : Bytes := List.replicate (width - bs.length) 0 ++ bs

/-- Whether integers are a signature by the key for a digest. -/
def verifies (k : Key) (hash : Hash) (digest : Bytes) (values : List Bytes) : Bool :=
  match k.material, values with
  | .rsa modulus exponent, [s] =>
    Crypto.Rsa.verifies (Bytes.toNat modulus) (Bytes.toNat exponent) (Bytes.toNat s)
      hash.objectName digest
  | .dsa [p, q, g, y], [r, s] =>
    Crypto.Dsa.verifies ⟨Bytes.toNat p, Bytes.toNat q, Bytes.toNat g, Bytes.toNat y⟩ digest
      (Bytes.toNat r) (Bytes.toNat s)
  | .ecdsa name point, [r, s] =>
    match curve? name with
    | none => false
    | some curve => (curve.decode? point).any fun q =>
      Crypto.Ecdsa.verifies curve q digest (Bytes.toNat r) (Bytes.toNat s)
  | .eddsa name (0x40 :: point), [r, s] =>
    name == edwards && Crypto.Ed25519.verifies point digest (widen 32 r) (widen 32 s)
  | _, _ => false

end Key

end CommitGate.OpenPgp
