import CommitGate.Crypto.Modular
import CommitGate.Bytes

/-! # RSA signatures

Signatures with the deterministic padding: the signature's power is a fixed pattern that ends with the
name of the digest algorithm and the digest.

* `Rsa.verifies` is the check of a signature.
-/

namespace CommitGate.Crypto.Rsa

/-- The pattern of `length` bytes for a digest with the `name` of its algorithm in front. -/
def pattern (length : Nat) (name digest : Bytes) : Bytes :=
  [0, 1] ++ List.replicate (length - 3 - (name.length + digest.length)) 0xFF ++ [0]
    ++ name ++ digest

/-- Whether `signature` is one for `digest` by the key with `modulus` and `exponent`. -/
def verifies (modulus exponent signature : Nat) (name digest : Bytes) : Bool :=
  let length := (Nat.log2 modulus) / 8 + 1
  name.length + digest.length + 11 ≤ length && signature < modulus
    && Bytes.ofNat length (Modular.pow modulus signature exponent) == pattern length name digest

end CommitGate.Crypto.Rsa
