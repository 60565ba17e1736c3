import CommitGate.Crypto.Modular
import CommitGate.Bytes

/-! # DSA signatures

Signatures in the group that a generator makes modulo a prime, whose order is a smaller prime.

* `Dsa.verifies` is the check of a signature.
-/

namespace CommitGate.Crypto.Dsa

/-- A key: the prime, the order of the group, its generator, and the element that belongs to the key. -/
structure Key where
  prime : Nat
  order : Nat
  generator : Nat
  element : Nat
deriving DecidableEq, Repr

/-- Whether the numbers of a key fit together: its element lies in the group. -/
def Key.isSound (k : Key) : Bool :=
  2 ≤ k.prime && 2 ≤ k.order && k.generator ≤ k.prime && 2 ≤ k.element
    && Modular.pow k.prime k.element k.order == 1

/-- The number that a digest stands for: as many of its first bytes as the order has. -/
def Key.scalar (k : Key) (digest : Bytes) : Nat :=
  Bytes.toNat (digest.take ((Nat.log2 k.order + 1) / 8))

/-- Whether `r` and `s` are a signature for `digest` by the key. -/
def verifies (k : Key) (digest : Bytes) (r s : Nat) : Bool :=
  if k.isSound && 0 < r && r < k.order && 0 < s && s < k.order then
    let w := Modular.inverse k.order s
    let ofDigest := Modular.pow k.prime k.generator (k.scalar digest * w % k.order)
    let ofKey := Modular.pow k.prime k.element (r * w % k.order)
    ofDigest * ofKey % k.prime % k.order == r
  else false

end CommitGate.Crypto.Dsa
