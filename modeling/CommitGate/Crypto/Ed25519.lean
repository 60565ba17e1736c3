import CommitGate.Crypto.Modular
import CommitGate.Crypto.Sha2

/-! # Ed25519 signatures

Signatures on the curve −x² + y² = 1 + d x² y² over the field with 2²⁵⁵ − 19 elements. Points are kept as
(X, Y, Z, T) that stand for (X / Z, Y / Z), with T = X Y / Z.

* `Ed25519.verifies` is the check of a signature.
-/

namespace CommitGate.Crypto.Ed25519

/-- The number of elements of the field. -/
def prime : Nat := Nat.pow 2 255 - 19

/-- The order of the base point. -/
def order : Nat := Nat.pow 2 252 + 27742317777372353535851937790883648493

/-- The constant of the curve. -/
def d : Nat := 37095705934669439343138083508754565189542113879843219016388785533085940283555

/-- A square root of −1. -/
def rootOfMinusOne : Nat := Modular.pow prime 2 ((prime - 1) / 4)

/-- A point. -/
structure Point where
  x : Nat
  y : Nat
  z : Nat
  t : Nat
deriving DecidableEq, Repr

/-- The neutral point. -/
def neutral : Point := ⟨0, 1, 1, 0⟩

/-- The sum of two points. -/
def add (p q : Point) : Point :=
  let a := Modular.sub prime p.y p.x * Modular.sub prime q.y q.x % prime
  let b := (p.y + p.x) * (q.y + q.x) % prime
  let c := 2 * d * p.t % prime * q.t % prime
  let f := 2 * p.z * q.z % prime
  let e := Modular.sub prime b a
  let g := Modular.sub prime f c
  let h := (f + c) % prime
  let k := (b + a) % prime
  ⟨e * g % prime, h * k % prime, g * h % prime, e * k % prime⟩

/-- A multiple of a point. -/
def multiply (k : Nat) (p : Point) : Point :=
  if k = 0 then neutral
  else
    let h := multiply (k / 2) (add p p)
    if k % 2 = 1 then add p h else h
termination_by k

/-- The number that bytes stand for, least significant byte first. -/
def littleEndian (bs : Bytes) : Nat := Bytes.toNat bs.reverse

/-- The x coordinate for a y coordinate and the parity of x. -/
def recover? (y parity : Nat) : Option Nat :=
  let u := Modular.sub prime (y * y) 1
  let v := (d * (y * y) + 1) % prime
  let square := u * Modular.inverse prime v % prime
  let candidate := Modular.pow prime square ((prime + 3) / 8)
  let x :=
    if candidate * candidate % prime = square then candidate
    else candidate * rootOfMinusOne % prime
  if x * x % prime ≠ square then none
  else if x = 0 then if parity = 1 then none else some 0
  else some (if x % 2 = parity then x else prime - x)

/-- The point that 32 bytes stand for. -/
def decode? (bs : Bytes) : Option Point :=
  let n := littleEndian bs
  let y := n % Nat.pow 2 255
  if bs.length ≠ 32 || prime ≤ y then none
  else (recover? y (n / Nat.pow 2 255)).map fun x => ⟨x, y, 1, x * y % prime⟩

/-- The base point: y is 4/5 and x is even. -/
def base : Point :=
  let y := 4 * Modular.inverse prime 5 % prime
  let x := (recover? y 0).getD 0
  ⟨x, y, 1, x * y % prime⟩

/-- Whether two points are the same. -/
def same (p q : Point) : Bool :=
  p.x * q.z % prime == q.x * p.z % prime && p.y * q.z % prime == q.y * p.z % prime

/-- Whether `r` and `s`, of 32 bytes each, are a signature for `message` by the key `publicKey`. -/
def verifies (publicKey message r s : Bytes) : Bool :=
  match decode? publicKey, decode? r with
  | some a, some point =>
    let k := littleEndian (Sha2.sha512 (r ++ publicKey ++ message)) % order
    littleEndian s < order && s.length == 32
      && same (multiply (littleEndian s) base) (add point (multiply k a))
  | _, _ => false

end CommitGate.Crypto.Ed25519
