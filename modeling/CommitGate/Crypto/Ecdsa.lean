import CommitGate.Crypto.Modular
import CommitGate.Bytes

/-! # ECDSA signatures

Signatures on the curves y² = x³ − 3x + b over a prime field. Points are kept as triples (X, Y, Z) that
stand for (X / Z², Y / Z³); Z = 0 is the neutral point.

* `Ecdsa.verifies` is the check of a signature.
-/

namespace CommitGate.Crypto.Ecdsa

/-- A curve: its field, its constant, its base point and the order of that point. -/
structure Curve where
  prime : Nat
  b : Nat
  x : Nat
  y : Nat
  order : Nat
deriving DecidableEq, Repr

/-- The curve over a field of 256 bits. -/
def p256 : Curve where
  prime := Nat.pow 2 256 - Nat.pow 2 224 + Nat.pow 2 192 + Nat.pow 2 96 - 1
  b := 0x5AC635D8AA3A93E7B3EBBD55769886BC651D06B0CC53B0F63BCE3C3E27D2604B
  x := 0x6B17D1F2E12C4247F8BCE6E563A440F277037D812DEB33A0F4A13945D898C296
  y := 0x4FE342E2FE1A7F9B8EE7EB4A7C0F9E162BCE33576B315ECECBB6406837BF51F5
  order := 0xFFFFFFFF00000000FFFFFFFFFFFFFFFFBCE6FAADA7179E84F3B9CAC2FC632551

/-- The curve over a field of 384 bits. -/
def p384 : Curve where
  prime := Nat.pow 2 384 - Nat.pow 2 128 - Nat.pow 2 96 + Nat.pow 2 32 - 1
  b := 0xB3312FA7E23EE7E4988E056BE3F82D19181D9C6EFE8141120314088F5013875AC656398D8A2ED19D2A85C8EDD3EC2AEF
  x := 0xAA87CA22BE8B05378EB1C71EF320AD746E1D3B628BA79B9859F741E082542A385502F25DBF55296C3A545E3872760AB7
  y := 0x3617DE4A96262C6F5D9E98BF9292DC29F8F41DBD289A147CE9DA3113B5F0B8C00A60B1CE1D7E819D7A431D7C90EA0E5F
  order := 0xFFFFFFFFFFFFFFFFFFFFFFFFFFFFFFFFFFFFFFFFFFFFFFFFC7634D81F4372DDF581A0DB248B0A77AECEC196ACCC52973

/-- The curve over a field of 521 bits. -/
def p521 : Curve where
  prime := Nat.pow 2 521 - 1
  b := 0x0051953EB9618E1C9A1F929A21A0B68540EEA2DA725B99B315F3B8B489918EF109E156193951EC7E937B1652C0BD3BB1BF073573DF883D2C34F1EF451FD46B503F00
  x := 0x00C6858E06B70404E9CD9E3ECB662395B4429C648139053FB521F828AF606B4D3DBAA14B5E77EFE75928FE1DC127A2FFA8DE3348B3C1856A429BF97E7E31C2E5BD66
  y := 0x011839296A789A3BC0045C8A5FB42C7D1BD998F54449579B446817AFBD17273E662C97EE72995EF42640C550B9013FAD0761353C7086A272C24088BE94769FD16650
  order := Nat.pow 2 521 - Nat.pow 2 260
    + 0xA51868783BF2F966B7FCC0148F709A5D03BB5C9B8899C47AEBB6FB71E91386409

/-- A point as a triple. -/
structure Point where
  x : Nat
  y : Nat
  z : Nat
deriving DecidableEq, Repr

/-- The neutral point. -/
def neutral : Point := ⟨1, 1, 0⟩

namespace Curve

/-- The number of bytes in a coordinate. -/
def width (c : Curve) : Nat := Nat.log2 c.prime / 8 + 1

/-- The base point. -/
def base (c : Curve) : Point := ⟨c.x, c.y, 1⟩

/-- Twice a point. -/
def double (c : Curve) (p : Point) : Point :=
  let m := c.prime
  let delta := p.z * p.z % m
  let gamma := p.y * p.y % m
  let beta := p.x * gamma % m
  let alpha := 3 * (Modular.sub m p.x delta * (p.x + delta)) % m
  let x := Modular.sub m (alpha * alpha) (8 * beta)
  let y := Modular.sub m (alpha * Modular.sub m (4 * beta) x) (8 * (gamma * gamma))
  ⟨x, y, 2 * p.y * p.z % m⟩

/-- The sum of two points. -/
def add (c : Curve) (p q : Point) : Point :=
  let m := c.prime
  if p.z = 0 then q
  else if q.z = 0 then p
  else
    let pz := p.z * p.z % m
    let qz := q.z * q.z % m
    let u := p.x * qz % m
    let s := p.y * q.z % m * qz % m
    let h := Modular.sub m (q.x * pz) u
    let r := Modular.sub m (q.y * p.z % m * pz) s
    if h = 0 then if r = 0 then c.double p else neutral
    else
      let h2 := h * h % m
      let h3 := h * h2 % m
      let v := u * h2 % m
      let x := Modular.sub m (r * r) (h3 + 2 * v)
      let y := Modular.sub m (r * Modular.sub m v x) (s * h3)
      ⟨x, y, h * p.z % m * q.z % m⟩

/-- A multiple of a point. -/
def multiply (c : Curve) (k : Nat) (p : Point) : Point :=
  if k = 0 then neutral
  else
    let h := c.multiply (k / 2) (c.double p)
    if k % 2 = 1 then c.add p h else h
termination_by k

/-- The point with two coordinates, if it lies on the curve. -/
def point? (c : Curve) (x y : Nat) : Option Point :=
  let m := c.prime
  if x < m && y < m && y * y % m == Modular.sub m (x * x * x + c.b) (3 * x) then some ⟨x, y, 1⟩
  else none

/-- The point that bytes in the uncompressed form stand for. -/
def decode? (c : Curve) : Bytes → Option Point
  | 4 :: coordinates =>
    if coordinates.length = 2 * c.width then
      c.point? (Bytes.toNat (coordinates.take c.width)) (Bytes.toNat (coordinates.drop c.width))
    else none
  | _ => none

/-- The number that a digest stands for: as many of its first bits as the order has. -/
def scalar (c : Curve) (digest : Bytes) : Nat :=
  Bytes.toNat digest / Nat.pow 2 (8 * digest.length - (Nat.log2 c.order + 1))

end Curve

/-- Whether `r` and `s` are a signature for `digest` by the key `q`. -/
def verifies (c : Curve) (q : Point) (digest : Bytes) (r s : Nat) : Bool :=
  if 0 < r && r < c.order && 0 < s && s < c.order then
    let w := Modular.inverse c.order s
    let sum := c.add (c.multiply (c.scalar digest * w % c.order) c.base)
      (c.multiply (r * w % c.order) q)
    let z := Modular.inverse c.prime sum.z
    sum.z ≠ 0 && sum.x * (z * z) % c.prime % c.order == r
  else false

end CommitGate.Crypto.Ecdsa
