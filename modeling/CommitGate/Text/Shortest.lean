import CommitGate.Text.Decimal

/-! # Shortest decimal text of a floating point number

The fewest digits that read back as the same number, and among those the nearest to it.

* `Shortest.scientific?` finds the digits and the power of ten.
* `Shortest.text` sets the point: positional from 10⁻⁵ up to 10¹⁶, with an exponent beyond.
* `Shortest.positional` is always positional, and names what is not finite.

Scope limit: binary64 only. Of two digit strings equally near, the even one is taken.
-/

namespace CommitGate.Shortest

/-- The number `mantissa · 2 ^ exponent`. -/
structure Binary where
  mantissa : Nat
  exponent : Int
deriving DecidableEq, Repr

/-- The magnitude of a finite number. -/
def magnitude (x : Float) : Binary :=
  let bits := x.toBits.toNat
  let biased : Nat := bits / Nat.pow 2 52 % 2048
  let fraction : Nat := bits % Nat.pow 2 52
  if biased = 0 then ⟨fraction, -1074⟩ else ⟨fraction + Nat.pow 2 52, (biased : Int) - 1075⟩

/-- A quotient of natural numbers. -/
structure Ratio where
  num : Nat
  den : Nat
deriving DecidableEq, Repr

/-- The quotient `n · 2 ^ e · 10 ^ d`. -/
def Ratio.scaled (n : Nat) (e d : Int) : Ratio :=
  ⟨n * Nat.pow 2 e.toNat * Nat.pow 10 d.toNat, Nat.pow 2 (-e).toNat * Nat.pow 10 (-d).toNat⟩

/-- Whether one quotient is smaller than another. -/
def Ratio.lt (a b : Ratio) : Bool := a.num * b.den < b.num * a.den

/-- The numbers that read back as `b`: their lower and upper bound in quarters of `b`'s unit, both
included if the mantissa is even. -/
def bounds (b : Binary) : Nat × Nat :=
  let below := if b.mantissa = Nat.pow 2 52 && b.exponent > -1074 then 1 else 2
  (4 * b.mantissa - below, 4 * b.mantissa + 2)

/-- Whether `n · 10 ^ power` reads back as `b`. -/
def readsBack (b : Binary) (n : Nat) (power : Int) : Bool :=
  let (low, high) := bounds b
  let at' (quarters : Nat) := Ratio.scaled quarters (b.exponent - 2) (-power)
  let x : Ratio := ⟨n, 1⟩
  if b.mantissa % 2 = 0 then !x.lt (at' low) && !(at' high).lt x
  else (at' low).lt x && x.lt (at' high)

/-- The multiple of `10 ^ power` that reads back as `b`, if the grid has one. -/
def onGrid? (b : Binary) (power : Int) : Option Nat :=
  let x := Ratio.scaled b.mantissa b.exponent (-power)
  let down := x.num / x.den
  let rest := x.num % x.den
  let nearer := if 2 * rest < x.den || (2 * rest = x.den && down % 2 = 0) then down else down + 1
  let farther := if nearer = down then down + 1 else down
  if readsBack b nearer power then some nearer
  else if readsBack b farther power then some farther
  else none

/-- The power of ten that is the first above `b`. -/
def topPower (b : Binary) : Int :=
  let candidates := (List.range 640).map fun (i : Nat) => (i : Int) - 330
  let above (k : Int) := (Ratio.scaled b.mantissa b.exponent (-k)).lt ⟨1, 1⟩
  (candidates.find? above).getD 310

/-- The fewest digits of a positive number, with the power of ten of the last one. -/
def scientific? (b : Binary) : Option (Nat × Int) :=
  let top := topPower b
  (List.range 17).findSome? fun i =>
    let power : Int := top - (i + 1 : Nat)
    (onGrid? b power).map fun n => (n, power)

/-- The digits without zeros at their end, with the power of ten of the last one. -/
def stripZeros : Nat → Nat → Int → Nat × Int
  | 0, n, power => (n, power)
  | fuel + 1, n, power =>
    if n ≠ 0 && n % 10 = 0 then stripZeros fuel (n / 10) (power + 1) else (n, power)

/-- The exponent of a scientific notation. -/
def exponentText (e : Int) : List Char :=
  'e' :: (if e < 0 then '-' else '+') :: Decimal.padded 2 e.natAbs

/-- Digits and a power of ten with the point at its place. -/
def place (n : Nat) (power : Int) : List Char :=
  let (n, power) := stripZeros 17 n power
  let ds := Decimal.digits n
  let point : Int := ds.length + power
  if 0 ≤ power && point ≤ 16 then ds ++ List.replicate power.toNat '0' ++ ['.', '0']
  else if 0 < point && point ≤ 16 then ds.take point.toNat ++ '.' :: ds.drop point.toNat
  else if -5 < point && point ≤ 0 then
    '0' :: '.' :: (List.replicate (-point).toNat '0' ++ ds)
  else
    match ds with
    | [d] => d :: exponentText (point - 1)
    | d :: more => d :: '.' :: (more ++ exponentText (point - 1))
    | [] => []

/-- The shortest text of a finite number. -/
def text (x : Float) : List Char :=
  let b := magnitude x
  let negative := x.toBits.toNat / Nat.pow 2 63 = 1
  let body :=
    if b.mantissa = 0 then ['0', '.', '0']
    else match scientific? b with
      | some (n, power) => place n power
      | none => []
  if negative then '-' :: body else body

/-- Digits and a power of ten with the point at its place and no exponent. -/
def spread (n : Nat) (power : Int) : List Char :=
  let (n, power) := stripZeros 17 n power
  let ds := Decimal.digits n
  let point : Int := ds.length + power
  if 0 ≤ power then ds ++ List.replicate power.toNat '0' ++ ['.', '0']
  else if 0 < point then ds.take point.toNat ++ '.' :: ds.drop point.toNat
  else '0' :: '.' :: (List.replicate (-point).toNat '0' ++ ds)

/-- The shortest text of a number without an exponent. -/
def positional (x : Float) : List Char :=
  let b := magnitude x
  let negative := x.toBits.toNat / Nat.pow 2 63 = 1
  if x.isNaN then ['N', 'a', 'N']
  else
    let body :=
      if x.isInf then ['i', 'n', 'f']
      else if b.mantissa = 0 then ['0', '.', '0']
      else match scientific? b with
        | some (n, power) => spread n power
        | none => []
    if negative then '-' :: body else body

end CommitGate.Shortest
