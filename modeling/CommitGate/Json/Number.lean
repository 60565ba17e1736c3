import CommitGate.Json.Cursor
import CommitGate.Json.Value

/-! # Reading JSON numbers

* `Reader.number` reads a number: a natural one of 64 bits, a negative one of 63, or binary64.
* `Reader.skipNumber` passes over one of any size.

A number with a point, an exponent or too many digits is computed from its leading digits and a
power of ten, which rounds at most once more than the nearest binary64 number needs.
-/

namespace CommitGate.Json.Reader

/-- Whether `b` is a digit. -/
def isDigit (b : UInt8) : Bool := Bytes.isDigit b

/-- The value of a digit. -/
def digit (b : UInt8) : Nat := b.toNat - 0x30

/-- The next byte is one of the two letters that start an exponent. -/
def isExponent (b : Option UInt8) : Bool := b == some 0x65 || b == some 0x45

/-- The greatest significand. -/
def maxSignificand : Nat := Nat.pow 2 64 - 1

/-- The digits that come next, added to a significand as long as it stays in bounds, with their
number. -/
def significandDigits (significand count : Nat) : Bytes → Nat × Nat
  | b :: rest =>
    if isDigit b && significand * 10 + digit b ≤ maxSignificand then
      significandDigits (significand * 10 + digit b) (count + 1) rest
    else (significand, count)
  | [] => (significand, count)

/-- Read digits into a significand as long as it stays in bounds; how many there were comes second. -/
def moreDigits (significand : Nat) : Reader (Nat × Nat) := fun c =>
  let (value, count) := significandDigits significand 0 c.rest
  (.ok (value, count), ⟨c.consumed + count, c.rest.drop count⟩)

/-- The power of ten for an exponent of 0 to 308. -/
def powerOfTen (n : Nat) : Float := Float.ofScientific 1 false n

/-- The number `x / 10 ^ n`, where `n` is taken in steps that binary64 can hold. -/
def scaleDown : Nat → Float → Nat → Float
  | 0, x, _ => x
  | fuel + 1, x, n =>
    if n ≤ 308 then x / powerOfTen n
    else if x == 0.0 then x
    else scaleDown fuel (x / 1e308) (n - 308)

/-- The number `± significand · 10 ^ exponent`. -/
def real (negative : Bool) (significand : Nat) (exponent : Int) : Reader Float := do
  let x := (UInt64.ofNat significand).toFloat
  let y ←
    if exponent < 0 then pure (scaleDown (exponent.natAbs / 308 + 1) x exponent.natAbs)
    else if exponent ≤ 308 then
      let y := x * powerOfTen exponent.toNat
      if y.isInf then failHere .numberTooLarge else pure y
    else if x == 0.0 then pure x
    else failHere .numberTooLarge
  pure (if negative then -y else y)

/-- The number whose exponent comes next. Exponents beyond 31 bits give zero or are too large. -/
def exponent (negative : Bool) (significand : Nat) (start : Int) : Reader Float := do
  skip
  let down ← match ← peek with
    | some 0x2B => skip; pure false
    | some 0x2D => skip; pure true
    | _ => pure false
  match ← next with
  | none => failHere .endOfValue
  | some b =>
    if !isDigit b then failHere .invalidNumber
    else
      let digits := (← get).rest.takeWhile isDigit
      -- the digits up to the first that makes the exponent too large
      let fits := (List.range (digits.length + 1)).filter fun n =>
        (digits.take n).foldl (fun e d => e * 10 + digit d) (digit b) < Nat.pow 2 31
      if fits.length ≤ digits.length then
        for _ in List.range fits.length do skip
        if significand ≠ 0 && !down then failHere .numberTooLarge
        else
          discard (skipWhile isDigit)
          pure (if negative then -0.0 else 0.0)
      else
        discard (skipWhile isDigit)
        let e : Int := digits.foldl (fun e d => e * 10 + digit d) (digit b)
        let total := if down then start - e else start + e
        real negative significand total

/-- The number whose decimals come next. -/
def decimals (negative : Bool) (significand : Nat) (start : Int) : Reader Float := do
  skip
  let (significand, count) ← moreDigits significand
  -- digits for which there is no room count for nothing
  let extra ← skipWhile isDigit
  if count + extra = 0 then
    match ← peek with
    | some _ => failNext .invalidNumber
    | none => failNext .endOfValue
  else if isExponent (← peek) then exponent negative significand (start - count)
  else real negative significand (start - count)

/-- The rest of a number after its integral digits, of which `dropped` did not fit. -/
def afterDigits (negative : Bool) (significand dropped : Nat) : Reader Number := do
  let b ← peek
  if b == some 0x2E then Number.real <$> decimals negative significand dropped
  else if isExponent b then Number.real <$> exponent negative significand dropped
  else if dropped ≠ 0 then Number.real <$> real negative significand dropped
  else if !negative then pure (.natural significand)
  else if significand = 0 || significand > Nat.pow 2 63 then
    pure (.real (-(UInt64.ofNat significand).toFloat))
  else pure (.negative significand)

/-- A number after its sign. -/
def number (negative : Bool) : Reader Number := do
  match ← next with
  | none => failHere .endOfValue
  | some b =>
    if b == 0x30 then
      match ← peek with
      | some d => if isDigit d then failNext .invalidNumber else afterDigits negative 0 0
      | none => afterDigits negative 0 0
    else if isDigit b then
      let (significand, _) ← moreDigits (digit b)
      let dropped ← skipWhile isDigit
      afterDigits negative significand dropped
    else failHere .invalidNumber

/-! ## Passing over numbers -/

/-- Pass over an exponent. -/
def skipExponent : Reader Unit := do
  skip
  match ← peek with
  | some 0x2B | some 0x2D => skip
  | _ => pure ()
  match ← next with
  | some b => if isDigit b then discard (skipWhile isDigit) else failHere .invalidNumber
  | none => failHere .invalidNumber

/-- Pass over a number after its sign. -/
def skipNumber : Reader Unit := do
  match ← next with
  | none => failHere .invalidNumber
  | some b =>
    if b == 0x30 then
      match ← peek with
      | some d => if isDigit d then failNext .invalidNumber
      | none => pure ()
    else if isDigit b then discard (skipWhile isDigit)
    else failHere .invalidNumber
    let mark ← peek
    if mark == some 0x2E then
      skip
      let count ← skipWhile isDigit
      if count = 0 then failNext .invalidNumber
      else if isExponent (← peek) then skipExponent
    else if isExponent mark then skipExponent

end CommitGate.Json.Reader
