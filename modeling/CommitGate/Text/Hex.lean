import CommitGate.Bytes

/-! # Hexadecimal text

Two digits for each byte, in upper or lower case.

* `Hex.upper` and `Hex.lower` write bytes.
* `Hex.decode?` reads digits of either case.
-/

namespace CommitGate.Hex

/-- The digit for `n < 16`, with the letters starting at `a`. -/
def digit (a : Char) (n : Nat) : Char :=
  if n < 10 then Char.ofNat ('0'.toNat + n) else Char.ofNat (a.toNat + (n - 10))

/-- The two digits of a byte, with the letters starting at `a`. -/
def byte (a : Char) (b : UInt8) : List Char := [digit a (b.toNat / 16), digit a (b.toNat % 16)]

/-- Bytes with the digits `0` to `9` and `A` to `F`. -/
def upper (bs : Bytes) : String := String.ofList (bs.flatMap (byte 'A'))

/-- Bytes with the digits `0` to `9` and `a` to `f`. -/
def lower (bs : Bytes) : String := String.ofList (bs.flatMap (byte 'a'))

/-- The value of a digit of either case. -/
def value? (c : Char) : Option Nat :=
  if '0' ≤ c ∧ c ≤ '9' then some (c.toNat - '0'.toNat)
  else if 'a' ≤ c ∧ c ≤ 'f' then some (c.toNat - 'a'.toNat + 10)
  else if 'A' ≤ c ∧ c ≤ 'F' then some (c.toNat - 'A'.toNat + 10)
  else none

/-- The bytes that a text of digit pairs stands for. -/
def decode? : List Char → Option Bytes
  | [] => some []
  | [_] => none
  | h :: l :: rest => do
    let high ← value? h
    let low ← value? l
    let bytes ← decode? rest
    pure (UInt8.ofNat (high * 16 + low) :: bytes)

/-- The digits of a number without leading zeros, in lower case. -/
def ofNat (n : Nat) : List Char := Nat.toDigits 16 n

end CommitGate.Hex
