/-! # Decimal numbers

* `Decimal.digits` and `Decimal.padded` write numbers.
* `Decimal.value?` reads the digits of a natural number, `Decimal.int?` those of a signed one.

Scope limit: numbers of one notation, without separators, points or exponents.
-/

namespace CommitGate.Decimal

/-- Whether `c` is one of the digits `0` to `9`. -/
def isDigit (c : Char) : Bool := '0' ≤ c && c ≤ '9'

/-- The digits of a number without leading zeros. -/
def digits (n : Nat) : List Char := Nat.toDigits 10 n

/-- The digits of a number, with zeros before them up to a width. -/
def padded (width n : Nat) : List Char :=
  List.replicate (width - (digits n).length) '0' ++ digits n

/-- The digits of an integer, after a `-` if it is negative. -/
def ofInt (i : Int) : List Char := if i < 0 then '-' :: digits i.natAbs else digits i.natAbs

/-- The value of a digit. -/
def digitValue (c : Char) : Nat := c.toNat - '0'.toNat

/-- The number that a list of digits denotes. -/
def ofDigits (s : List Char) : Nat := s.foldl (fun n c => n * 10 + digitValue c) 0

/-- The number that a non-empty text of digits denotes. -/
def value? (s : List Char) : Option Nat :=
  if !s.isEmpty && s.all isDigit then some (ofDigits s) else none

/-- The integer that digits after at most one sign denote. -/
def int? : List Char → Option Int
  | '-' :: s => (value? s).map fun n => -(n : Int)
  | '+' :: s => (value? s).map fun n => (n : Int)
  | s => (value? s).map fun n => (n : Int)

end CommitGate.Decimal
