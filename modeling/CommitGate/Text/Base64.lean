import CommitGate.Bytes

/-! # Base64

Four symbols for three bytes, with the padding that fills the last group.

* `Base64.encode` writes bytes.
* `Base64.decode` reads canonical text only: padding is required, and bits that belong to no byte are
  zero. A refusal says what stands where.
-/

namespace CommitGate.Base64

/-- The padding symbol. -/
def pad : UInt8 := 0x3D

/-- The symbol for a value below 64. -/
def symbol (n : Nat) : UInt8 :=
  if n < 26 then UInt8.ofNat (0x41 + n)
  else if n < 52 then UInt8.ofNat (0x61 + (n - 26))
  else if n < 62 then UInt8.ofNat (0x30 + (n - 52))
  else if n = 62 then 0x2B else 0x2F

/-- The value of a symbol. -/
def value? (b : UInt8) : Option Nat :=
  if 0x41 ≤ b && b ≤ 0x5A then some (b.toNat - 0x41)
  else if 0x61 ≤ b && b ≤ 0x7A then some (b.toNat - 0x61 + 26)
  else if 0x30 ≤ b && b ≤ 0x39 then some (b.toNat - 0x30 + 52)
  else if b == 0x2B then some 62
  else if b == 0x2F then some 63
  else none

/-- Whether a byte is one of the 64 symbols. -/
def isSymbol (b : UInt8) : Bool := (value? b).isSome

/-! ## Writing -/

/-- The symbols for bytes, with padding. -/
def encode : Bytes → Bytes
  | [] => []
  | [a] => [symbol (a.toNat / 4), symbol (a.toNat % 4 * 16), pad, pad]
  | [a, b] =>
    [symbol (a.toNat / 4), symbol (a.toNat % 4 * 16 + b.toNat / 16), symbol (b.toNat % 16 * 4), pad]
  | a :: b :: c :: rest =>
    symbol (a.toNat / 4) :: symbol (a.toNat % 4 * 16 + b.toNat / 16)
      :: symbol (b.toNat % 16 * 4 + c.toNat / 64) :: symbol (c.toNat % 64) :: encode rest

/-- `encode` as a string. -/
def toText (bs : Bytes) : String := String.ofList ((encode bs).map fun b => Char.ofNat b.toNat)

/-! ## Reading -/

/-- Why a text is not canonical Base64. -/
inductive Error where
  /-- A byte that is no symbol, or padding where none may stand. -/
  | symbol (byte : UInt8) (offset : Nat)
  /-- The text ends with a group of one symbol. -/
  | length (count : Nat)
  /-- The last symbol has bits that belong to no byte. -/
  | lastSymbol (byte : UInt8) (offset : Nat)
  /-- The padding does not fill the last group. -/
  | padding
deriving DecidableEq, Repr

/-- The text of a decoding error. -/
def Error.message : Error → String
  | .symbol byte offset => s!"Invalid symbol {byte.toNat}, offset {offset}."
  | .length count => s!"Invalid input length: {count}"
  | .lastSymbol byte offset => s!"Invalid last symbol {byte.toNat}, offset {offset}."
  | .padding => "Invalid padding"

/-- The values of symbols, the first of which stands at `offset`. -/
def values (offset : Nat) : Bytes → Except Error (List Nat)
  | [] => .ok []
  | b :: rest =>
    match value? b with
    | none => .error (.symbol b offset)
    | some v => (values (offset + 1) rest).map (v :: ·)

/-- The bytes in full groups of four values. -/
def join : List Nat → Bytes
  | a :: b :: c :: d :: rest =>
    UInt8.ofNat (a * 4 + b / 16) :: UInt8.ofNat (b % 16 * 16 + c / 4) :: UInt8.ofNat (c % 4 * 64 + d)
      :: join rest
  | [a, b, c] => [UInt8.ofNat (a * 4 + b / 16), UInt8.ofNat (b % 16 * 16 + c / 4)]
  | [a, b] => [UInt8.ofNat (a * 4 + b / 16)]
  | _ => []

/-- The bits of a last group's values that belong to no byte. -/
def spareBits : List Nat → Nat
  | [_, b] => b % 16
  | [_, _, c] => c % 4
  | _ => 0

/-- Read the last group, which starts at `offset` and may be padded. -/
def decodeLast (offset : Nat) (group : Bytes) : Except Error Bytes := do
  let symbols := group.takeWhile (· != pad)
  let padding := group.dropWhile (· != pad)
  let vs ← values offset symbols
  if !padding.isEmpty && symbols.length < 2 then throw (.symbol pad (offset + symbols.length))
  if padding.any (· != pad) then throw (.symbol pad (offset + symbols.length))
  if !group.isEmpty && symbols.length < 2 then throw (.length (offset + symbols.length))
  if group.length % 4 ≠ 0 then throw .padding
  if spareBits vs ≠ 0 then
    throw (.lastSymbol (symbols.getLastD pad) (offset + symbols.length - 1))
  pure (join vs)

/-- The number of bytes in the last group of a text of `n` bytes. -/
def lastGroup (n : Nat) : Nat := if n % 4 = 0 then min n 4 else n % 4

/-- A byte that stands alone in the last group and is neither symbol nor padding. -/
def strayEnd? (bs : Bytes) : Option UInt8 :=
  if bs.length % 4 = 1 then bs.getLast?.filter fun b => b != pad && !isSymbol b else none

/-- The bytes that a canonical text stands for. A stray byte at the end is reported before all else. -/
def decode (bs : Bytes) : Except Error Bytes := do
  if let some b := strayEnd? bs then throw (.symbol b (bs.length - 1))
  let offset := bs.length - lastGroup bs.length
  let vs ← values 0 (bs.take offset)
  let tail ← decodeLast offset (bs.drop offset)
  pure (join vs ++ tail)

end CommitGate.Base64
