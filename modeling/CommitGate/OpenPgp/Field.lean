import CommitGate.Bytes

/-! # Fields of a packet's body

A body is read from front to back. A `Field` takes what it needs off the front and fails if too little
is left.

* `Field.integer` reads a multiprecision integer, which is stored without leading zero bits.
-/

namespace CommitGate.OpenPgp

/-- A reader of the front of a byte sequence. -/
abbrev Field (α : Type) := StateT Bytes Option α

namespace Field

/-- The next `n` bytes. -/
def take (n : Nat) : Field Bytes := fun bs =>
  if bs.length < n then none else some (bs.take n, bs.drop n)

/-- All bytes that are left. -/
def rest : Field Bytes := fun bs => some (bs, [])

/-- The next byte. -/
def byte : Field UInt8 := fun
  | [] => none
  | b :: bs => some (b, bs)

/-- The next `width` bytes as a number. -/
def number (width : Nat) : Field Nat := return Bytes.toNat (← take width)

/-- Go on only if `condition` holds. -/
def guardThat (condition : Bool) : Field Unit := if condition then pure () else failure

/-- The number of bits that a byte sequence without leading zero bits takes. -/
def bitLength : Bytes → Nat
  | [] => 0
  | b :: rest => Nat.log2 b.toNat + (if b == 0 then 0 else 1) + 8 * rest.length

/-- A multiprecision integer: its number of bits, then its bytes. The first bit that counts is set. -/
def integer : Field Bytes := do
  let bits ← number 2
  let value ← take ((bits + 7) / 8)
  guardThat (bits == 0 || bitLength value == bits)
  pure value

/-- Run a reader on a whole body. What the reader leaves is dropped. -/
def run? {α : Type} (f : Field α) (bs : Bytes) : Option α := (f bs).map (·.1)

end Field

end CommitGate.OpenPgp
