/-! # Byte sequences

Commit objects, signatures, keys and payloads are byte sequences. They are plain lists, so that
definitions over them recurse on the data and later proofs can do induction on them. Scope limit:
nothing here knows of a text encoding; `CommitGate.Text.Utf8` does.
-/

namespace CommitGate

/-- A sequence of bytes. -/
abbrev Bytes := List UInt8

namespace Bytes

/-- The bytes of an ASCII text. Only used on literals of this library. -/
def ofAscii (s : String) : Bytes := s.toList.map fun c => UInt8.ofNat c.toNat

/-- The natural number that a big-endian byte sequence denotes. -/
def toNat (bs : Bytes) : Nat := bs.foldl (fun n b => n * 256 + b.toNat) 0

/-- The `width` low bytes of `n`, most significant byte first. -/
def ofNat (width n : Nat) : Bytes :=
  (List.range width).map fun i => UInt8.ofNat (n / Nat.pow 256 (width - 1 - i) % 256)

/-- Whether `b` is an ASCII space, tab, line feed, form feed or carriage return. -/
def isAsciiBlank (b : UInt8) : Bool :=
  b == 0x20 || b == 0x09 || b == 0x0A || b == 0x0C || b == 0x0D

/-- Whether `b` is one of the digits `0` to `9`. -/
def isDigit (b : UInt8) : Bool := 0x30 ≤ b && b ≤ 0x39

theorem length_ofNat (width n : Nat) : (ofNat width n).length = width := by
  simp [ofNat]

end Bytes

end CommitGate
