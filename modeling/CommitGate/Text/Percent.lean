import CommitGate.Text.Hex
import CommitGate.Text.Utf8

/-! # Percent encoding

A character that must not stand for itself is written as the bytes of its UTF-8 form, each as a percent
sign and two digits.

* `Percent.encode` writes a text, given the characters that stand for themselves.
* `Percent.decode` reads bytes back; a percent sign without two digits stands for itself.
-/

namespace CommitGate.Percent

/-- A percent sign and the two digits of a byte. -/
def byte (b : UInt8) : List Char := '%' :: Hex.byte 'A' b

/-- A character, as it is or byte by byte. -/
def encodeChar (plain : Char → Bool) (c : Char) : List Char :=
  if plain c then [c] else (Utf8.encodeChar c).flatMap byte

/-- A text in which only the characters that `plain` allows stand for themselves. -/
def encode (plain : Char → Bool) (s : List Char) : List Char := s.flatMap (encodeChar plain)

/-- The value of a byte that is a hexadecimal digit. -/
def digit? (b : UInt8) : Option Nat := Hex.value? (Char.ofNat b.toNat)

/-- The bytes that some bytes stand for. -/
def decode : Bytes → Bytes
  | [] => []
  | b :: h :: l :: rest =>
    if b = 0x25 then
      match digit? h, digit? l with
      | some high, some low => UInt8.ofNat (high * 16 + low) :: decode rest
      | _, _ => b :: decode (h :: l :: rest)
    else b :: decode (h :: l :: rest)
  | b :: rest => b :: decode rest

end CommitGate.Percent
