import CommitGate.Text.Percent
import CommitGate.Text.Split

/-! # Form encoding

Pairs of a name and a value in one line of ASCII: the pairs are joined by `&`, the name and the value
of each by `=`, a blank is written as `+`, and most other characters byte by byte.

* `Form.encode` writes pairs and `Form.decode` reads them.
-/

namespace CommitGate.Form

/-- The characters that stand for themselves. -/
def isPlain (c : Char) : Bool :=
  c.isAlphanum || c = '*' || c = '-' || c = '.' || c = '_'

/-- A name or a value in encoded form. -/
def encodeText (s : String) : List Char :=
  s.toList.flatMap fun c => if c = ' ' then ['+'] else Percent.encodeChar isPlain c

/-- A pair in encoded form. -/
def encodePair (p : String × String) : List Char := encodeText p.1 ++ '=' :: encodeText p.2

/-- Pairs in encoded form. -/
def encode (pairs : List (String × String)) : List Char :=
  List.intercalate ['&'] (pairs.map encodePair)

/-- The text that an encoded name or value stands for. -/
def decodeText (s : List Char) : String :=
  Utf8.toStringLossy (Percent.decode (Utf8.encode (s.map fun c => if c = '+' then ' ' else c)))

/-- The pair that an encoded pair stands for. Without `=` the value is empty. -/
def decodePair (s : List Char) : String × String :=
  (decodeText (s.takeWhile (· != '=')), decodeText ((s.dropWhile (· != '=')).drop 1))

/-- The pairs that a text holds. Empty parts do not count. -/
def decode (s : List Char) : List (String × String) :=
  ((Split.on '&' s).filter fun part => !part.isEmpty).map decodePair

end CommitGate.Form
