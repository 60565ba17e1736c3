import CommitGate.Text.Hex
import CommitGate.Text.Visible

/-! # Quoted text

A text between double quotes, on one line and free of characters that cannot be seen.

* `Quoted.escape` writes one character.
* `Quoted.quote` writes a text.
-/

namespace CommitGate.Quoted

/-- A character by its code point. -/
def codePoint (c : Char) : List Char := ['\\', 'u', '\x7b'] ++ Hex.ofNat c.toNat ++ ['\x7d']

/-- The quoted form of a character: a short escape, the character itself when it can be shown, or
its code point. -/
def escape (c : Char) : List Char :=
  if c = '\x00' then ['\\', '0']
  else if c = '\t' then ['\\', 't']
  else if c = '\r' then ['\\', 'r']
  else if c = '\n' then ['\\', 'n']
  else if c = '"' || c = '\\' then ['\\', c]
  else if CharRange.holds Visible.graphemeExtend c || CharRange.holds Visible.invisible c then
    codePoint c
  else [c]

/-- The quoted form of a text. -/
def encode (s : List Char) : List Char := '"' :: (s.flatMap escape ++ ['"'])

/-- The quoted form of a string. -/
def quote (s : String) : String := String.ofList (encode s.toList)

end CommitGate.Quoted
