import CommitGate.Text.CharRange
import CommitGate.Text.Hex
import CommitGate.Text.Split

/-! # Rows of numbers

Tables about characters are long. They are kept as text: rows of hexadecimal numbers that are joined by
commas, with blanks between the rows.

* `Rows.read` reads such a text.
* `Rows.ranges` takes rows of one or two numbers for ranges of characters.
-/

namespace CommitGate.Rows

/-- The number that hexadecimal digits denote. -/
def number (s : List Char) : Nat := s.foldl (fun n c => n * 16 + (Hex.value? c).getD 0) 0

/-- The rows of a text. -/
def ofLine (line : String) : List (List Nat) :=
  (Split.on ' ' line.toList).map fun row => (Split.on ',' row).map number

/-- The rows of several lines. -/
def read (lines : List String) : List (List Nat) := lines.flatMap ofLine

/-- The range that a row stands for: a first and a last code point, or a single one. -/
def range? : List Nat → Option CharRange
  | [n] => some ⟨n, n⟩
  | [first, last] => some ⟨first, last⟩
  | _ => none

/-- The ranges of several lines. -/
def ranges (lines : List String) : List CharRange := (read lines).filterMap range?

end CommitGate.Rows
