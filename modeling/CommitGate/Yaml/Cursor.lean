import CommitGate.Yaml.Fault

/-! # Reading YAML texts

* `Cursor` is a text that has been read up to a mark.
* `Scan` is a reader of the front of a text; it fails with a `SyntaxFault`.

Beyond the end of a text there is no end of NUL characters; a text holds none itself.
-/

namespace CommitGate.Yaml

/-- Whether `c` is a space or a tab. -/
def isBlank (c : Char) : Bool := c = ' ' || c = '\t'

/-- Whether `c` ends a line. -/
def isBreak (c : Char) : Bool :=
  c = '\r' || c = '\n' || c = '\u0085' || c = '\u2028' || c = '\u2029'

/-- Whether `c` stands for the end of the text. -/
def isEnd (c : Char) : Bool := c = '\x00'

/-- Whether `c` ends a line or the text. -/
def isBreakOrEnd (c : Char) : Bool := isBreak c || isEnd c

/-- Whether a word ends before `c`. -/
def isGap (c : Char) : Bool := isBlank c || isBreakOrEnd c

/-- Whether `c` may stand in a name. -/
def isNameChar (c : Char) : Bool :=
  ('0' ≤ c && c ≤ '9') || ('A' ≤ c && c ≤ 'Z') || ('a' ≤ c && c ≤ 'z') || c = '_' || c = '-'

/-- Whether `c` is a digit. -/
def isDigit (c : Char) : Bool := '0' ≤ c && c ≤ '9'

/-- The character that stands for a line end in a value: separators of lines and paragraphs stay. -/
def breakChar (c : Char) : Char := if c = '\u2028' || c = '\u2029' then c else '\n'

/-- A text that has been read up to a mark. -/
structure Cursor where
  mark : Mark
  rest : List Char
deriving DecidableEq, Repr

namespace Cursor

/-- The character that comes after `n` others. -/
def peek (c : Cursor) (n : Nat) : Char := c.rest.getD n '\x00'

/-- Go on by `n` characters on the same line. -/
def advance (c : Cursor) (n : Nat) : Cursor :=
  ⟨⟨c.mark.index + n, c.mark.line, c.mark.column + n⟩, c.rest.drop n⟩

/-- Go on past a line end of `n` characters. -/
def advanceLine (c : Cursor) (n : Nat) : Cursor :=
  ⟨⟨c.mark.index + n, c.mark.line + 1, 0⟩, c.rest.drop n⟩

/-- The number of characters in the line end that comes next. -/
def breakLength (c : Cursor) : Nat :=
  if c.peek 0 = '\r' && c.peek 1 = '\n' then 2 else if isBreak (c.peek 0) then 1 else 0

/-- Whether a line with three times `c`, and nothing right after them, comes next. -/
def startsWithRule (cur : Cursor) (c : Char) : Bool :=
  cur.mark.column = 0 && cur.peek 0 = c && cur.peek 1 = c && cur.peek 2 = c && isGap (cur.peek 3)

/-- Whether a line that starts or ends a document comes next. -/
def startsWithDocumentMark (cur : Cursor) : Bool :=
  cur.startsWithRule '-' || cur.startsWithRule '.'

end Cursor

/-- A reader of the front of a text. -/
abbrev Scan (α : Type) := StateT Cursor (Except SyntaxFault) α

namespace Scan

/-- The character that comes after `n` others. -/
def peek (n : Nat) : Scan Char := return (← get).peek n

/-- The mark that has been reached. -/
def mark : Scan Mark := return (← get).mark

/-- Go on by `n` characters. -/
def skip (n : Nat) : Scan Unit := modify (·.advance n)

/-- Read the characters with a property, none of which is a line end. -/
def readWhile (p : Char → Bool) : Scan (List Char) := do
  let cs := (← get).rest.takeWhile p
  skip cs.length
  pure cs

/-- Pass over the characters with a property, none of which is a line end. -/
def skipWhile (p : Char → Bool) : Scan Unit := discard (readWhile p)

/-- Read a line end, if one comes next, as the character that stands for it. -/
def readBreak : Scan (List Char) := do
  let c ← get
  if isBreak (c.peek 0) then
    set (c.advanceLine c.breakLength)
    pure [breakChar (c.peek 0)]
  else pure []

/-- Pass over a line end, if one comes next. -/
def skipBreak : Scan Unit := discard readBreak

/-- Pass over a comment, if one comes next. -/
def skipComment : Scan Unit := do
  if (← peek 0) = '#' then skipWhile (!isBreakOrEnd ·)

/-- Fail where the text has been read to, within something that starts at `origin`. -/
def fail {α : Type} (context : String) (origin : Mark) (problem : String) : Scan α := do
  throw (.within context origin problem (← mark))

/-- Fail unless a condition holds. -/
def need (condition : Bool) (context : String) (origin : Mark) (problem : String) : Scan Unit :=
  if condition then pure () else fail context origin problem

/-- One more than the number of characters that are left. -/
def fuel : Scan Nat := return (← get).rest.length + 1

end Scan

end CommitGate.Yaml
