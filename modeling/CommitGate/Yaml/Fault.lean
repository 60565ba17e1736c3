/-! # Marks and faults in YAML texts

* `Mark` is a place in a text.
* `SyntaxFault` says what is wrong there, and within what it was found.
-/

namespace CommitGate.Yaml

/-- A place in a text: the number of characters, of lines, and of characters on the line before it. -/
structure Mark where
  index : Nat
  line : Nat
  column : Nat
deriving DecidableEq, Repr

namespace Mark

/-- The start of a text. -/
def start : Mark := ⟨0, 0, 0⟩

/-- Whether a mark stands at the start of a text. Such a mark is not reported. -/
def isStart (m : Mark) : Bool := m.line = 0 && m.column = 0

/-- A mark with lines and columns counted from one. -/
def text (m : Mark) : String := s!"line {m.line + 1} column {m.column + 1}"

/-- Whether two marks have the same line and column. -/
def sameSpot (a b : Mark) : Bool := a.line = b.line && a.column = b.column

end Mark

/-- Why a text is not YAML. -/
structure SyntaxFault where
  problem : String
  mark : Mark
  /-- The number of bytes before a character that no text may hold. -/
  offset : Nat
  /-- What was being read, and where it starts. -/
  context : Option (String × Mark)
deriving DecidableEq, Repr

namespace SyntaxFault

/-- A fault without a context. -/
def plain (problem : String) (mark : Mark) : SyntaxFault := ⟨problem, mark, 0, none⟩

/-- A fault at `mark` within something that starts at `origin`. -/
def within (context : String) (origin : Mark) (problem : String) (mark : Mark) : SyntaxFault :=
  ⟨problem, mark, 0, some (context, origin)⟩

/-- The text of a syntax fault. -/
def message (f : SyntaxFault) : String :=
  let place :=
    if !f.mark.isStart then " at " ++ f.mark.text
    else if f.offset ≠ 0 then " at position " ++ toString f.offset
    else ""
  let context := match f.context with
    | none => ""
    | some (what, origin) =>
      ", " ++ what ++ (if !origin.isStart && !origin.sameSpot f.mark then " at " ++ origin.text else "")
  f.problem ++ place ++ context

end SyntaxFault

end CommitGate.Yaml
