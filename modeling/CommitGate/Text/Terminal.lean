/-! # Text for terminals

Some characters of a text are not shown by a terminal but obeyed: controls, and sequences that an escape
begins. Text from elsewhere is printed without them.

* `Terminal.plain` is what is left of a text.

Scope limit: controls beyond ASCII count as shown.
-/

namespace CommitGate.Terminal

/-- Where within a sequence a character stands. -/
inductive Place where
  /-- Outside of all sequences. -/
  | outside
  /-- Behind an escape. -/
  | escape
  /-- Behind an escape and a character that needs another one. -/
  | escapeRest
  /-- In a sequence of parameters, which a letter ends. -/
  | parameters
  /-- In a text that is not for showing. -/
  | hiddenText
  /-- In such a text that a bell ends too. -/
  | title
deriving DecidableEq, Repr

/-- Whether a control moves on in the text as a blank does. -/
def isMove (c : Char) : Bool := c = '\t' || c = '\n' || c = '\x0C' || c = '\r'

/-- Whether a character is a control. -/
def isControl (c : Char) : Bool := c.toNat < 0x20 || c = '\x7F'

/-- The place behind a character that follows an escape. -/
def Place.afterEscape (c : Char) : Place :=
  if c = '[' then .parameters
  else if c = ']' then .title
  else if c = 'P' || c = 'X' || c = '^' || c = '_' then .hiddenText
  else if c.toNat < 0x30 then .escapeRest
  else .outside

/-- The place behind a character that is no escape, and whether the character is shown. -/
def Place.next (p : Place) (c : Char) : Place × Bool :=
  match p with
  | .hiddenText => (if c = '\x18' || c = '\x1A' then .outside else p, false)
  | .title => (if c = '\x18' || c = '\x1A' || c = '\x07' then .outside else p, false)
  | .outside => (.outside, !isControl c || isMove c)
  | .escape | .escapeRest | .parameters =>
    if isMove c then (.outside, true)
    else if c = '\x18' || c = '\x1A' then (.outside, false)
    else if isControl c || 0x7F < c.toNat then (p, false)
    else
      match p with
      | .escape => (.afterEscape c, false)
      | .escapeRest => (if c.toNat < 0x30 then p else .outside, false)
      | _ => (if c.toNat < 0x40 then p else .outside, false)

/-- What is shown of a text that begins at a place. -/
def plainFrom (p : Place) : List Char → List Char
  | [] => []
  | c :: s =>
    if c = '\x1B' then plainFrom .escape s
    else
      let (p, isShown) := p.next c
      if isShown then c :: plainFrom p s else plainFrom p s

/-- What is shown of a text. -/
def plain (s : String) : String := String.ofList (plainFrom .outside s.toList)

end CommitGate.Terminal
