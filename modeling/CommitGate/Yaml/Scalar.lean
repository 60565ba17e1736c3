import CommitGate.Text.Hex
import CommitGate.Yaml.Cursor
import CommitGate.Yaml.Token

/-! # YAML scalars

The five ways to write a scalar.

* `Scan.plainScalar` reads one without quotes.
* `Scan.quotedScalar` reads one in single or double quotes.
* `Scan.blockScalar` reads a literal or folded block.

Within the first two, line ends are folded: one stands for a space, and more for one less.
-/

namespace CommitGate.Yaml

/-! ## Folding -/

/-- Blanks and line ends between two words. -/
inductive Gap where
  /-- Blanks on one line. -/
  | blanks (cs : List Char)
  /-- Line ends: the first one, unless it is escaped, and the others. -/
  | lines (first : Option Char) (more : List Char)
deriving DecidableEq, Repr

namespace Gap

/-- The text that a gap stands for. -/
def text : Gap → List Char
  | .blanks cs => cs
  | .lines (some '\n') [] => [' ']
  | .lines (some '\n') more => more
  | .lines (some c) more => c :: more
  | .lines none more => more

/-- Whether a gap holds a line end. -/
def hasLine : Gap → Bool
  | .blanks _ => false
  | .lines _ _ => true

/-- A gap with one more line end. -/
def addBreak : Gap → Char → Gap
  | .blanks _, c => .lines (some c) []
  | .lines first more, c => .lines first (more ++ [c])

end Gap

namespace Scan

/-- Read blanks and line ends. After a line end no tab may stand before the column `indent`. -/
def gapFrom (context : String) (origin : Mark) (indent : Nat) : (fuel : Nat) → Gap → Scan Gap
  | 0, g => pure g
  | fuel + 1, g => do
    let c ← get
    let first := c.peek 0
    if isBlank first then
      if g.hasLine && c.mark.column < indent && first = '\t' then
        fail context origin "found a tab character that violates indentation"
      else
        skip 1
        gapFrom context origin indent fuel <| match g with
          | .blanks cs => .blanks (cs ++ [first])
          | g => g
    else if isBreak first then
      skipBreak
      gapFrom context origin indent fuel (g.addBreak (breakChar first))
    else pure g

/-! ## Plain scalars -/

/-- The characters of a plain scalar up to the next gap or indicator. The second part says whether a
colon stands there that nothing separates from an indicator. -/
def plainRun (inFlow : Bool) : List Char → List Char × Bool
  | [] => ([], false)
  | c :: rest =>
    let next := rest.headD '\x00'
    if isGap c then ([], false)
    else if inFlow && c = ':' && next ∈ [',', '?', '[', ']', '\x7b', '\x7d'] then ([], true)
    else if c = ':' && isGap next then ([], false)
    else if inFlow && c ∈ [',', '[', ']', '\x7b', '\x7d'] then ([], false)
    else
      let (run, stuck) := plainRun inFlow rest
      (c :: run, stuck)

/-- The text of a plain scalar, and whether a line end comes after it. -/
def plainFrom (inFlow : Bool) (indent : Nat) (origin : Mark) :
    (fuel : Nat) → Gap → List Char → Scan (List Char × Bool)
  | 0, g, text => pure (text, g.hasLine)
  | fuel + 1, g, text => do
    let c ← get
    if c.startsWithDocumentMark || c.peek 0 = '#' then pure (text, g.hasLine)
    else
      let (run, stuck) := plainRun inFlow c.rest
      skip run.length
      need (!stuck) "while scanning a plain scalar" origin "found unexpected ':'"
      let (text, g) := if run.isEmpty then (text, g) else (text ++ g.text ++ run, .blanks [])
      let next ← peek 0
      if !isBlank next && !isBreak next then pure (text, g.hasLine)
      else
        let g ← gapFrom "while scanning a plain scalar" origin indent (← Scan.fuel) g
        if !inFlow && (← mark).column < indent then pure (text, g.hasLine)
        else plainFrom inFlow indent origin fuel g text

/-- A plain scalar, and whether a line end comes after it. Outside of flow collections it ends with the
first line that starts before the column `indent`. -/
def plainScalar (inFlow : Bool) (indent : Nat) : Scan (Scalar × Bool) := do
  let (text, atLine) ← plainFrom inFlow indent (← mark) (← Scan.fuel) (.blanks []) []
  pure (⟨text, true⟩, atLine)

/-! ## Quoted scalars -/

/-- What a character stands for after a backslash, if it stands for one character. -/
def escaped? : Char → Option Char
  | '0' => some '\x00'
  | 'a' => some '\x07'
  | 'b' => some '\x08'
  | 't' | '\t' => some '\t'
  | 'n' => some '\n'
  | 'v' => some '\x0B'
  | 'f' => some '\x0C'
  | 'r' => some '\r'
  | 'e' => some '\x1B'
  | ' ' => some ' '
  | '"' => some '"'
  | '/' => some '/'
  | '\\' => some '\\'
  | 'N' => some '\u0085'
  | '_' => some '\u00A0'
  | 'L' => some '\u2028'
  | 'P' => some '\u2029'
  | _ => none

/-- How many digits of a code point follow a character after a backslash. -/
def codeLength? : Char → Option Nat
  | 'x' => some 2
  | 'u' => some 4
  | 'U' => some 8
  | _ => none

/-- What a quoted scalar is read within. -/
def quotedContext : String := "while parsing a quoted scalar"

/-- The character of the code point that comes next in `length` digits. -/
def codePoint (origin : Mark) (length : Nat) : Scan Char := do
  let digits := ((← get).rest.take length).filterMap Hex.value?
  need (digits.length = length) quotedContext origin "did not find expected hexadecimal number"
  let value := digits.foldl (fun n d => n * 16 + d) 0
  need (!(0xD800 ≤ value && value ≤ 0xDFFF) && value ≤ 0x10FFFF) quotedContext origin
    "found invalid Unicode character escape code"
  skip length
  pure (Char.ofNat value)

/-- The characters of a quoted scalar up to the next gap or quotation mark. The second part says
whether they end with an escaped line end. -/
def quotedRun (single : Bool) (origin : Mark) : (fuel : Nat) → List Char → Scan (List Char × Bool)
  | 0, run => pure (run.reverse, false)
  | fuel + 1, run => do
    let c ← peek 0
    let next ← peek 1
    if isGap c then pure (run.reverse, false)
    else if single && c = '\'' && next = '\'' then
      skip 2
      quotedRun single origin fuel ('\'' :: run)
    else if c = (if single then '\'' else '"') then pure (run.reverse, false)
    else if !single && c = '\\' then
      if isBreak next then
        skip 1
        skipBreak
        pure (run.reverse, true)
      else
        match escaped? next, codeLength? next with
        | some e, _ =>
          skip 2
          quotedRun single origin fuel (e :: run)
        | none, some length =>
          skip 2
          let e ← codePoint origin length
          quotedRun single origin fuel (e :: run)
        | none, none => fail quotedContext origin "found unknown escape character"
    else
      skip 1
      quotedRun single origin fuel (c :: run)

/-- The text of a quoted scalar after the opening mark. -/
def quotedFrom (single : Bool) (origin : Mark) : (fuel : Nat) → List Char → Scan (List Char)
  | 0, text => pure text
  | fuel + 1, text => do
    let context := "while scanning a quoted scalar"
    need (!(← get).startsWithDocumentMark) context origin "found unexpected document indicator"
    need (!isEnd (← peek 0)) context origin "found unexpected end of stream"
    let (run, escapedBreak) ← quotedRun single origin (← Scan.fuel) []
    let text := text ++ run
    if (← peek 0) = (if single then '\'' else '"') then
      skip 1
      pure text
    else
      let g ← gapFrom context origin 0 (← Scan.fuel) (if escapedBreak then .lines none [] else .blanks [])
      quotedFrom single origin fuel (text ++ g.text)

/-- A scalar in quotation marks. -/
def quotedScalar (single : Bool) : Scan Scalar := do
  let origin ← mark
  skip 1
  let text ← quotedFrom single origin (← Scan.fuel) []
  pure ⟨text, false⟩

/-! ## Block scalars -/

/-- What happens to the line ends at the end of a block. -/
inductive Chomping where
  | strip
  | clip
  | keep
deriving DecidableEq, Repr

/-- What a block scalar is read within. -/
def blockContext : String := "while scanning a block scalar"

/-- Read an indicator for the end of a block. -/
def chomping? : Scan (Option Chomping) := do
  let c ← peek 0
  if c = '+' then
    skip 1
    pure (some .keep)
  else if c = '-' then
    skip 1
    pure (some .strip)
  else pure none

/-- Read an indicator for the indentation of a block. -/
def increment? (origin : Mark) : Scan (Option Nat) := do
  let c ← peek 0
  if isDigit c then
    need (c ≠ '0') blockContext origin "found an indentation indicator equal to 0"
    skip 1
    pure (some (c.toNat - '0'.toNat))
  else pure none

/-- Pass over the indentation of a line, and over empty lines. `indent` is the column at which lines
start, 0 if that is not known yet. The answer holds the line ends and the greatest column. -/
def blockBreaksFrom (origin : Mark) (indent : Nat) :
    (fuel : Nat) → (deepest : Nat) → List Char → Scan (List Char × Nat)
  | 0, deepest, breaks => pure (breaks, deepest)
  | fuel + 1, deepest, breaks => do
    let c ← get
    let spaces := (c.rest.takeWhile (· = ' ')).length
    skip (if indent = 0 then spaces else min spaces (indent - c.mark.column))
    let column := (← mark).column
    let deepest := max deepest column
    let next ← peek 0
    need (!((indent = 0 || column < indent) && next = '\t')) blockContext origin
      "found a tab character where an indentation space is expected"
    if isBreak next then
      let b ← readBreak
      blockBreaksFrom origin indent fuel deepest (breaks ++ b)
    else pure (breaks, deepest)

/-- The line ends before the next line with text, and the column at which lines start: it is at least
`least`. -/
def blockBreaks (origin : Mark) (least indent : Nat) : Scan (List Char × Nat) := do
  let (breaks, deepest) ← blockBreaksFrom origin indent (← Scan.fuel) 0 []
  pure (breaks, if indent = 0 then max deepest (max least 1) else indent)

/-- The lines of a block: the text so far, the end of its last line, and the line ends after it. -/
structure BlockText where
  text : List Char
  lastBreak : List Char
  breaks : List Char
  /-- Whether the last line starts with a blank. -/
  blankStart : Bool
deriving DecidableEq, Repr

/-- A block text with another line. In a folded block the end of a line becomes a space, unless one of
the lines that it separates starts with a blank. -/
def BlockText.addLine (literal : Bool) (b : BlockText) (line lastBreak breaks : List Char) :
    BlockText :=
  let blankStart := isBlank (line.headD '\x00')
  let joint :=
    if !literal && b.lastBreak.head? = some '\n' && !b.blankStart && !blankStart then
      if b.breaks.isEmpty then [' '] else []
    else b.lastBreak
  ⟨b.text ++ joint ++ b.breaks ++ line, lastBreak, breaks, blankStart⟩

/-- Read the lines of a block that start at the column `indent`. -/
def blockLines (literal : Bool) (origin : Mark) (least indent : Nat) :
    (fuel : Nat) → BlockText → Scan BlockText
  | 0, b => pure b
  | fuel + 1, b => do
    let c ← get
    if c.mark.column = indent && !isEnd (c.peek 0) then
      let line ← readWhile (!isBreakOrEnd ·)
      let lastBreak ← readBreak
      let (breaks, _) ← blockBreaks origin least indent
      blockLines literal origin least indent fuel (b.addLine literal line lastBreak breaks)
    else pure b

/-- A block scalar within a block whose lines start at the column `parent`, -1 at the top. -/
def blockScalar (literal : Bool) (parent : Int) : Scan Scalar := do
  let origin ← mark
  skip 1
  let early ← chomping?
  let increment ← increment? origin
  let late ← if early.isNone && increment.isSome then chomping? else pure none
  let chomping := (early.or late).getD .clip
  skipWhile isBlank
  skipComment
  need (isBreakOrEnd (← peek 0)) blockContext origin "did not find expected comment or line break"
  skipBreak
  let least := (parent + 1).toNat
  let given := increment.elim 0 fun n => (max parent 0).toNat + n
  let (breaks, indent) ← blockBreaks origin least given
  let b ← blockLines literal origin least indent (← Scan.fuel) ⟨[], [], breaks, false⟩
  let tail := match chomping with
    | .strip => []
    | .clip => b.lastBreak
    | .keep => b.lastBreak ++ b.breaks
  pure ⟨b.text ++ tail, false⟩

end Scan

end CommitGate.Yaml
