import CommitGate.Yaml.Tag

/-! # Tokens of a YAML text

A lexer keeps the indentation of the open blocks, the depth of flow collections, and for each depth
the token that may turn out to be a key. A key is recognised late, by the colon after it: then a token
for it is put in front of the tokens that it consists of.

* `Tokens.ofText` is the list of tokens of a text, and the fault that ends it, if any.

A token counts only once it is certain that no key starts with it.
-/

namespace CommitGate.Yaml

/-- A token that may turn out to start a key. -/
structure PendingKey where
  /-- Whether nothing else than a key can stand there. -/
  isRequired : Bool
  /-- The number of tokens before it. -/
  number : Nat
  mark : Mark
deriving DecidableEq, Repr

/-- The state of reading tokens. -/
structure Lexer where
  cursor : Cursor
  /-- The tokens that were read, the last one first. -/
  tokens : List Token
  flowDepth : Nat
  /-- The column of the innermost block, -1 outside of all. -/
  indent : Int
  /-- The columns of the blocks around it. -/
  outer : List Int
  keyAllowed : Bool
  /-- For each depth the token that may start a key, the innermost depth first. -/
  keys : List (Option PendingKey)
deriving DecidableEq, Repr

/-- A step of reading tokens. -/
abbrev Lex (α : Type) := StateT Lexer (Except SyntaxFault) α

namespace Lex

/-- Let a reader go on where the text has been read to. -/
def scan {α : Type} (s : Scan α) : Lex α := fun l =>
  match s l.cursor with
  | .ok (a, cursor) => .ok (a, { l with cursor })
  | .error fault => .error fault

/-- Whether a flow collection is open. -/
def inFlow : Lex Bool := return (← get).flowDepth ≠ 0

/-- Add a token. -/
def push (kind : TokenKind) (start stop : Mark) : Lex Unit :=
  modify fun l => { l with tokens := ⟨kind, start, stop⟩ :: l.tokens }

/-- Add a token in front of those after the first `number` tokens. -/
def insert (number : Nat) (kind : TokenKind) (mark : Mark) : Lex Unit :=
  modify fun l =>
    let later := l.tokens.length - number
    { l with tokens := l.tokens.take later ++ ⟨kind, mark, mark⟩ :: l.tokens.drop later }

/-- Whether a key may start with the next token. -/
def allowKey (b : Bool) : Lex Unit := modify fun l => { l with keyAllowed := b }

/-- Fail where the text has been read to. -/
def fail {α : Type} (problem : String) : Lex α := do
  throw (.plain problem (← get).cursor.mark)

/-! ## Keys -/

/-- Give up a token that may start a key. -/
def giveUp (mark : Mark) : Option PendingKey → Except SyntaxFault (Option PendingKey)
  | some k =>
    if k.isRequired then
      .error (.within "while scanning a simple key" k.mark "could not find expected ':'" mark)
    else .ok none
  | none => .ok none

/-- Whether a key cannot start as far back as at a token: on another line, or more than 1024
characters before. -/
def isStale (mark : Mark) (k : PendingKey) : Bool :=
  k.mark.line < mark.line || k.mark.index + 1024 < mark.index

/-- Give up all tokens that are too far back. -/
def dropStaleKeys : Lex Unit := do
  let l ← get
  let keys ← l.keys.reverse.mapM fun k =>
    if k.any (isStale l.cursor.mark) then giveUp l.cursor.mark k else pure k
  set { l with keys := keys.reverse }

/-- Give up the token of the innermost depth. -/
def dropKey : Lex Unit := do
  let l ← get
  let k ← giveUp l.cursor.mark (l.keys.headD none)
  set { l with keys := k :: l.keys.drop 1 }

/-- Note that the next token may start a key. -/
def saveKey : Lex Unit := do
  let l ← get
  if l.keyAllowed then
    let k : PendingKey :=
      { isRequired := l.flowDepth = 0 && l.indent = l.cursor.mark.column
        number := l.tokens.length
        mark := l.cursor.mark }
    dropKey
    modify fun l => { l with keys := some k :: l.keys.drop 1 }

/-! ## Blocks -/

/-- Open a block at a column, unless one is open there. Its token goes behind the first `number`
tokens. -/
def openBlock (column : Nat) (number : Option Nat) (kind : TokenKind) (mark : Mark) : Lex Unit := do
  let l ← get
  if l.flowDepth = 0 && l.indent < column then
    set { l with indent := column, outer := l.indent :: l.outer }
    insert (number.getD l.tokens.length) kind mark

/-- Close the blocks that stand further right than a column. -/
def closeBlocks (column : Int) : Lex Unit := do
  let l ← get
  if l.flowDepth = 0 then
    let columns := l.indent :: l.outer
    let closed := columns.takeWhile (column < ·)
    let left := columns.drop closed.length
    let mark := l.cursor.mark
    set { l with
      indent := left.headD (-1)
      outer := left.drop 1
      tokens := List.replicate closed.length (⟨.blockEnd, mark, mark⟩ : Token) ++ l.tokens }

/-! ## Tokens -/

/-- A token of `n` characters. -/
def indicator (kind : TokenKind) (n : Nat) : Lex Unit := do
  let start ← scan Scan.mark
  scan (Scan.skip n)
  push kind start (← scan Scan.mark)

/-- A token that a reader makes. -/
def readToken (s : Scan TokenKind) : Lex Unit := do
  let start ← scan Scan.mark
  let kind ← scan s
  push kind start (← scan Scan.mark)

/-- Pass over blanks, comments and line ends. A tab counts as a blank where no key may start. -/
def skipToToken : (fuel : Nat) → Lex Unit
  | 0 => pure ()
  | fuel + 1 => do
    let tabs := (← inFlow) || !(← get).keyAllowed
    scan (Scan.skipWhile fun c => c = ' ' || (tabs && c = '\t'))
    scan Scan.skipComment
    if isBreak (← scan (Scan.peek 0)) then
      scan Scan.skipBreak
      if !(← inFlow) then allowKey true
      skipToToken fuel

/-- The end of the text. It ends the last line. -/
def streamEnd : Lex Unit := do
  modify fun l =>
    let m := l.cursor.mark
    if m.column = 0 then l
    else { l with cursor := ⟨⟨m.index, m.line + 1, 0⟩, l.cursor.rest⟩ }
  closeBlocks (-1)
  dropKey
  allowKey false
  indicator .streamEnd 0

/-- A line that starts with a percent sign. -/
def directive : Lex Unit := do
  closeBlocks (-1)
  dropKey
  allowKey false
  let start ← scan Scan.mark
  let (kind, stop) ← scan Scan.directive
  push kind start stop

/-- The start or the end of a document. -/
def documentMark (kind : TokenKind) : Lex Unit := do
  closeBlocks (-1)
  dropKey
  allowKey false
  indicator kind 3

/-- The start of a flow collection. -/
def flowStart (kind : TokenKind) : Lex Unit := do
  saveKey
  modify fun l => { l with flowDepth := l.flowDepth + 1, keys := none :: l.keys }
  allowKey true
  indicator kind 1

/-- The end of a flow collection. -/
def flowEnd (kind : TokenKind) : Lex Unit := do
  dropKey
  modify fun l =>
    if l.flowDepth = 0 then l else { l with flowDepth := l.flowDepth - 1, keys := l.keys.drop 1 }
  allowKey false
  indicator kind 1

/-- A comma between the items of a flow collection. -/
def flowEntry : Lex Unit := do
  dropKey
  allowKey true
  indicator .flowEntry 1

/-- Open a block where the text has been read to, if a block may start there. -/
def openHere (kind : TokenKind) (problem : String) : Lex Unit := do
  if !(← inFlow) then
    if !(← get).keyAllowed then fail problem
    let mark ← scan Scan.mark
    openBlock mark.column none kind mark

/-- A dash in front of an item. -/
def blockEntry : Lex Unit := do
  openHere .blockSequenceStart "block sequence entries are not allowed in this context"
  dropKey
  allowKey true
  indicator .blockEntry 1

/-- A question mark in front of a key. -/
def keyMark : Lex Unit := do
  openHere .blockMappingStart "mapping keys are not allowed in this context"
  dropKey
  allowKey (!(← inFlow))
  indicator .key 1

/-- A colon in front of a value. -/
def valueMark : Lex Unit := do
  match (← get).keys.headD none with
  | some k =>
    insert k.number .key k.mark
    openBlock k.mark.column (some k.number) .blockMappingStart k.mark
    modify fun l => { l with keys := none :: l.keys.drop 1 }
    allowKey false
  | none =>
    openHere .blockMappingStart "mapping values are not allowed in this context"
    allowKey (!(← inFlow))
  indicator .value 1

/-- A token that may start a key and ends on the same line. -/
def simpleToken (s : Scan TokenKind) : Lex Unit := do
  saveKey
  allowKey false
  readToken s

/-- A scalar without quotes. After a line end a key may start. -/
def plainScalar : Lex Unit := do
  saveKey
  allowKey false
  let l ← get
  let start := l.cursor.mark
  let (s, atLine) ← scan (Scan.plainScalar (l.flowDepth ≠ 0) (l.indent + 1).toNat)
  push (.scalar s) start (← scan Scan.mark)
  if atLine then allowKey true

/-- A literal or folded block. -/
def blockScalar (literal : Bool) : Lex Unit := do
  dropKey
  allowKey true
  let indent := (← get).indent
  readToken (TokenKind.scalar <$> Scan.blockScalar literal indent)

/-- The indicators that no scalar without quotes starts with. -/
def indicators : List Char :=
  ['-', '?', ':', ',', '[', ']', '\x7b', '\x7d', '#', '&', '*', '!', '|', '>', '\'', '"', '%', '@',
    '\x60']

/-- Whether a scalar without quotes may start with `c` before `next`. -/
def startsPlain (flow : Bool) (c next : Char) : Bool :=
  !(isGap c || c ∈ indicators) || (c = '-' && !isBlank next)
    || (!flow && (c = '?' || c = ':') && !isGap next)

/-- Read the next token, with those that it opens or closes. -/
def fetch : Lex Unit := do
  skipToToken (← get).cursor.rest.length.succ
  dropStaleKeys
  closeBlocks (← get).cursor.mark.column
  let cur := (← get).cursor
  let flow ← inFlow
  let c := cur.peek 0
  let next := cur.peek 1
  if isEnd c then streamEnd
  else if cur.mark.column = 0 && c = '%' then directive
  else if cur.startsWithRule '-' then documentMark .documentStart
  else if cur.startsWithRule '.' then documentMark .documentEnd
  else if c = '[' then flowStart .flowSequenceStart
  else if c = '\x7b' then flowStart .flowMappingStart
  else if c = ']' then flowEnd .flowSequenceEnd
  else if c = '\x7d' then flowEnd .flowMappingEnd
  else if c = ',' then flowEntry
  else if c = '-' && isGap next then blockEntry
  else if c = '?' && (flow || isGap next) then keyMark
  else if c = ':' && (flow || isGap next) then valueMark
  else if c = '*' then simpleToken (TokenKind.alias <$> Scan.anchor "while scanning an alias")
  else if c = '&' then simpleToken (TokenKind.anchor <$> Scan.anchor "while scanning an anchor")
  else if c = '!' then simpleToken (Scan.tag flow)
  else if c = '|' && !flow then blockScalar true
  else if c = '>' && !flow then blockScalar false
  else if c = '\'' then simpleToken (TokenKind.scalar <$> Scan.quotedScalar true)
  else if c = '"' then simpleToken (TokenKind.scalar <$> Scan.quotedScalar false)
  else if startsPlain flow c next then plainScalar
  else throw (.within "while scanning for the next token" cur.mark
    "found character that cannot start any token" cur.mark)

end Lex

/-! ## The tokens of a text -/

/-- Tokens, and the fault that ends them, if any. -/
structure Tokens where
  tokens : List Token
  fault : Option SyntaxFault
deriving DecidableEq, Repr

namespace Tokens

/-- The first token and nothing else. -/
def start (text : List Char) : Lexer where
  cursor := ⟨.start, text⟩
  tokens := [⟨.streamStart, .start, .start⟩]
  flowDepth := 0
  indent := -1
  outer := []
  keyAllowed := true
  keys := [none]

/-- The tokens in front of the first that may still start a key. -/
def certain (l : Lexer) : List Token :=
  let numbers := l.keys.filterMap fun k => k.map (·.number)
  l.tokens.reverse.take (numbers.foldl min l.tokens.length)

/-- Read tokens to the end. -/
def run : (fuel : Nat) → Lexer → Tokens
  | 0, l => ⟨certain l, none⟩
  | fuel + 1, l =>
    match Lex.fetch l with
    | .error fault => ⟨certain l, some fault⟩
    | .ok ((), l) =>
      if l.tokens.head?.any (·.kind = .streamEnd) then ⟨l.tokens.reverse, none⟩ else run fuel l

/-- Whether `c` may stand in a text. -/
def isAllowed (c : Char) : Bool :=
  let n := c.toNat
  n = 0x09 || n = 0x0A || n = 0x0D || (0x20 ≤ n && n ≤ 0x7E) || n = 0x85
    || (0xA0 ≤ n && n ≤ 0xD7FF) || (0xE000 ≤ n && n ≤ 0xFFFD) || 0x10000 ≤ n

/-- The number of bytes before the first character that may not stand in a text. -/
def forbidden? (offset : Nat) : List Char → Option Nat
  | [] => none
  | c :: rest => if isAllowed c then forbidden? (offset + c.utf8Size) rest else some offset

/-- Pass over a byte order mark. -/
def skipByteOrderMark (l : Lexer) : Lexer :=
  if l.cursor.peek 0 = '\uFEFF' then { l with cursor := l.cursor.advance 1 } else l

/-- The tokens of a text. -/
def ofText (text : List Char) : Tokens :=
  match forbidden? 0 text with
  | some offset => ⟨[], some ⟨"control characters are not allowed", .start, offset, none⟩⟩
  | none => run (text.length + 2) (skipByteOrderMark (start text))

end Tokens

end CommitGate.Yaml
