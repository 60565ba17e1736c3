import CommitGate.Text.Utf8

/-! # Reading JSON text byte by byte

A reader works on a cursor, which stays where it is when reading fails: an error may be positioned
by what is read after it.

* `Json.Reader` is a reading step; `Json.Failure` is why one failed, and at which byte.
* `Json.Failure.message` gives the line, and the column in bytes, of that byte.

Scope limit: text is well-formed UTF-8, which callers ensure.
-/

namespace CommitGate.Json

/-- Why JSON text cannot be read. -/
inductive Cause where
  | endOfArray
  | endOfObject
  | endOfString
  | endOfValue
  | expectedColon
  | expectedArrayComma
  | expectedObjectComma
  | expectedWord
  | expectedValue
  | invalidEscape
  | invalidNumber
  | numberTooLarge
  | controlCharacter
  | keyNotString
  | loneSurrogate
  | trailingComma
  | trailingCharacters
  | endOfEscape
  | tooDeep
  /-- The text is JSON, but not what is expected. -/
  | unfit (message : String)
deriving DecidableEq, Repr

/-- The text of a cause. -/
def Cause.message : Cause → String
  | endOfArray => "EOF while parsing a list"
  | endOfObject => "EOF while parsing an object"
  | endOfString => "EOF while parsing a string"
  | endOfValue => "EOF while parsing a value"
  | expectedColon => "expected \x60:\x60"
  | expectedArrayComma => "expected \x60,\x60 or \x60]\x60"
  | expectedObjectComma => "expected \x60,\x60 or \x60\x7d\x60"
  | expectedWord => "expected ident"
  | expectedValue => "expected value"
  | invalidEscape => "invalid escape"
  | invalidNumber => "invalid number"
  | numberTooLarge => "number out of range"
  | controlCharacter => "control character (\\u0000-\\u001F) found while parsing a string"
  | keyNotString => "key must be a string"
  | loneSurrogate => "lone leading surrogate in hex escape"
  | trailingComma => "trailing comma"
  | trailingCharacters => "trailing characters"
  | endOfEscape => "unexpected end of hex escape"
  | tooDeep => "recursion limit exceeded"
  | unfit message => message

/-- A cause and the number of bytes before its place, once the place is known. -/
structure Failure where
  cause : Cause
  place : Option Nat
deriving DecidableEq, Repr

/-- The line of the byte after `place` bytes, counted from 1, and the bytes before it there. -/
def lineColumn (text : Bytes) (place : Nat) : Nat × Nat :=
  let before := text.take place
  (before.count 0x0A + 1, (before.reverse.takeWhile (· != 0x0A)).length)

/-- The text of a failure to read `text`. -/
def Failure.message (f : Failure) (text : Bytes) : String :=
  match f.place with
  | none => f.cause.message
  | some place =>
    let (line, column) := lineColumn text place
    f.cause.message ++ s!" at line {line} column {column}"

/-- The bytes to be read, and how many were read before them. -/
structure Cursor where
  consumed : Nat
  rest : Bytes
deriving DecidableEq, Repr

/-- A step of reading. -/
abbrev Reader := ExceptT Failure (StateM Cursor)

namespace Reader

/-- The next byte, which stays unread. -/
def peek : Reader (Option UInt8) := do return (← get).rest.head?

/-- Read one byte, if there is one. -/
def next : Reader (Option UInt8) := fun c =>
  match c.rest with
  | [] => (.ok none, c)
  | b :: rest => (.ok (some b), ⟨c.consumed + 1, rest⟩)

/-- Pass over one byte. -/
def skip : Reader Unit := do discard next

/-- Fail at the bytes read so far. -/
def failHere {α : Type} (cause : Cause) : Reader α := do
  throw ⟨cause, some (← get).consumed⟩

/-- Fail at the next byte. -/
def failNext {α : Type} (cause : Cause) : Reader α := do
  let c ← get
  throw ⟨cause, some (if c.rest.isEmpty then c.consumed else c.consumed + 1)⟩

/-- Fail without a place. -/
def unfit {α : Type} (message : String) : Reader α := throw ⟨.unfit message, none⟩

/-- Give the place of the cursor to a failure that has none. -/
def located {α : Type} (r : Reader α) : Reader α := fun c =>
  match r c with
  | (.error ⟨cause, none⟩, c') => (.error ⟨cause, some c'.consumed⟩, c')
  | result => result

/-- Read `closing` after `r` also when `r` failed, and keep the first failure. -/
def closedBy {α : Type} (r : Reader α) (closing : Reader Unit) : Reader α := fun c =>
  match r c with
  | (.ok a, c') =>
    match closing c' with
    | (.ok (), c'') => (.ok a, c'')
    | (.error e, c'') => (.error e, c'')
  | (.error e, c') => (.error e, (closing c').2)

/-- Whether `b` separates the parts of JSON text. -/
def isSpace (b : UInt8) : Bool := b == 0x20 || b == 0x09 || b == 0x0A || b == 0x0D

/-- Pass over bytes as long as `p` holds. -/
def skipWhile (p : UInt8 → Bool) : Reader Nat := fun c =>
  let n := (c.rest.takeWhile p).length
  (.ok n, ⟨c.consumed + n, c.rest.drop n⟩)

/-- The next byte that is no space. -/
def peekToken : Reader (Option UInt8) := do
  discard (skipWhile isSpace)
  peek

/-- The first byte of a value. -/
def peekValue : Reader UInt8 := do
  match ← peekToken with
  | some b => pure b
  | none => failNext .endOfValue

/-- Read the bytes of a word, of which the first is read already. -/
def word : List Char → Reader Unit
  | [] => pure ()
  | expected :: more => do
    match ← next with
    | none => failHere .endOfValue
    | some b => if b.toNat = expected.toNat then word more else failHere .expectedWord

end Reader

end CommitGate.Json
