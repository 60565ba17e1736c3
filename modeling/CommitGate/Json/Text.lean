import CommitGate.Json.Cursor
import CommitGate.Text.Hex

/-! # Reading JSON strings

* `Reader.string` reads a string after its opening quote and decodes its escapes.
* `Reader.skipString` passes over one without asking what its escapes stand for.
-/

namespace CommitGate.Json.Reader

/-- The next byte, which must not be the end of the text. -/
def nextInString : Reader UInt8 := do
  match ← next with
  | some b => pure b
  | none => failHere .endOfString

@[inherit_doc nextInString]
def peekInString : Reader UInt8 := do
  match ← peek with
  | some b => pure b
  | none => failHere .endOfString

/-- The number of four hexadecimal digits. -/
def fourDigits : Reader Nat := fun c =>
  match c.rest with
  | d1 :: d2 :: d3 :: d4 :: rest =>
    let c' : Cursor := ⟨c.consumed + 4, rest⟩
    match [d1, d2, d3, d4].mapM fun d => Hex.value? (Char.ofNat d.toNat) with
    | some ds => (.ok (ds.foldl (fun n d => n * 16 + d) 0), c')
    | none => (.error ⟨.invalidEscape, some c'.consumed⟩, c')
  | short =>
    let place := c.consumed + short.length
    (.error ⟨.endOfString, some place⟩, ⟨place, []⟩)

/-- Pass over a byte that must come next within a pair of escapes. -/
def expectInPair (b : UInt8) : Reader Unit := do
  let found ← peekInString
  skip
  if found != b then failHere .endOfEscape

/-- The character of an escape by code point, after the letter `u`. A character beyond U+FFFF is a
pair of escapes. -/
def codePoint : Reader Char := do
  let n ← fourDigits
  if 0xDC00 ≤ n && n ≤ 0xDFFF then failHere .loneSurrogate
  else if n < 0xD800 || 0xDBFF < n then pure (Char.ofNat n)
  else
    expectInPair 0x5C
    expectInPair 0x75
    let low ← fourDigits
    if low < 0xDC00 || 0xDFFF < low then failHere .loneSurrogate
    else pure (Char.ofNat ((n - 0xD800) * 1024 + (low - 0xDC00) + 0x10000))

/-- The byte that a letter after a backslash stands for. -/
def shortEscape (b : UInt8) : Option UInt8 :=
  if b == 0x22 || b == 0x5C || b == 0x2F then some b
  else if b == 0x62 then some 0x08
  else if b == 0x66 then some 0x0C
  else if b == 0x6E then some 0x0A
  else if b == 0x72 then some 0x0D
  else if b == 0x74 then some 0x09
  else none

/-- What an escape stands for, after its backslash. -/
def escaped : Reader Bytes := do
  let b ← nextInString
  match shortEscape b with
  | some byte => pure [byte]
  | none => if b == 0x75 then Utf8.encodeChar <$> codePoint else failHere .invalidEscape

/-- The bytes of a string up to its closing quote, `fuel` of its bytes and escapes at most, with
`before` holding those read so far, the last one first. -/
def stringFrom : Nat → Bytes → Reader Bytes
  | 0, _ => failHere .endOfString
  | fuel + 1, before => do
    let b ← nextInString
    if b == 0x22 then pure before.reverse
    else if b == 0x5C then
      let bytes ← escaped
      stringFrom fuel (bytes.reverse ++ before)
    else if b < 0x20 then failHere .controlCharacter
    else stringFrom fuel (b :: before)

/-- A string after its opening quote. -/
def string : Reader String := do
  let bytes ← stringFrom ((← get).rest.length + 1) []
  pure (Utf8.toStringLossy bytes)

/-- Pass over a string after its opening quote, `fuel` of its bytes and escapes at most. -/
def skipStringFrom : Nat → Reader Unit
  | 0 => failHere .endOfString
  | fuel + 1 => do
    let b ← peekInString
    if b == 0x22 then skip
    else if b == 0x5C then
      skip
      let e ← nextInString
      if e == 0x75 then discard fourDigits
      else if (shortEscape e).isNone then failHere .invalidEscape
      skipStringFrom fuel
    else if b < 0x20 then failHere .controlCharacter
    else
      skip
      skipStringFrom fuel

/-- Pass over a string after its opening quote. -/
def skipString : Reader Unit := do skipStringFrom ((← get).rest.length + 1)

end CommitGate.Json.Reader
