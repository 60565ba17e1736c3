import CommitGate.Text.Utf8
import CommitGate.Yaml.Scalar

/-! # YAML tags, anchors and directives

* `Scan.tag` reads a tag as a handle and a suffix.
* `Scan.anchor` reads the name of an anchor or of an alias.
* `Scan.directive` reads a line that starts with a percent sign.

Tags are bytes, since escapes in them stand for bytes.
-/

namespace CommitGate.Yaml.Scan

/-! ## Tags -/

/-- Whether `c` may stand in a tag. Commas and brackets are for tags in angle brackets. -/
def isUriChar (verbatim : Bool) (c : Char) : Bool :=
  isNameChar c
    || c ∈ [';', '/', '?', ':', '@', '&', '=', '+', '$', '.', '%', '!', '~', '*', '\'', '(', ')']
    || (verbatim && c ∈ [',', '[', ']'])

/-- The number of bytes in a character whose first byte is `b`. -/
def characterLength (b : Nat) : Nat :=
  if b < 0x80 then 1
  else if b / 0x20 = 6 then 2
  else if b / 0x10 = 14 then 3
  else if b / 0x08 = 30 then 4
  else 0

/-- The byte that comes next as a percent sign and two digits. -/
def escapedByte (context : String) (origin : Mark) : Scan UInt8 := do
  let c ← get
  match (c.rest.drop 1).take 2 |>.filterMap Hex.value? with
  | [high, low] =>
    need (c.peek 0 = '%') context origin "did not find URI escaped octet"
    pure (UInt8.ofNat (high * 16 + low))
  | _ => fail context origin "did not find URI escaped octet"

/-- Further bytes of an escaped character. -/
def escapedTail (context : String) (origin : Mark) : Nat → Scan Bytes
  | 0 => pure []
  | n + 1 => do
    let b ← escapedByte context origin
    need (b.toNat / 64 = 2) context origin "found an incorrect trailing UTF-8 octet"
    skip 3
    return b :: (← escapedTail context origin n)

/-- The bytes of an escaped character. -/
def escapedCharacter (context : String) (origin : Mark) : Scan Bytes := do
  let first ← escapedByte context origin
  let length := characterLength first.toNat
  need (length ≠ 0) context origin "found an incorrect leading UTF-8 octet"
  skip 3
  return first :: (← escapedTail context origin (length - 1))

/-- The bytes of a tag's characters. -/
def uriFrom (verbatim : Bool) (context : String) (origin : Mark) : (fuel : Nat) → Bytes → Scan Bytes
  | 0, bs => pure bs
  | fuel + 1, bs => do
    let c ← peek 0
    if !isUriChar verbatim c then pure bs
    else if c = '%' then
      let more ← escapedCharacter context origin
      uriFrom verbatim context origin fuel (bs ++ more)
    else
      skip 1
      uriFrom verbatim context origin fuel (bs ++ Utf8.encodeChar c)

/-- A part of a tag that follows `head`, of which the first character does not count. -/
def uri (verbatim directive : Bool) (head : Bytes) (origin : Mark) : Scan Bytes := do
  let context := if directive then "while parsing a %TAG directive" else "while parsing a tag"
  let before ← mark
  let bs ← uriFrom verbatim context origin (← fuel) (head.drop 1)
  need (!head.isEmpty || (← mark) ≠ before) context origin "did not find expected tag URI"
  pure bs

/-- A handle: an exclamation mark, then a name and another one if they come. -/
def handle (directive : Bool) (origin : Mark) : Scan Bytes := do
  need ((← peek 0) = '!') (if directive then "while scanning a tag directive" else "while scanning a tag")
    origin "did not find expected '!'"
  skip 1
  let name := Utf8.encode (← readWhile isNameChar)
  if (← peek 0) = '!' then
    skip 1
    pure (0x21 :: name ++ [0x21])
  else
    need (!directive || name.isEmpty) "while parsing a tag directive" origin
      "did not find expected '!'"
    pure (0x21 :: name)

/-- A tag. The lone exclamation mark has no handle. -/
def tag (inFlow : Bool) : Scan TokenKind := do
  let origin ← mark
  let result ←
    if (← peek 1) = '<' then
      skip 2
      let suffix ← uri true false [] origin
      need ((← peek 0) = '>') "while scanning a tag" origin "did not find the expected '>'"
      skip 1
      pure (TokenKind.tag [] suffix)
    else
      let h ← handle false origin
      if 2 ≤ h.length && h.getLast? = some 0x21 then
        pure (TokenKind.tag h (← uri false false [] origin))
      else
        let suffix ← uri false false h origin
        pure (if suffix.isEmpty then .tag [] [0x21] else .tag [0x21] suffix)
  need ((inFlow && (← peek 0) = ',') || isGap (← peek 0)) "while scanning a tag" origin
    "did not find expected whitespace or line break"
  pure result

/-! ## Anchors -/

/-- The name of an anchor or of an alias, after its indicator. -/
def anchor (context : String) : Scan (List Char) := do
  let origin ← mark
  skip 1
  let name ← readWhile isNameChar
  let next ← peek 0
  need (!name.isEmpty && (isGap next || next ∈ ['?', ':', ',', ']', '\x7d', '%', '@', '\x60'])) context
    origin "did not find expected alphabetic or numeric character"
  pure name

/-! ## Directives -/

/-- A number of at most nine digits. -/
def versionNumber (origin : Mark) : Scan Nat := do
  let context := "while scanning a %YAML directive"
  let digits := (← get).rest.takeWhile isDigit
  if digits.length > 9 then
    skip 9
    fail context origin "found extremely long version number"
  else
    skip digits.length
    need (!digits.isEmpty) context origin "did not find expected version number"
    pure (digits.foldl (fun n d => n * 10 + (d.toNat - '0'.toNat)) 0)

/-- A directive, with the line end after it. The second part is the mark where it ends. -/
def directive : Scan (TokenKind × Mark) := do
  let context := "while scanning a directive"
  let origin ← mark
  skip 1
  let name ← readWhile isNameChar
  need (!name.isEmpty) context origin "could not find expected directive name"
  need (isGap (← peek 0)) context origin "found unexpected non-alphabetical character"
  let kind ←
    if name = "YAML".toList then
      skipWhile isBlank
      let major ← versionNumber origin
      need ((← peek 0) = '.') "while scanning a %YAML directive" origin
        "did not find expected digit or '.' character"
      skip 1
      let minor ← versionNumber origin
      pure (TokenKind.version major minor)
    else if name = "TAG".toList then
      let tagContext := "while scanning a %TAG directive"
      skipWhile isBlank
      let h ← handle true origin
      need (isBlank (← peek 0)) tagContext origin "did not find expected whitespace"
      skipWhile isBlank
      let start ← uri true true [] origin
      need (isGap (← peek 0)) tagContext origin "did not find expected whitespace or line break"
      pure (TokenKind.tagDirective h start)
    else fail context origin "found unknown directive name"
  let stop ← mark
  skipWhile isBlank
  skipComment
  need (isBreakOrEnd (← peek 0)) context origin "did not find expected comment or line break"
  skipBreak
  pure (kind, stop)

end CommitGate.Yaml.Scan
