import CommitGate.Text.Hex
import CommitGate.Text.Quoted
import CommitGate.Text.Shortest

/-! # JSON values

* `Json.Value` is a JSON document; an object keeps its members in order.
* `Json.Value.render` writes it on one line without blanks.
* `Json.Value.kindText` names a value in an error.

Scope limit: numbers are natural, negative or binary64.
-/

namespace CommitGate.Json

/-- A JSON number. -/
inductive Number where
  | natural (n : Nat)
  /-- The number `-n`. -/
  | negative (n : Nat)
  | real (x : Float)
deriving Repr, BEq, Inhabited

/-- A JSON value. -/
inductive Value where
  | null
  | bool (b : Bool)
  | number (n : Number)
  | string (s : String)
  | array (items : List Value)
  | object (members : List (String × Value))
deriving Repr, Inhabited

/-- The digits of a number. -/
def Number.text : Number → List Char
  | .natural n => Decimal.digits n
  | .negative n => '-' :: Decimal.digits n
  | .real x => Shortest.text x

/-- A number with the name of its kind. -/
def Number.kindText (n : Number) : String :=
  (match n with | .real _ => "floating point \x60" | _ => "integer \x60")
    ++ String.ofList n.text ++ "\x60"

/-! ## Writing -/

/-- A character within a string: controls, quotes and backslashes are escaped, others are not. -/
def escape (c : Char) : List Char :=
  if c = '"' || c = '\\' then ['\\', c]
  else if c = '\x08' then ['\\', 'b']
  else if c = '\x0C' then ['\\', 'f']
  else if c = '\n' then ['\\', 'n']
  else if c = '\r' then ['\\', 'r']
  else if c = '\t' then ['\\', 't']
  else if c.toNat < 0x20 then
    '\\' :: 'u' :: '0' :: '0' :: Hex.byte 'a' (UInt8.ofNat c.toNat)
  else [c]

/-- A text as a JSON string. -/
def quote (s : List Char) : List Char := '"' :: (s.flatMap escape ++ ['"'])

namespace Value

mutual

/-- A value on one line. -/
def chars : Value → List Char
  | .null => "null".toList
  | .bool true => "true".toList
  | .bool false => "false".toList
  | .number n => n.text
  | .string s => quote s.toList
  | .array items => '[' :: (charsItems items ++ [']'])
  | .object members => '\x7b' :: (charsMembers members ++ ['\x7d'])

/-- The items of an array, with commas between them. -/
def charsItems : List Value → List Char
  | [] => []
  | [v] => chars v
  | v :: items => chars v ++ ',' :: charsItems items

/-- The members of an object, with commas between them. -/
def charsMembers : List (String × Value) → List Char
  | [] => []
  | [(k, v)] => quote k.toList ++ ':' :: chars v
  | (k, v) :: members => quote k.toList ++ ':' :: (chars v ++ ',' :: charsMembers members)

end

/-- A value as a string on one line. -/
def render (v : Value) : String := String.ofList v.chars

/-- A natural number as a value. -/
def ofNat (n : Nat) : Value := .number (.natural n)

/-- A value as an error names it. -/
def kindText : Value → String
  | .null => "null"
  | .bool b => s!"boolean \x60{b}\x60"
  | .number n => n.kindText
  | .string s => "string " ++ CommitGate.Quoted.quote s
  | .array _ => "sequence"
  | .object _ => "map"

end Value

end CommitGate.Json
