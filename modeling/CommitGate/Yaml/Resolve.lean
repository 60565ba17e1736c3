import CommitGate.Text.Hex
import CommitGate.Text.Quoted
import CommitGate.Text.Shortest
import CommitGate.Yaml.Document

/-! # What scalars stand for

A scalar without quotes may stand for nothing, a truth value or a number; any other scalar is a text.

* `Scalar.resolve` gives the meaning of a scalar with its tag.
* `Meaning.describe` names a meaning in a message.
-/

namespace CommitGate.Yaml

/-- What a scalar stands for. -/
inductive Meaning where
  | null
  | bool (b : Bool)
  /-- A whole number of at most 64 bits, or a negative one of at most 63. -/
  | whole (n : Int)
  /-- A whole number of at most 128 bits. -/
  | large (n : Int)
  | real (x : Float)
  | text (s : List Char)
deriving Repr

namespace Meaning

/-- A meaning in a message. -/
def describe : Meaning → String
  | .null => "unit value"
  | .bool b => "boolean \x60" ++ (if b then "true" else "false") ++ "\x60"
  | .whole n => s!"integer \x60{n}\x60"
  | .large n => "integer \x60" ++ toString n ++ "\x60 as " ++ (if n < 0 then "i128" else "u128")
  | .real x => "floating point \x60" ++ String.ofList (Shortest.positional x) ++ "\x60"
  | .text s => "string " ++ String.ofList (Quoted.encode s)

end Meaning

/-! ## Numbers -/

/-- The number that digits of a base stand for. -/
def digits? (base : Nat) (s : List Char) : Option Nat :=
  if s.isEmpty then none
  else s.foldl (fun n c => do
    let d ← Hex.value? c
    if d < base then return (← n) * base + d else none) (some 0)

/-- The base and the digits of a number with a sign for its base. -/
def based? : List Char → Option (Nat × List Char)
  | '0' :: 'x' :: rest => some (16, rest)
  | '0' :: 'o' :: rest => some (8, rest)
  | '0' :: 'b' :: rest => some (2, rest)
  | _ => none

/-- Whether a text consists of digits with a zero too many in front. -/
def isPadded (s : List Char) : Bool :=
  let s := match s with
    | '+' :: rest | '-' :: rest => rest
    | _ => s
  match s with
  | '0' :: rest => !rest.isEmpty && rest.all isDigit
  | _ => false

/-- The number that digits stand for, with or without a sign for their base. -/
def magnitude? (isPadded : Bool) (s : List Char) : Option Nat :=
  match based? s with
  | some (base, rest) => digits? base rest
  | none => if isPadded then none else digits? 10 s

/-- The whole number that a text stands for. -/
def whole? (s : List Char) : Option Int :=
  let m := magnitude? (isPadded s)
  match s with
  | '+' :: rest => (m rest).map Int.ofNat
  | '-' :: rest => (m rest).map fun n => -(n : Int)
  | _ => (m s).map Int.ofNat

/-- The meaning of a whole number, if it is not too large for one. -/
def wholeMeaning? (n : Int) : Option Meaning :=
  if -(Nat.pow 2 63 : Int) ≤ n && n < Nat.pow 2 64 then some (.whole n)
  else if -(Nat.pow 2 127 : Int) ≤ n && n < Nat.pow 2 128 then some (.large n)
  else none

/-- The number `mantissa · 10 ^ exponent`, if it is not too large. -/
def decimal? (mantissa : Nat) (exponent : Int) : Option Float :=
  let top := exponent + (toString mantissa).length
  if mantissa = 0 || top < -330 then some 0.0
  else if 310 < top then none
  else
    let x := Float.ofScientific mantissa (exponent < 0) exponent.natAbs
    if x.isFinite then some x else none

/-- The exponent of a number: a letter, a sign and digits, or nothing. -/
def exponent? : List Char → Option Int
  | [] => some 0
  | c :: rest =>
    if c = 'e' || c = 'E' then
      match rest with
      | '-' :: ds => (digits? 10 ds).map fun n => -(n : Int)
      | '+' :: ds => (digits? 10 ds).map Int.ofNat
      | ds => (digits? 10 ds).map Int.ofNat
    else none

/-- The number that digits with a point and an exponent stand for. -/
def unsignedReal? (s : List Char) : Option Float := do
  let ds := s.takeWhile isDigit
  let rest := s.drop ds.length
  let fraction := match rest with
    | '.' :: more => more.takeWhile isDigit
    | _ => []
  let rest := match rest with
    | '.' :: more => more.drop fraction.length
    | _ => rest
  let mantissa ← digits? 10 (ds ++ fraction)
  let e ← exponent? rest
  decimal? mantissa (e - fraction.length)

/-- The number that a text stands for, with names for what is not finite. -/
def real? (s : List Char) : Option Float :=
  if s ∈ [".inf".toList, ".Inf".toList, ".INF".toList,
      "+.inf".toList, "+.Inf".toList, "+.INF".toList] then some (1.0 / 0.0)
  else if s ∈ ["-.inf".toList, "-.Inf".toList, "-.INF".toList] then some (-1.0 / 0.0)
  else if s ∈ [".nan".toList, ".NaN".toList, ".NAN".toList] then some (0.0 / 0.0)
  else
    match s with
    | '-' :: rest => (unsignedReal? rest).map (- ·)
    | '+' :: rest => unsignedReal? rest
    | _ => unsignedReal? s

/-! ## Scalars -/

/-- Whether a text stands for nothing. -/
def isNull (s : List Char) : Bool :=
  s ∈ ["null".toList, "Null".toList, "NULL".toList, "~".toList]

/-- The truth value that a text stands for. -/
def bool? (s : List Char) : Option Bool :=
  if s ∈ ["true".toList, "True".toList, "TRUE".toList] then some true
  else if s ∈ ["false".toList, "False".toList, "FALSE".toList] then some false
  else none

/-- The meaning of a whole number's text. -/
def wholeOf? (s : List Char) : Option Meaning := (whole? s).bind wholeMeaning?

/-- The meaning of a text without quotes. -/
def plainMeaning (s : List Char) : Meaning :=
  if s.isEmpty || isNull s then .null
  else
    ((bool? s).map .bool).or (wholeOf? s) |>.or
      (if isPadded s then none else (real? s).map .real) |>.getD (.text s)

/-- A tag of the standard schema. -/
def standardTag (name : String) : Bytes := Bytes.ofAscii ("tag:yaml.org,2002:" ++ name)

/-- The name of a tag of one's own: what follows a single exclamation mark. -/
def ownTag? : Option Bytes → Option Bytes
  | some (0x21 :: b :: rest) => some (b :: rest)
  | _ => none

namespace Scalar

/-- What a scalar with a tag stands for, or why its text does not fit the tag. -/
def resolve (s : Scalar) (tag : Option Bytes) : Except String Meaning :=
  let orElse (m : Option Meaning) (expected : String) : Except String Meaning :=
    match m with
    | some m => .ok m
    | none =>
      .error ("invalid value: " ++ (Meaning.text s.text).describe ++ ", expected " ++ expected)
  let free := if s.isPlain then plainMeaning s.text else .text s.text
  match tag with
  | none => .ok free
  | some t =>
    if t == standardTag "bool" then orElse ((bool? s.text).map .bool) "a boolean"
    else if t == standardTag "int" then orElse (wholeOf? s.text) "an integer"
    else if t == standardTag "float" then orElse ((real? s.text).map .real) "a float"
    else if t == standardTag "null" then
      orElse (if isNull s.text then some .null else none) "null"
    else if t.head? = some 0x21 then .ok free
    else .ok (.text s.text)

end Scalar

end CommitGate.Yaml
