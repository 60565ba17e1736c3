import CommitGate.Json.Number
import CommitGate.Json.Text

/-! # Decoding JSON into records

A decoder reads the text of a value of a known type straight from the cursor.

* `Decode.text`, `Decode.bool`, `Decode.natural`, `Decode.list` and `Decode.optional` are decoders.
* `Decode.record` decodes an object with known members in any order, or an array of their values.
* `Decode.value` reads any value and `Decode.skipValue` passes over one.
* `Decode.whole` asks that nothing follows a value.

Scope limit: arrays and objects are nested at most 127 deep, save those that are passed over.
-/

namespace CommitGate.Json

namespace Decode

open Reader

/-- A decoder, given the depth to which values may still be nested. -/
abbrev Decoder (α : Type) := Nat → Reader α

/-- The depth to which values may be nested at the start of a text. -/
def startDepth : Nat := 128

/-- Enter an array or object, of which the opening bracket comes next. -/
def descend {α : Type} (depth : Nat) (r : Nat → Reader α) : Reader α := do
  if depth ≤ 1 then failNext .tooDeep
  else
    skip
    r (depth - 1)

/-! ## Arrays and objects -/

/-- Whether another item of an array follows; `first` holds before its first item. -/
def hasItem (first : Bool) : Reader Bool := do
  match ← peekToken with
  | none => failNext .endOfArray
  | some b =>
    if b == 0x5D then pure false
    else if first then pure true
    else if b == 0x2C then
      skip
      match ← peekToken with
      | none => failNext .endOfValue
      | some b => if b == 0x5D then failNext .trailingComma else pure true
    else failNext .expectedArrayComma

/-- The end of an array. -/
def endArray : Reader Unit := do
  match ← peekToken with
  | none => failNext .endOfArray
  | some b =>
    if b == 0x5D then skip
    else if b == 0x2C then
      skip
      if (← peekToken) == some 0x5D then failNext .trailingComma
      else failNext .trailingCharacters
    else failNext .trailingCharacters

/-- The name of the next member of an object, if one follows; `first` holds before its first. -/
def memberName (first : Bool) : Reader (Option String) := do
  match ← peekToken with
  | none => failNext .endOfObject
  | some b =>
    if b == 0x7D then pure none
    else if first then
      if b == 0x22 then name else failNext .keyNotString
    else if b == 0x2C then
      skip
      match ← peekToken with
      | none => failNext .endOfValue
      | some b =>
        if b == 0x22 then name
        else if b == 0x7D then failNext .trailingComma
        else failNext .keyNotString
    else failNext .expectedObjectComma
where
  /-- A name, of which the opening quote comes next. -/
  name : Reader (Option String) := do
    skip
    some <$> string

/-- The colon after a member's name. -/
def colon : Reader Unit := do
  match ← peekToken with
  | none => failNext .endOfObject
  | some b => if b == 0x3A then skip else failNext .expectedColon

/-- The end of an object. -/
def endObject : Reader Unit := do
  match ← peekToken with
  | none => failNext .endOfObject
  | some b =>
    if b == 0x7D then skip
    else if b == 0x2C then failNext .trailingComma
    else failNext .trailingCharacters

/-! ## Values of any type -/

/-- A value that is neither array nor object, or the bracket that opens one, which stays unread. -/
def scalar (b : UInt8) : Reader (Option Value) := do
  if b == 0x6E then
    skip
    word "ull".toList
    pure (some .null)
  else if b == 0x74 then
    skip
    word "rue".toList
    pure (some (.bool true))
  else if b == 0x66 then
    skip
    word "alse".toList
    pure (some (.bool false))
  else if b == 0x2D then
    skip
    let n ← number true
    pure (some (.number n))
  else if isDigit b then
    let n ← number false
    pure (some (.number n))
  else if b == 0x22 then
    skip
    let s ← string
    pure (some (.string s))
  else if b == 0x5B || b == 0x7B then pure none
  else failNext .expectedValue

mutual

/-- Any value. `fuel` bounds the number of values and of ends read. -/
def valueFrom : Nat → Decoder Value
  | 0, _ => failNext .endOfValue
  | fuel + 1, depth => do
    let b ← peekValue
    match ← scalar b with
    | some v => pure v
    | none =>
      if b == 0x5B then
        located <| closedBy (descend depth (itemsFrom fuel true [])) endArray
      else located <| closedBy (descend depth (membersFrom fuel true [])) endObject

/-- The items of an array, after those in `before`, the last one first. -/
def itemsFrom : Nat → Bool → List Value → Decoder Value
  | 0, _, _, _ => failNext .endOfValue
  | fuel + 1, first, before, depth => do
    if ← hasItem first then
      let v ← valueFrom fuel depth
      itemsFrom fuel false (v :: before) depth
    else pure (.array before.reverse)

/-- The members of an object, after those in `before`, the last one first. -/
def membersFrom : Nat → Bool → List (String × Value) → Decoder Value
  | 0, _, _, _ => failNext .endOfValue
  | fuel + 1, first, before, depth => do
    match ← memberName first with
    | none => pure (.object before.reverse)
    | some k =>
      colon
      let v ← valueFrom fuel depth
      membersFrom fuel false ((k, v) :: before) depth

end

/-- The fuel that reading the rest of the text needs at most. -/
def fuelFor : Reader Nat := do return 2 * (← get).rest.length + 2

/-- Any value. -/
def value : Decoder Value := fun depth => do valueFrom (← fuelFor) depth

/-! ## Passing over values -/

/-- A bracket that was opened. -/
inductive Frame where
  | array
  | object
deriving DecidableEq, Repr

/-- The name and colon of a member whose value is passed over. -/
def skipName : Reader Unit := do
  match ← peekToken with
  | none => failNext .endOfObject
  | some b => if b == 0x22 then skip else failNext .keyNotString
  skipString
  match ← peekToken with
  | none => failNext .endOfObject
  | some b => if b == 0x3A then skip else failNext .expectedColon

mutual

/-- Pass over a value within the open `frames`, the innermost one first, and over what follows it up
to the end of the outermost. -/
def skipFrom : Nat → List Frame → Reader Unit
  | 0, _ => failNext .endOfValue
  | fuel + 1, frames => do
    let b ← peekValue
    if b == 0x5B then
      skip
      skipAfter fuel false .array frames
    else if b == 0x7B then
      skip
      skipAfter fuel false .object frames
    else
      if b == 0x22 then
        skip
        skipString
      else if b == 0x2D then
        skip
        skipNumber
      else if isDigit b then skipNumber
      else discard (scalar b)
      match frames with
      | [] => pure ()
      | frame :: frames => skipAfter fuel true frame frames

/-- Pass over what follows an item of `frame`, or over the start of it. -/
def skipAfter : Nat → Bool → Frame → List Frame → Reader Unit
  | 0, _, _, _ => failNext .endOfValue
  | fuel + 1, afterItem, frame, frames => do
    match ← peekToken with
    | none => failNext (match frame with | .array => .endOfArray | .object => .endOfObject)
    | some b =>
      if b == 0x2C && afterItem then
        skip
        skipItem fuel frame frames
      else if b == (match frame with | .array => 0x5D | .object => 0x7D) then
        skip
        match frames with
        | [] => pure ()
        | frame :: frames => skipAfter fuel true frame frames
      else if afterItem then
        failNext (match frame with
          | .array => .expectedArrayComma
          | .object => .expectedObjectComma)
      else skipItem fuel frame frames

/-- Pass over an item of `frame`. -/
def skipItem : Nat → Frame → List Frame → Reader Unit
  | 0, _, _ => failNext .endOfValue
  | fuel + 1, frame, frames => do
    if frame = .object then skipName
    skipFrom fuel (frame :: frames)

end

/-- Pass over a value. -/
def skipValue : Reader Unit := do
  let n := (← get).rest.length
  skipFrom (4 * n + 4) []

/-! ## Values of one type -/

/-- The text of finding one thing in the place of another. -/
def mismatch (found expected : String) : String := s!"invalid type: {found}, expected {expected}"

/-- Fail because the next value, whose first byte is `b`, is not what is expected. -/
def unexpected {α : Type} (b : UInt8) (expected : String) : Reader α := do
  match ← scalar b with
  | some v => unfit (mismatch v.kindText expected)
  | none =>
    unfit (mismatch (Value.kindText (if b == 0x5B then .array [] else .object [])) expected)

/-- A string, which `accept` makes a value of or refuses with a message. -/
def textWith {α : Type} (expected : String) (accept : String → Except String α) : Decoder α :=
  fun _ => do
    let b ← peekValue
    if b == 0x22 then
      skip
      let s ← string
      match accept s with
      | .ok a => pure a
      | .error message => located (unfit message)
    else located (unexpected b expected)

/-- A string. -/
def text : Decoder String := textWith "a string" .ok

/-- A truth value. -/
def bool : Decoder Bool := fun _ => do
  let b ← peekValue
  if b == 0x74 then
    skip
    word "rue".toList
    pure true
  else if b == 0x66 then
    skip
    word "alse".toList
    pure false
  else located (unexpected b "a boolean")

/-- A natural number below 2⁶⁴. -/
def natural : Decoder Nat := fun _ => do
  let b ← peekValue
  if b == 0x2D || isDigit b then
    if b == 0x2D then skip
    match ← number (b == 0x2D) with
    | .natural n => pure n
    | .negative n =>
      located (unfit ("invalid value: " ++ (Number.negative n).kindText ++ ", expected u64"))
    | .real x => located (unfit (mismatch (Number.real x).kindText "u64"))
  else located (unexpected b "u64")

/-- A value, or none for `null`. -/
def optional {α : Type} (decode : Decoder α) : Decoder (Option α) := fun depth => do
  if (← peekToken) == some 0x6E then
    skip
    word "ull".toList
    pure none
  else some <$> decode depth

/-- The items of an array, after those in `before`, the last one first. -/
def listFrom {α : Type} (decode : Decoder α) (depth : Nat) : Nat → Bool → List α → Reader (List α)
  | 0, _, _ => failNext .endOfValue
  | fuel + 1, first, before => do
    if ← hasItem first then
      let a ← decode depth
      listFrom decode depth fuel false (a :: before)
    else pure before.reverse

/-- An array of values of one type. -/
def list {α : Type} (decode : Decoder α) : Decoder (List α) := fun depth => do
  let b ← peekValue
  if b == 0x5B then
    located <| closedBy
      (descend depth fun depth => do listFrom decode depth (← fuelFor) true []) endArray
  else located (unexpected b "a sequence")

/-! ## Records -/

/-- A member of a record of type `α`: its name, whether it must be present, and how its value is
stored. -/
structure Field (α : Type) where
  name : String
  required : Bool
  store : α → Decoder α

/-- A member that must be present. -/
def Field.needed {α β : Type} (name : String) (decode : Decoder β) (set : α → β → α) : Field α :=
  ⟨name, true, fun a depth => set a <$> decode depth⟩

/-- A member that may be absent. -/
def Field.optional {α β : Type} (name : String) (decode : Decoder β) (set : α → β → α) : Field α :=
  ⟨name, false, fun a depth => set a <$> decode depth⟩

/-- The text of a number of things. -/
def elements (n : Nat) : String := if n = 1 then "1 element" else s!"{n} elements"

/-- The text of an array that ends too early. -/
def tooShort (expected : String) (found size : Nat) : String :=
  "invalid length " ++ toString found ++ ", expected " ++ expected ++ " with " ++ elements size

/-- The members that come next in an array: `index` of `size` were read. -/
def positional {α : Type} (expected : String) (size depth : Nat) :
    Nat → List (Field α) → α → Reader α
  | _, [], a => pure a
  | index, f :: fields, a => do
    if ← hasItem (index == 0) then
      let a ← f.store a depth
      positional expected size depth (index + 1) fields a
    else if f.required then unfit (tooShort expected index size)
    else positional expected size depth (index + 1) fields a

/-- The members that come next in an object, of which those in `seen` were read. -/
def named {α : Type} (fields : List (Field α)) (depth : Nat) :
    Nat → List String → α → Reader α
  | 0, _, _ => failNext .endOfValue
  | fuel + 1, seen, a => do
    match ← memberName (seen == []) with
    | none =>
      match fields.find? fun f => f.required && !seen.contains f.name with
      | some f => unfit s!"missing field \x60{f.name}\x60"
      | none => pure a
    | some name =>
      match fields.find? fun f => f.name == name with
      | none =>
        colon
        skipValue
        named fields depth fuel (name :: seen) a
      | some f =>
        if seen.contains name then unfit s!"duplicate field \x60{name}\x60"
        else
          colon
          let a ← f.store a depth
          named fields depth fuel (name :: seen) a

/-- A record: an object with the members `fields`, or an array of their values in order. Members
that are absent keep their value in `blank`. -/
def record {α : Type} (expected : String) (blank : α) (fields : List (Field α)) : Decoder α :=
  fun depth => do
    let b ← peekValue
    located <|
      if b == 0x5B then
        closedBy (descend depth fun depth => positional expected fields.length depth 0 fields blank)
          endArray
      else if b == 0x7B then
        closedBy (descend depth fun depth => do named fields depth (← fuelFor) [] blank) endObject
      else unexpected b expected

/-! ## Whole texts -/

/-- A value after which only spaces follow. -/
def whole {α : Type} (decode : Decoder α) : Reader α := do
  let a ← decode startDepth
  match ← peekToken with
  | some _ => failNext .trailingCharacters
  | none => pure a

/-- The value that a text holds, or why it holds none. -/
def run {α : Type} (decode : Decoder α) (text : Bytes) : Except String α :=
  match whole decode ⟨0, text⟩ with
  | (.ok a, _) => .ok a
  | (.error f, _) => .error (f.message text)

end Decode

end CommitGate.Json
