import CommitGate.Json.Decode

/-! # Decoding records from values that are already read

A record whose kind is named by one of its own members cannot be decoded before all members are
read: they are kept as values and decoded afterwards.

* `Content.record` decodes an object or an array of values.
* `Content.tagged` reads a record and splits off the member that names its kind.
-/

namespace CommitGate.Json.Content

open Decode Reader

/-- A member of a record of type `α`: its name and how its value is stored. -/
structure Part (α : Type) where
  name : String
  store : α → Value → Except String α

/-- A string. -/
def text : Value → Except String String
  | .string s => .ok s
  | v => .error (mismatch v.kindText "a string")

/-- A member that holds a string. -/
def Part.text {α : Type} (name : String) (set : α → String → α) : Part α :=
  ⟨name, fun a v => set a <$> Content.text v⟩

/-- The members of an object, of which those in `seen` were stored. -/
def named {α : Type} (parts : List (Part α)) :
    List String → α → List (String × Value) → Except String α
  | seen, a, [] =>
    match parts.find? fun p => !seen.contains p.name with
    | some p => .error s!"missing field \x60{p.name}\x60"
    | none => .ok a
  | seen, a, (name, v) :: members =>
    match parts.find? fun p => p.name == name with
    | none => named parts seen a members
    | some p =>
      if seen.contains name then .error s!"duplicate field \x60{name}\x60"
      else do
        let a ← p.store a v
        named parts (name :: seen) a members

/-- The items of an array as the members of a record with `size` members. -/
def positional {α : Type} (expected : String) (size : Nat) :
    Nat → List (Part α) → α → List Value → Except String α
  | _, [], a, [] => .ok a
  | index, [], _, items =>
    .error ("invalid length " ++ toString (index + items.length) ++ ", expected "
      ++ elements index ++ " in sequence")
  | index, _ :: _, _, [] => .error (tooShort expected index size)
  | index, p :: parts, a, v :: items => do
    let a ← p.store a v
    positional expected size (index + 1) parts a items

/-- A record: an object with the members `parts`, or an array of their values in order. -/
def record {α : Type} (expected : String) (blank : α) (parts : List (Part α)) :
    Value → Except String α
  | .object members => named parts [] blank members
  | .array items => positional expected parts.length 0 parts blank items
  | v => .error (mismatch v.kindText expected)

/-- The members of an object, with the value of the member `tag` apart. -/
def splitMembers {κ : Type} (tag : String) (kind : Decoder κ) (depth : Nat) :
    Nat → Bool → Option κ → List (String × Value) → Reader (κ × Value)
  | 0, _, _, _ => failNext .endOfValue
  | fuel + 1, first, found, before => do
    match ← memberName first with
    | none =>
      match found with
      | some k => pure (k, .object before.reverse)
      | none => unfit s!"missing field \x60{tag}\x60"
    | some name =>
      if name == tag then
        if found.isSome then unfit s!"duplicate field \x60{tag}\x60"
        else
          colon
          let k ← kind depth
          splitMembers tag kind depth fuel false (some k) before
      else
        colon
        let v ← value depth
        splitMembers tag kind depth fuel false found ((name, v) :: before)

/-- A record with a member `tag` that names its kind, and the other members; or an array whose first
item names the kind, and its other items. -/
def tagged {κ : Type} (expected tag : String) (kind : Decoder κ) : Decoder (κ × Value) :=
  fun depth => do
    let b ← peekValue
    located <|
      if b == 0x5B then
        closedBy (descend depth fun depth => do
          if ← hasItem true then
            let k ← kind depth
            let rest ← itemsFrom (← fuelFor) false [] depth
            pure (k, rest)
          else unfit s!"missing field \x60{tag}\x60") endArray
      else if b == 0x7B then
        closedBy (descend depth fun depth => do
          splitMembers tag kind depth (← fuelFor) true none []) endObject
      else unexpected b expected

end CommitGate.Json.Content
