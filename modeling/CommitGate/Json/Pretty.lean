import CommitGate.Json.Value

/-! # JSON over several lines

* `Json.Value.pretty` writes a value with each item and member on a line of its own.

What is within an array or an object stands two spaces further to the right. An empty one stays on its line.
-/

namespace CommitGate.Json.Value

/-- A line's beginning, `depth` levels deep. -/
def newLine (depth : Nat) : List Char := '\n' :: List.replicate (2 * depth) ' '

mutual

/-- A value that begins `depth` levels deep. -/
def prettyChars (depth : Nat) : Value → List Char
  | .array [] => ['[', ']']
  | .array (v :: items) =>
    '[' :: newLine (depth + 1) ++ prettyChars (depth + 1) v ++ prettyItems (depth + 1) items
      ++ newLine depth ++ [']']
  | .object [] => ['\x7b', '\x7d']
  | .object ((k, v) :: members) =>
    '\x7b' :: newLine (depth + 1) ++ quote k.toList ++ [':', ' '] ++ prettyChars (depth + 1) v
      ++ prettyMembers (depth + 1) members ++ newLine depth ++ ['\x7d']
  | v => v.chars

/-- Further items of an array. -/
def prettyItems (depth : Nat) : List Value → List Char
  | [] => []
  | v :: items => ',' :: newLine depth ++ prettyChars depth v ++ prettyItems depth items

/-- Further members of an object. -/
def prettyMembers (depth : Nat) : List (String × Value) → List Char
  | [] => []
  | (k, v) :: members =>
    ',' :: newLine depth ++ quote k.toList ++ [':', ' '] ++ prettyChars depth v
      ++ prettyMembers depth members

end

/-- A value as a string over several lines. -/
def pretty (v : Value) : String := String.ofList (prettyChars 0 v)

end CommitGate.Json.Value
