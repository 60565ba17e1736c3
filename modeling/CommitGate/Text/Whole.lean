import CommitGate.Text.Decimal

/-! # Whole numbers

Natural numbers below 2⁶⁴, written in decimal digits with or without a `+` before them.

* `Whole.read` reads one and says why it cannot be read.

Scope limit: no blanks, separators or signs but that one.
-/

namespace CommitGate.Whole

/-- Why a text is not such a number. -/
inductive Fault where
  | empty
  | badDigit
  | tooLarge
deriving DecidableEq, Repr

/-- The text of a fault. -/
def Fault.message : Fault → String
  | .empty => "cannot parse integer from empty string"
  | .badDigit => "invalid digit found in string"
  | .tooLarge => "number too large to fit in target type"

/-- All numbers are below this one. -/
def limit : Nat := Nat.pow 2 64

/-- The number with one more digit. -/
def push (n : Nat) (c : Char) : Except Fault Nat :=
  if !Decimal.isDigit c then .error .badDigit
  else
    let m := n * 10 + Decimal.digitValue c
    if m < limit then .ok m else .error .tooLarge

/-- The number that digits denote, read from the left. The first fault counts. -/
def ofDigits (s : List Char) : Except Fault Nat :=
  if s.isEmpty then .error .badDigit else s.foldlM push 0

/-- The number that a text denotes. -/
def read : List Char → Except Fault Nat
  | [] => .error .empty
  | '+' :: s => ofDigits s
  | s => ofDigits s

end CommitGate.Whole
