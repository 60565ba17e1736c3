import CommitGate.Keyring

/-! # Log records

What is noted beside a result. Records are values; showing them is left to the program.

* `Log.Record` is a level, a message and named fields.
-/

namespace CommitGate.Log

/-- How important a record is. -/
inductive Level where
  | debug
  | info
  | warn
deriving DecidableEq, Repr

/-- The value of a field. -/
inductive Value where
  | flag (b : Bool)
  | number (n : Nat)
  | text (s : String)
deriving DecidableEq, Repr

/-- A record. -/
structure Record where
  level : Level
  message : String
  fields : List (String × Value)
deriving DecidableEq, Repr

/-- A key of the allowlist has not verified a signature. -/
def keyFailed (index : Nat) (fault : Keyring.Fault) : Record :=
  ⟨.debug, "third-party key did not verify",
    [("index", .number index), ("error", .text fault.message)]⟩

end CommitGate.Log
