import CommitGate.Bytes
import CommitGate.Yaml.Fault

/-! # YAML tokens

* `Token` is a token with the marks of its start and its end.
-/

namespace CommitGate.Yaml

/-- A scalar: its text, and whether it is written without quotes or indicators. -/
structure Scalar where
  text : List Char
  isPlain : Bool
deriving DecidableEq, Repr

/-- What a token is. -/
inductive TokenKind where
  | streamStart
  | streamEnd
  | version (major minor : Nat)
  | tagDirective (handle start : Bytes)
  | documentStart
  | documentEnd
  | blockSequenceStart
  | blockMappingStart
  | blockEnd
  | flowSequenceStart
  | flowSequenceEnd
  | flowMappingStart
  | flowMappingEnd
  | blockEntry
  | flowEntry
  | key
  | value
  | alias (name : List Char)
  | anchor (name : List Char)
  | tag (handle suffix : Bytes)
  | scalar (s : Scalar)
deriving DecidableEq, Repr

/-- A token. -/
structure Token where
  kind : TokenKind
  start : Mark
  stop : Mark
deriving DecidableEq, Repr

end CommitGate.Yaml
