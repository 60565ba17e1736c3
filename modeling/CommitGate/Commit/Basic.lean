import CommitGate.Commit.Object
import CommitGate.Fault
import CommitGate.Timestamp

/-! # Commits to be judged

* `Commit.ofRaw` decodes a commit object into the texts and moments that a verdict reports, the
  signature, and the bytes that the signature covers.

The only fault that decoding can end in is `Fault.commitAccess`. Scope limit: texts are decoded as
UTF-8 with U+FFFD in place of bad bytes; the signed bytes are never decoded.
-/

namespace CommitGate

/-- The author or the committer of a commit. -/
structure Person where
  name : String
  email : String
  timestamp : Timestamp
deriving DecidableEq, Repr

/-- A commit with its signature and the payload that the signature covers. -/
structure Commit where
  hash : String
  tree : String
  parents : List String
  author : Person
  committer : Person
  message : String
  signature : Option String
  payload : Bytes
deriving DecidableEq, Repr

namespace Commit

/-- Whether a signature is attached. -/
def isSigned (c : Commit) : Bool := c.signature.isSome

/-- The signature in bytes. -/
def signatureBytes (c : Commit) : Option Bytes := c.signature.map Utf8.ofString

/-- The person of an identity whose moment and time zone have a timestamp. -/
def personOf (i : Identity) : Except Fault Person :=
  if !Timestamp.isOffset i.zone.offset then
    .error (.commitAccess s!"invalid timezone offset: {i.zone.offset}")
  else if !Timestamp.inRange i.seconds then
    .error (.commitAccess s!"invalid timestamp: {i.seconds}")
  else
    .ok { name := Utf8.toStringLossy i.name
          email := Utf8.toStringLossy i.email
          timestamp := ⟨i.seconds, 0, i.zone.offset⟩ }

/-- The text of a signature that is not blank. -/
def signatureText (value : Bytes) : Option String :=
  let text := Utf8.decodeLossy value
  if Blank.isAllBlank text then none else some (String.ofList text)

/-- The commit that a raw object holds. -/
def ofRaw (hash : String) (raw : Bytes) : Except Fault Commit := do
  let object ← match Object.read? raw with
    | some object => pure object
    | none => throw (.commitAccess s!"failed to decode commit {hash}: object parsing failed")
  let payload ← match object.withoutSignatures.write with
    | .ok payload => pure payload
    | .error e =>
      throw (.commitAccess ("failed to encode commit " ++ hash ++ ": " ++ e.message))
  let author ← personOf object.author
  let committer ← personOf object.committer
  pure { hash, payload, author, committer
         tree := Utf8.toStringLossy object.tree
         parents := object.parents.map Utf8.toStringLossy
         message := Utf8.toStringLossy object.message
         signature := object.signature?.bind signatureText }

end Commit

end CommitGate
