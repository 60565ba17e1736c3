import CommitGate.Commit.Basic
import CommitGate.Json.Value
import CommitGate.Signer

/-! # Outcomes

What a verification ends with: PASS or FAIL, why, and for which commit.

* `Outcome.pass`, `Outcome.fail` and `Outcome.failAll` build outcomes; a PASS names its trust source
  and a FAIL has at least one error.
* `Outcome.render` is the JSON of an outcome on one line, in which the calendar gives every moment a date.
* `Outcome.written?` is what is written of it: nothing if a moment of the commit cannot be published.

Scope limit: neither the signature nor the message of a commit is published.
-/

namespace CommitGate

/-- Whether a commit is trusted. -/
inductive Verdict where
  | pass
  | fail
deriving DecidableEq, Repr, Inhabited

/-- What made a commit trusted. -/
inductive TrustSource where
  /-- The committer's address is on the allowlist. -/
  | emailAddress (email : String)
  /-- A key on the allowlist made the signature. -/
  | thirdPartyKey (signer : Signer)
  /-- A key that the authority manages for the committer made the signature. -/
  | managedKey (keyId email : String)
deriving DecidableEq, Repr

/-- The published part of a commit. -/
structure Snapshot where
  hash : String
  tree : String
  parents : List String
  author : Person
  committer : Person
  signed : Bool
deriving DecidableEq, Repr

/-- The end of a verification. -/
structure Outcome where
  version : String
  repository : String
  commit : Option Snapshot
  verdict : Verdict
  description : String
  source : Option TrustSource
  errors : List String
deriving DecidableEq, Repr

/-! ## Trust sources -/

namespace TrustSource

/-- The name of the source's kind. -/
def tag : TrustSource → String
  | emailAddress _ => "EMAIL_ADDRESS"
  | thirdPartyKey _ => "THIRD_PARTY_KEY"
  | managedKey _ _ => "BI_MANAGED_KEY"

/-- The source in words. -/
def describe : TrustSource → String
  | emailAddress email => "committer email " ++ email ++ " is allowlisted"
  | thirdPartyKey signer => "signed by allowlisted third-party key " ++ signer.keyId
  | managedKey keyId email => "signed by key " ++ keyId ++ " authorized for " ++ email

/-- The source as a JSON object. -/
def toJson (s : TrustSource) : Json.Value :=
  .object <| ("verified_by", .string s.tag) ::
    match s with
    | emailAddress email => [("email_address", .string email)]
    | thirdPartyKey signer => [("third_party_key", signer.toJson)]
    | managedKey keyId email =>
      [("bi_managed_key",
        .object [("key_id", .string keyId), ("email_address", .string email)])]

end TrustSource

/-! ## Snapshots -/

/-- A person as a JSON object. -/
def Person.toJson (p : Person) : Json.Value :=
  .object [("name", .string p.name), ("email_address", .string p.email),
    ("timestamp", .string p.timestamp.zuluText)]

/-- What is published of a person. -/
def Person.published? (p : Person) : Option Json.Value :=
  if p.timestamp.isWritable then some p.toJson else none

/-- The part of a commit that is published. Empty parent hashes are left out. -/
def Commit.snapshot (c : Commit) : Snapshot where
  hash := c.hash
  tree := c.tree
  parents := c.parents.filter fun h => !h.isEmpty
  author := c.author
  committer := c.committer
  signed := c.isSigned

/-- A snapshot as a JSON object. -/
def Snapshot.toJson (s : Snapshot) : Json.Value :=
  .object [("commit_hash", .string s.hash), ("tree_hash", .string s.tree),
    ("parent_hashes", .array (s.parents.map .string)), ("author", s.author.toJson),
    ("committer", s.committer.toJson), ("signed", .bool s.signed)]

/-- Whether both moments of a snapshot can be published. -/
def Snapshot.isWritable (s : Snapshot) : Bool :=
  s.author.timestamp.isWritable && s.committer.timestamp.isWritable

/-- What is published of a snapshot. -/
def Snapshot.published? (s : Snapshot) : Option Json.Value := if s.isWritable then some s.toJson else none

/-! ## Outcomes -/

/-- The name of a verdict. -/
def Verdict.text : Verdict → String
  | .pass => "PASS"
  | .fail => "FAIL"

namespace Outcome

/-- The version of the document that `render` writes. -/
def currentVersion : String := "1"

/-- A PASS for a trust source. The warnings are faults that did not end the verification. -/
def pass (repository : String) (commit : Option Commit) (source : TrustSource)
    (warnings : List Fault) : Outcome where
  version := currentVersion
  repository := repository
  commit := commit.map Commit.snapshot
  verdict := .pass
  description := source.describe
  source := some source
  errors := warnings.map Fault.message

/-- A FAIL for a fault, which is the last of the errors. -/
def fail (repository : String) (commit : Option Commit) (prior : List Fault) (fatal : Fault) :
    Outcome where
  version := currentVersion
  repository := repository
  commit := commit.map Commit.snapshot
  verdict := .fail
  description := fatal.message
  source := none
  errors := prior.map Fault.message ++ [fatal.message]

/-- A FAIL without a commit for several faults found at once; there is none for no faults. -/
def failAll (repository : String) (faults : List Fault) : Option Outcome :=
  faults.getLast?.map fun last =>
    { fail repository none faults.dropLast last with
      description := String.intercalate "; " (faults.map Fault.message) }

/-- Whether the outcome is a PASS. -/
def passed (o : Outcome) : Bool := o.verdict == .pass

/-- The exit code of a program that ends with the outcome. -/
def exitCode (o : Outcome) : Nat :=
  match o.verdict with
  | .pass => 0
  | .fail => 1

/-- A member that is left out when it has no value. -/
def member? (name : String) (v : Option Json.Value) : List (String × Json.Value) :=
  match v with
  | some v => [(name, v)]
  | none => []

/-- An outcome as a JSON object. -/
def toJson (o : Outcome) : Json.Value :=
  .object <|
    [("version", .string o.version), ("repository", .string o.repository)]
    ++ member? "commit" (o.commit.map Snapshot.toJson)
    ++ [("result", .string o.verdict.text), ("desc", .string o.description)]
    ++ member? "verification_details" (o.source.map TrustSource.toJson)
    ++ [("errors", .array (o.errors.map fun e => .object [("desc", .string e)]))]

/-- An outcome as one line of JSON. -/
def render (o : Outcome) : String := o.toJson.render

/-- Whether all moments of an outcome can be published. -/
def isWritable (o : Outcome) : Bool := o.commit.all Snapshot.isWritable

/-- An outcome as it is written on one line. -/
def written? (o : Outcome) : Option String := if o.isWritable then some o.render else none

end Outcome

end CommitGate
