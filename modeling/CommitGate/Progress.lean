import CommitGate.Json.Value
import CommitGate.Log
import CommitGate.Text.Quoted

/-! # Progress of a verification

A verification goes through stages, and what happens in it is told by events.

* `Stage` and `Event` are what can be told; `Event.toJson` and `Event.record` write it.
* `Mark` is an entry of the full account of a verification, which has more than its events.
-/

namespace CommitGate

/-- The stages of a verification, in order. -/
inductive Stage where
  | checkEmail
  | checkThirdPartyKeys
  | requireSignature
  | parseSignature
  | authorize
  | verifySignature
deriving DecidableEq, Repr

namespace Stage

/-- All stages in order. -/
def all : List Stage :=
  [checkEmail, checkThirdPartyKeys, requireSignature, parseSignature, authorize, verifySignature]

/-- The words of a stage's name. -/
def words : Stage → List String
  | checkEmail => ["check", "email", "bypass"]
  | checkThirdPartyKeys => ["check", "third", "party", "keys"]
  | requireSignature => ["require", "signature"]
  | parseSignature => ["parse", "signature"]
  | authorize => ["remote", "authorize"]
  | verifySignature => ["verify", "signature"]

/-- The name in lower case. -/
def name (s : Stage) : String := String.intercalate "_" s.words

/-- The name with capitals. -/
def title (s : Stage) : String := String.join (s.words.map String.capitalize)

end Stage

/-- What can be told about a verification. -/
inductive Event where
  | entered (stage : Stage)
  /-- The committer's address has been looked up in the allowlist. -/
  | emailChecked (email : String) (allowed : Bool)
  /-- The allowlist has `count` keys, and the one with the key id `verified` made the signature. -/
  | keysChecked (count : Nat) (verified : Option String) (signed : Bool)
  /-- The authority is asked whether the key may sign for the committer. -/
  | asking (keyId email : String)
  /-- The authority has answered. -/
  | answered (keyId : String) (authorized : Bool)
  | finished (passed : Bool) (description : String)
deriving DecidableEq, Repr

namespace Event

/-- The stage that an event tells of, if it tells of its beginning. -/
def stage? : Event → Option Stage
  | entered s => some s
  | _ => none

/-- The stages that have begun, in order. -/
def stages (events : List Event) : List Stage := events.filterMap stage?

/-- An event as a JSON object. -/
def toJson : Event → Json.Value
  | entered s => .object [("event", .string "stage_entered"), ("stage", .string s.name)]
  | emailChecked email allowed =>
    .object [("event", .string "email_bypass"), ("email", .string email), ("matched", .bool allowed)]
  | keysChecked count verified signed =>
    .object [("event", .string "third_party_keys"), ("checked", .number (.natural count)),
      ("matched_key_id", verified.elim .null .string), ("signed", .bool signed)]
  | asking keyId email =>
    .object [("event", .string "authorization_requested"), ("key_id", .string keyId),
      ("email", .string email)]
  | answered keyId authorized =>
    .object [("event", .string "authorization_received"), ("key_id", .string keyId),
      ("authorized", .bool authorized)]
  | finished passed description =>
    .object [("event", .string "finished"), ("passed", .bool passed), ("desc", .string description)]

/-- A key id that may be missing, as a record shows it. -/
def keyIdText (keyId : Option String) : String :=
  keyId.elim "None" fun id => "Some(" ++ Quoted.quote id ++ ")"

/-- An event as a record. -/
def record : Event → Log.Record
  | entered s => ⟨.debug, "entering stage", [("stage", .text s.title)]⟩
  | emailChecked email allowed =>
    ⟨.info, "checked email allowlist", [("email", .text email), ("matched", .flag allowed)]⟩
  | keysChecked count verified signed =>
    ⟨.info, "checked third-party keys", [("checked", .number count),
      ("matched_key_id", .text (keyIdText verified)), ("signed", .flag signed)]⟩
  | asking keyId email =>
    ⟨.info, "requesting authorization", [("key_id", .text keyId), ("email", .text email)]⟩
  | answered keyId authorized =>
    ⟨.info, "authorization received", [("key_id", .text keyId), ("authorized", .flag authorized)]⟩
  | finished true description => ⟨.info, "commit trusted", [("desc", .text description)]⟩
  | finished false description => ⟨.warn, "commit not trusted", [("desc", .text description)]⟩

end Event

/-- An entry of the full account of a verification. -/
inductive Mark where
  | event (e : Event)
  /-- A key of the allowlist has not verified the signature. -/
  | keyFailed (index : Nat) (fault : Keyring.Fault)
  /-- The authority has been called. -/
  | called (keyId email : String)
deriving DecidableEq, Repr

namespace Mark

/-- The event that a mark is. -/
def event? : Mark → Option Event
  | event e => some e
  | _ => none

/-- The key id and the address with which the authority has been called. -/
def call? : Mark → Option (String × String)
  | called keyId email => some (keyId, email)
  | _ => none

/-- The record of a mark that is no event. What the authority's client notes about a call is its own
matter, given by `onCall`. -/
def record? (onCall : String → String → List Log.Record) : Mark → List Log.Record
  | event _ => []
  | keyFailed index fault => [Log.keyFailed index fault]
  | called keyId email => onCall keyId email

/-- The records of a mark when events are recorded too. -/
def records (onCall : String → String → List Log.Record) : Mark → List Log.Record
  | event e => [e.record]
  | m => m.record? onCall

end Mark

end CommitGate
