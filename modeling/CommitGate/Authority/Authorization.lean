import CommitGate.Json.Decode

/-! # Authorizations

What the authority answers when asked whether a key may sign for a committer.

* `Authorization.decode` reads an answer; what is absent from it grants nothing.
-/

namespace CommitGate

/-- A public key as the authority holds it: its id, and the transferable key in base64. -/
structure CandidateKey where
  id : String
  base64 : String
deriving DecidableEq, Repr, Inhabited

/-- An answer of the authority: the verdict, an explanation, and the key that may sign. -/
structure Authorization where
  authorized : Bool
  message : String
  key : CandidateKey
deriving DecidableEq, Repr, Inhabited

namespace Authorization

open Json.Decode

/-- The answer that says nothing. -/
def blank : Authorization := ⟨false, "", ⟨"", ""⟩⟩

/-- The answer that grants a key. -/
def granted (id base64 message : String) : Authorization := ⟨true, message, ⟨id, base64⟩⟩

/-- The answer that refuses a key. -/
def denied (message : String) : Authorization := ⟨false, message, ⟨"", ""⟩⟩

/-- The decoder of a key. -/
def keyDecoder : Decoder CandidateKey :=
  record "struct CandidateKey" ⟨"", ""⟩
    [.optional "id" text fun k s => { k with id := s },
     .optional "base64_key" text fun k s => { k with base64 := s }]

/-- The decoder of an answer. -/
def decoder : Decoder Authorization :=
  record "struct Authorization" blank
    [.optional "authorized" bool fun a b => { a with authorized := b },
     .optional "message" text fun a s => { a with message := s },
     .optional "pgp_key" keyDecoder fun a k => { a with key := k }]

/-- The answer that a text holds. -/
def decode (text : List Char) : Except String Authorization := run decoder (Utf8.encode text)

end Authorization

end CommitGate
