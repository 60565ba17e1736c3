import CommitGate.Json.Value

/-! # Signers

The certificate whose key made a signature, as it is reported. -/

namespace CommitGate

/-- A certificate: the key id of its primary key in hexadecimal, the fingerprint of that key in
base64, and the primary user id, which is empty if there is none. -/
structure Signer where
  keyId : String
  fingerprint : String
  userId : String
deriving DecidableEq, Repr, Inhabited

/-- A signer as a JSON object. -/
def Signer.toJson (s : Signer) : Json.Value :=
  .object [("key_id", .string s.keyId), ("fingerprint", .string s.fingerprint),
    ("user_id", .string s.userId)]

end CommitGate
