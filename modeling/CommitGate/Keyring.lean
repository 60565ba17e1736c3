import CommitGate.Envelope
import CommitGate.OpenPgp.Detached
import CommitGate.Signer

/-! # Keyrings

A keyring is what one key block holds: certificates, in the order they stand in.

* `Keyring.ofBytes` reads an armored or binary key block, `Keyring.ofBase64` one in Base64.
* `Keyring.verify` names the certificate that has made a detached signature.

The moment `now` is a parameter of all that depends on time.
-/

namespace CommitGate

open OpenPgp

/-- Certificates, at least one. -/
structure Keyring where
  certificates : List Certificate
  nonempty : certificates ≠ []
deriving DecidableEq, Repr

namespace Keyring

/-- Why a keyring cannot be read, or verifies no signature. -/
inductive Fault where
  | base64 (error : Base64.Error)
  | block (fault : Certificate.Fault)
  /-- The key block holds no certificate. -/
  | empty
  /-- The signature cannot be read. -/
  | signature (fault : Detached.Fault)
  /-- No certificate has made the signature. -/
  | noMatch
  /-- No certificate has the fingerprint of the one that has made the signature. -/
  | unknownSigner (fingerprint : Bytes)
deriving DecidableEq, Repr

/-- The text of a keyring's fault. -/
def Fault.message : Fault → String
  | .base64 error => "failed to decode key: " ++ error.message
  | .block fault => "failed to parse key: " ++ fault.message
  | .empty => "key block contains no public keys"
  | .signature fault => fault.message
  | .noMatch => "no valid signature from keyring"
  | .unknownSigner fingerprint => "unknown signer " ++ Hex.upper fingerprint

/-- The short name of the fault's kind. -/
def Fault.kind : Fault → String
  | .base64 _ => "decode"
  | .block _ => "parse"
  | .empty => "empty"
  | .signature _ | .noMatch | .unknownSigner _ => "verify"

/-! ## Reading -/

/-- The keyring of a key block, which may be armored. -/
def ofBytes (block : Bytes) : Except Fault Keyring := do
  let certificates ← (Certificate.ofBytes block).mapError .block
  if h : certificates = [] then throw .empty else pure ⟨certificates, h⟩

/-- The keyring of a key block in Base64. White space between the symbols does not count. -/
def ofBase64 (text : String) : Except Fault Keyring := do
  let compact := (Utf8.ofString text).filter (!Bytes.isAsciiBlank ·)
  ofBytes (← (Base64.decode compact).mapError .base64)

/-! ## Verifying -/

/-- The key ids of the main keys. -/
def keyIds (k : Keyring) : List String := k.certificates.map fun c => Hex.upper c.id

/-- A certificate as it is reported at the moment `now`. -/
def signer (now : Nat) (c : Certificate) : Signer where
  keyId := Hex.upper c.id
  fingerprint := Base64.toText c.fingerprint
  userId := (c.primaryUserId? now).elim "" Utf8.toStringLossy

/-- The first certificate with a fingerprint, as it is reported: a keyring may hold one more than once. -/
def identify (k : Keyring) (now : Nat) (fingerprint : Bytes) : Except Fault Signer :=
  match k.certificates.find? fun c => c.fingerprint == fingerprint with
  | some c => .ok (signer now c)
  | none => .error (.unknownSigner fingerprint)

/-- Who has made a detached signature over a payload. -/
def verify (k : Keyring) (now : Nat) (payload signature : Bytes) : Except Fault Signer := do
  let signatures ← (Detached.read signature).mapError .signature
  match Detached.signer? now k.certificates payload signatures with
  | some c => k.identify now c.fingerprint
  | none => throw .noMatch

/-- Who has made a signature over a payload, given the key that is trusted for it. That the key is of
no use is a mismatch too. -/
def verifyWith (now : Nat) (base64Key : String) (payload signature : Bytes) :
    Except CommitGate.Fault Signer :=
  match ofBase64 base64Key with
  | .error f => .error (.mismatch ("authorized key is unusable: " ++ f.message))
  | .ok k => (k.verify now payload signature).mapError fun f => .mismatch f.message

end Keyring

end CommitGate
