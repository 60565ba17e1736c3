import CommitGate.OpenPgp.Validity

/-! # Detached signatures

* `Detached.read` reads the signatures of an input, which may be armored.
* `Detached.signer?` finds the first certificate that has made one of them over a document.
-/

namespace CommitGate.OpenPgp.Detached

/-- Why an input holds no detached signatures. -/
inductive Fault where
  | read (fault : ReadFault)
  /-- A packet is something else than a signature. -/
  | tag (tag : Tag)
  /-- No packet is a signature that can be read. -/
  | nothing
deriving DecidableEq, Repr

/-- The text of a fault. -/
def Fault.message : Fault → String
  | .read fault => fault.message
  | .tag t => "Malformed Message: Expected signature, got " ++ t.name
  | .nothing => "Malformed Message: Malformed OpenPGP message"

/-- The signatures of an input. One that cannot be read does not count. -/
def read (input : Bytes) : Except Fault (List Signature) := do
  let ps := Packets.ofBytes input
  match ps.packets.find? fun p => p.tag ≠ .signature ∧ p.tag ≠ .marker with
  | some p => throw (.tag p.tag)
  | none =>
    match ps.fault with
    | some fault => throw (.read fault)
    | none =>
      let signatures := (ps.packets.filter (·.tag = .signature)).filterMap fun p =>
        Signature.ofBody? p.body
      if signatures.isEmpty then throw .nothing else pure signatures

/-- How many seconds a signature may seem to be from the future. -/
def skew : Nat := 1800

/-- Whether a signature names a key as its maker. -/
def names (s : Signature) (key : Key) : Bool :=
  s.issuerKeyIds.contains key.id || s.issuerFingerprints.contains key.fingerprint

/-- Whether a certificate has made a signature over a document, as seen at the moment `now`. The key
must have been allowed to sign when the signature was made. -/
def isBy (now : Nat) (document : Bytes) (s : Signature) (c : Certificate) : Bool :=
  match s.created?, s.documentBytes? document with
  | some created, some data =>
    s.isAlive skew now && Policy.acceptsSignature s
      && (c.signingKeys created).any fun key => names s key && s.verifies key data
  | _, _ => false

/-- The first certificate that has made one of the signatures. -/
def signer? (now : Nat) (certificates : List Certificate) (document : Bytes)
    (signatures : List Signature) : Option Certificate :=
  signatures.findSome? fun s => certificates.find? (isBy now document s)

end CommitGate.OpenPgp.Detached
