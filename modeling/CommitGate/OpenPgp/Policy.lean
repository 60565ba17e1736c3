import CommitGate.OpenPgp.Statement

/-! # Which algorithms and statements are accepted

* `Policy.acceptsSignature` judges a signature by its digest algorithm and its critical statements.
* `Policy.acceptsKey` judges a key by its algorithm and size.

Scope limit: the rules are those of the years from 2025 to 2030 and do not depend on the moment.
-/

namespace CommitGate.OpenPgp.Policy

/-- The tags that a critical statement may have. -/
def knownTags : List Nat :=
  [2, 3, 4, 5, 6, 7, 9, 11, 12, 16, 21, 22, 23, 24, 25, 26, 27, 28, 29, 30, 32, 33, 34, 35]

/-- Whether a signature's digest algorithm is accepted. A revocation may also be older. -/
def acceptsHash (s : Signature) : Bool :=
  match Hash.ofCode? s.hashAlgorithm with
  | some .sha1 => Signature.isRevocationKind s.kind
  | some _ => true
  | none => false

/-- Whether a signature counts. -/
def acceptsSignature (s : Signature) : Bool :=
  s.version = 4 && acceptsHash s && s.hashed.all fun p => !p.isCritical || p.tag ∈ knownTags

/-- Whether a key's signatures count. -/
def acceptsKey (k : Key) : Bool :=
  match k.material with
  | .rsa modulus _ => 2048 ≤ Field.bitLength modulus
  | .dsa values => 2048 ≤ Field.bitLength (values.headD [])
  | .ecdsa curve _ => (Key.curve? curve).isSome
  | .eddsa curve _ => curve == Key.edwards
  | .ecdh curve _ => curve == Key.montgomery || (Key.curve? curve).isSome
  | _ => false

end CommitGate.OpenPgp.Policy
