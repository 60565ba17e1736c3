import CommitGate.OpenPgp.Certificate
import CommitGate.OpenPgp.Policy

/-! # Certificates at a moment

Whether a key may sign depends on the moment: on the newest accepted signature that binds it then, on
what that signature says, and on revocations.

* `Certificate.signingKeys` lists the keys that may make a signature at a moment.
* `Certificate.primaryUserId?` is the user id that stands for the certificate at a moment.
-/

namespace CommitGate.OpenPgp

/-! ## Bindings and revocations -/

/-- Whether a binding of a subkey that lets it sign holds an accepted signature by the subkey. -/
def Signature.isBacked (s : Signature) (moment : Nat) : Bool :=
  s.kind != Signature.subkeyKind || s.mayKeySign? != some true
    || s.embedded.any fun b => b.isAlive 0 moment && Policy.acceptsSignature b

namespace Bound

variable {α : Type}

/-- The newest binding that is valid at a moment and accepted. -/
def binding? (b : Bound α) (moment : Nat) : Option Signature :=
  b.bindings.find? fun s =>
    s.isAlive 0 moment && Policy.acceptsSignature s && s.isBacked moment

/-- Whether a revocation counts at a moment. With `final` a hard one counts always; any other must be
valid then and not be older than the binding. -/
def isRevokedBy (final : Bool) (binding : Option Signature) (moment : Nat) (r : Signature) : Bool :=
  Policy.acceptsSignature r
    && ((final && r.isHard)
      || ((binding.bind Signature.created?).getD 0 ≤ r.created?.getD 0 && r.isAlive 0 moment))

/-- Whether something is revoked at a moment. -/
def isRevoked (b : Bound α) (final : Bool) (binding : Option Signature) (moment : Nat) : Bool :=
  b.revocations.any (isRevokedBy final binding moment)

end Bound

namespace Certificate

/-! ## User ids -/

/-- The order of byte sequences in a dictionary. -/
def precedes : Bytes → Bytes → Bool
  | [], _ => true
  | _ :: _, [] => false
  | a :: as, b :: bs => if a = b then precedes as bs else a < b

/-- A user id with its binding at a moment. -/
structure Candidate where
  userId : Bytes
  binding : Signature
  isRevoked : Bool
deriving DecidableEq, Repr

/-- Whether `a` rather than `b` stands for a certificate: one that is not revoked, then one that calls
itself the main one, then the one with the newer binding, then the first in a dictionary. -/
def Candidate.beats (a b : Candidate) : Bool :=
  if a.isRevoked != b.isRevoked then b.isRevoked
  else if a.binding.isPrimary != b.binding.isPrimary then a.binding.isPrimary
  else if a.binding.created? != b.binding.created? then
    b.binding.created?.getD 0 < a.binding.created?.getD 0
  else precedes a.userId b.userId

/-- The user ids that are bound at a moment. -/
def candidates (c : Certificate) (moment : Nat) : List Candidate :=
  c.userIds.filterMap fun u => (u.binding? moment).map fun s =>
    ⟨u.item, s, u.isRevoked false (some s) moment⟩

/-- The best of some candidates. -/
def best : List Candidate → Option Candidate
  | [] => none
  | a :: rest =>
    match best rest with
    | none => some a
    | some b => some (if a.beats b then a else b)

/-- The user id that stands for the certificate at a moment. -/
def primary? (c : Certificate) (moment : Nat) : Option Candidate := best (c.candidates moment)

/-! ## Keys -/

/-- The signature that binds the main key at a moment: the one over the main user id, or else the one
over the key alone. -/
def primaryBinding? (c : Certificate) (moment : Nat) : Option Signature :=
  ((c.primary? moment).map (·.binding)).or (c.primary.binding? moment)

/-- Whether a key with a binding is within its lifetime at a moment. Without a lifetime in the
binding, one in the signature over the main key alone counts. -/
def isAlive (c : Certificate) (key : Key) (binding : Signature) (moment : Nat) : Bool :=
  let telling :=
    if (binding.hashed.number? Subpacket.keyLifetime).isSome then some binding
    else c.primary.binding? moment
  telling.all fun s => s.keepsAlive key moment

/-- Whether a key with a binding may sign at a moment. -/
def maySign (c : Certificate) (binding : Signature) (moment : Nat) : Bool :=
  (binding.mayKeySign?.or ((c.primary.binding? moment).bind Signature.mayKeySign?)).getD false

/-- The main key's binding at a moment, if the certificate as a whole is valid then. -/
def valid? (c : Certificate) (moment : Nat) : Option Signature :=
  (c.primaryBinding? moment).filter fun _ => Policy.acceptsKey c.primary.item

/-- The keys that may sign at a moment. -/
def signingKeys (c : Certificate) (moment : Nat) : List Key :=
  match c.valid? moment with
  | none => []
  | some binding =>
    if c.isAlive c.primary.item binding moment
        && !c.primary.isRevoked true (some binding) moment then
      let primary := if c.maySign binding moment then [c.primary.item] else []
      primary ++ c.subkeys.filterMap fun k => do
        let s ← k.binding? moment
        if Policy.acceptsKey k.item && c.isAlive k.item s moment
            && !k.isRevoked true (some s) moment && c.maySign s moment then some k.item else none
    else []

/-- The user id that stands for the certificate at a moment, if the certificate is valid then. -/
def primaryUserId? (c : Certificate) (moment : Nat) : Option Bytes :=
  (c.valid? moment).bind fun _ => (c.primary? moment).map (·.userId)

end Certificate

end CommitGate.OpenPgp
