import CommitGate.Keyring

/-! # Keys of third parties

An allowlist may name keys whose signatures are trusted without asking anyone.

* `ThirdParty.check` tries keyrings in order and stops at the first that verifies a signature.
-/

namespace CommitGate.ThirdParty

/-- A keyring with the place of its entry in the allowlist. -/
structure ListedKey where
  index : Nat
  keyring : Keyring
deriving DecidableEq, Repr

/-- What trying the keys comes to. -/
inductive Check where
  /-- The keyring of the entry `index` verifies the signature. -/
  | verified (index : Nat) (signer : Signer)
  /-- There is a signature, and no keyring verifies it. -/
  | noMatch
  /-- There is no signature. -/
  | unsigned
deriving DecidableEq, Repr

/-- Try keyrings in order. The second part lists those that failed before the first success. -/
def tryKeys (now : Nat) (payload signature : Bytes) :
    List ListedKey → Check × List (Nat × Keyring.Fault)
  | [] => (.noMatch, [])
  | k :: rest =>
    match k.keyring.verify now payload signature with
    | .ok signer => (.verified k.index signer, [])
    | .error fault =>
      let (check, failures) := tryKeys now payload signature rest
      (check, (k.index, fault) :: failures)

/-- Try keyrings on a signature, if there is one. -/
def check (now : Nat) (payload : Bytes) (signature : Option Bytes) (keys : List ListedKey) :
    Check × List (Nat × Keyring.Fault) :=
  match signature with
  | none => (.unsigned, [])
  | some s => tryKeys now payload s keys

end CommitGate.ThirdParty
