import CommitGate.OpenPgp.Subpacket

/-! # Signature packets

* `Signature.ofBody?` reads the body of a signature packet of version 3 or 4.
* `Signature.issuerKeyId?` is the key id that the signature names as its maker's.

A statement that decides anything is taken from the hashed area, which the signature covers; issuers
and embedded signatures, which only help to find a key or prove themselves, may stand in either area.
-/

namespace CommitGate.OpenPgp

/-- A signature. -/
structure Signature where
  version : Nat
  kind : UInt8
  keyAlgorithm : UInt8
  hashAlgorithm : UInt8
  hashed : Area
  unhashed : Area
  /-- The bytes of the signature that its digest covers. -/
  covered : Bytes
  /-- The integers that the algorithm made. -/
  values : List Bytes
deriving DecidableEq, Repr

namespace Signature

/-- Whether an algorithm makes signatures, as far as its number tells. -/
def canSign (algorithm : UInt8) : Bool := algorithm ∉ [2, 16, 18]

/-- How many integers a signature of an algorithm has, if that is known. -/
def integerCount? (algorithm : UInt8) : Option Nat :=
  if algorithm ∈ [1, 3] then some 1
  else if algorithm ∈ [17, 19, 20, 22] then some 2
  else none

/-- The integers of a signature. -/
def readValues (algorithm : UInt8) : Field (List Bytes) :=
  match integerCount? algorithm with
  | some n => (List.range n).mapM fun _ => Field.integer
  | none => return [← Field.rest]

/-- Read the body of a signature packet, in which signatures of less than `depth` levels may be
embedded. -/
def readDepth : (depth : Nat) → Field Signature
  | 0 => failure
  | depth + 1 => do
    let embedded (bs : Bytes) := ((readDepth depth).run? bs).isSome
    let version ← Field.byte
    if version == 4 then
      let kind ← Field.byte
      let keyAlgorithm ← Field.byte
      let hashAlgorithm ← Field.byte
      let hashedBytes ← Field.take (← Field.number 2)
      let hashed ← (Area.read embedded hashAlgorithm hashedBytes : Option Area)
      let unhashed ←
        (Area.read embedded hashAlgorithm (← Field.take (← Field.number 2)) : Option Area)
      let _ ← Field.take 2
      Field.guardThat (canSign keyAlgorithm)
      let values ← readValues keyAlgorithm
      pure { version := 4, kind, keyAlgorithm, hashAlgorithm, hashed, unhashed, values
             covered := [4, kind, keyAlgorithm, hashAlgorithm]
               ++ Bytes.ofNat 2 hashedBytes.length ++ hashedBytes }
    else if version == 3 then
      Field.guardThat ((← Field.byte) == 5)
      let kind ← Field.byte
      let created ← Field.take 4
      let issuer ← Field.take 8
      let keyAlgorithm ← Field.byte
      let hashAlgorithm ← Field.byte
      let _ ← Field.take 2
      Field.guardThat (canSign keyAlgorithm)
      let values ← readValues keyAlgorithm
      pure { version := 3, kind, keyAlgorithm, hashAlgorithm, values
             hashed := [⟨Subpacket.creationTime, true, created⟩]
             unhashed := [⟨Subpacket.issuer, false, issuer⟩]
             covered := kind :: created }
    else failure

/-- The signature in the body of a packet. -/
def ofBody? (body : Bytes) : Option Signature := (readDepth (body.length + 1)).run? body

/-! ## What a signature says -/

/-- All subpackets. -/
def statements (s : Signature) : Area := s.hashed ++ s.unhashed

/-- When the signature was made, in seconds since 1970. -/
def created? (s : Signature) : Option Nat := s.hashed.number? Subpacket.creationTime

/-- The values of all subpackets with a tag. -/
def valuesOf (s : Signature) (tag : Nat) : List Bytes :=
  (s.statements.filter (·.tag == tag)).map (·.value)

/-- The issuers that have the length of a key id. -/
def issuerKeyIds (s : Signature) : List Bytes :=
  (s.valuesOf Subpacket.issuer).filter (·.length == 8)

/-- The first issuer that has the length of a key id. -/
def issuerKeyId? (s : Signature) : Option Bytes := s.issuerKeyIds.head?

/-- The fingerprints of issuers, without their versions. -/
def issuerFingerprints (s : Signature) : List Bytes :=
  (s.valuesOf Subpacket.issuerFingerprint).map (·.drop 1)

/-- The signatures within the signature. -/
def embedded (s : Signature) : List Signature :=
  (s.valuesOf Subpacket.embeddedSignature).filterMap ofBody?

end Signature

end CommitGate.OpenPgp
