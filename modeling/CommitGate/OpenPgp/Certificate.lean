import CommitGate.OpenPgp.Packet
import CommitGate.OpenPgp.Statement

/-! # Certificates

A certificate is a key with user ids and subkeys, each bound to it by signatures of that key.

* `Certificate.ofBytes` reads all certificates of an input.
* `Certificate.bind` keeps the signatures that the key has really made, sorted by what they are about,
  wherever in the certificate they stand.
-/

namespace CommitGate.OpenPgp

/-! ## Packets of a certificate -/

/-- What a packet contributes to a certificate. -/
inductive Part where
  | primary (key : Key)
  | subkey (key : Key)
  | userId (value : Bytes)
  | signature (signature : Signature)
  /-- Something that is carried along. -/
  | other
  /-- A packet that no certificate starts with and that is not part of one. -/
  | foreign
deriving DecidableEq, Repr

/-- What a packet contributes. One that cannot be read is carried along. -/
def Part.ofPacket (p : Packet) : Part :=
  match p.tag with
  | .publicKey => (Key.ofBody? false p.body).elim .other .primary
  | .secretKey => (Key.ofBody? true p.body).elim .other .primary
  | .publicSubkey => (Key.ofBody? false p.body).elim .other .subkey
  | .secretSubkey => (Key.ofBody? true p.body).elim .other .subkey
  | .userId => .userId p.body
  | .signature => (Signature.ofBody? p.body).elim .other .signature
  | .literal | .compressed | .encrypted | .protectedEncrypted | .authenticatedEncrypted
  | .encryptedSessionKey | .passwordSessionKey | .onePassSignature | .modificationDetection =>
    .foreign
  | _ => .other

/-- The packets of a certificate in the order they stand in. -/
structure Block where
  primary : Key
  subkeys : List Key
  userIds : List Bytes
  signatures : List Signature
deriving DecidableEq, Repr

/-- Why a sequence of packets is no certificate. -/
inductive BlockFault where
  /-- The first packet is none that a certificate starts with. -/
  | start (tag : Tag)
  /-- No packet is part of a certificate. -/
  | nothing
deriving DecidableEq, Repr

/-- The text of a block's fault. -/
def BlockFault.message (f : BlockFault) : String :=
  let what := match f with
    | .start tag => "token \x60" ++ tag.name ++ "\x60 found at 0:0"
    | .nothing => "EOF found at 0"
  "Malformed Cert: Unrecognized " ++ what ++ "\nExpected one of PUBLIC_KEY or SECRET_KEY"

namespace Block

/-- The packets of a certificate, of which the first is its key. -/
def ofPackets (packets : List Packet) : Except BlockFault Block :=
  let parts := (packets.map fun p => (p.tag, Part.ofPacket p)).filter (·.2 ≠ .foreign)
  match parts with
  | [] => .error .nothing
  | (_, .primary key) :: rest =>
    let rest := rest.map (·.2)
    .ok { primary := key
          subkeys := (rest.filterMap fun | .subkey k => some k | _ => none).eraseDups
          userIds := (rest.filterMap fun | .userId u => some u | _ => none).eraseDups
          signatures := rest.filterMap fun | .signature s => some s | _ => none }
  | (tag, _) :: _ => .error (.start tag)

/-- Split packets before each one that opens a certificate. Markers do not count. -/
def group : List Packet → List (List Packet)
  | [] => []
  | p :: rest =>
    if p.tag = .marker then group rest
    else
      match rest.find? (·.tag ≠ .marker), group rest with
      | some next, g :: gs =>
        if next.tag.opensCertificate then [p] :: g :: gs else (p :: g) :: gs
      | _, gs => [p] :: gs

end Block

/-! ## Bound components -/

/-- Something with the key's own signatures over it, newest first. -/
structure Bound (α : Type) where
  item : α
  bindings : List Signature
  revocations : List Signature
deriving DecidableEq, Repr

/-- A certificate. -/
structure Certificate where
  primary : Bound Key
  userIds : List (Bound Bytes)
  subkeys : List (Bound Key)
deriving DecidableEq, Repr

namespace Certificate

/-- The fingerprint of the main key. -/
def fingerprint (c : Certificate) : Bytes := c.primary.item.fingerprint

/-- The key id of the main key. -/
def id (c : Certificate) : Bytes := c.primary.item.id

/-- The bytes that stand for a user id where it is part of a digest. -/
def hashedUserId (value : Bytes) : Bytes := 0xB4 :: Bytes.ofNat 4 value.length ++ value

/-- Whether a signature may be one by a key: it names that key, or none. -/
def mayBeBy (s : Signature) (key : Key) : Bool :=
  (s.issuerKeyIds.isEmpty && s.issuerFingerprints.isEmpty)
    || key.id ∈ s.issuerKeyIds || key.fingerprint ∈ s.issuerFingerprints

/-- Whether a signature by the main key over a subkey holds. One that lets the subkey sign must hold
a signature by the subkey in turn. -/
def bindsSubkey (primary subkey : Key) (s : Signature) : Bool :=
  let data := primary.hashed ++ subkey.hashed
  s.verifies primary data
    && (s.mayKeySign? != some true
      || s.embedded.any fun b => b.kind == Signature.backKind && b.verifies subkey data)

/-- Put newer signatures in front. -/
def newestFirst (signatures : List Signature) : List Signature :=
  signatures.mergeSort fun a b => b.created?.getD 0 ≤ a.created?.getD 0

/-- Keep the signatures that the main key has made, each with what it is about. -/
def bind (b : Block) : Certificate :=
  let own := newestFirst (b.signatures.filter (mayBeBy · b.primary))
  let made (data : Bytes) (s : Signature) := s.verifies b.primary data
  let key := b.primary.hashed
  { primary := {
      item := b.primary
      bindings := own.filter fun s => s.kind == Signature.directKind && made key s
      revocations := own.filter fun s => s.kind == Signature.keyRevocationKind && made key s }
    userIds := b.userIds.map fun u => {
      item := u
      bindings := own.filter fun s =>
        Signature.isUserIdKind s.kind && made (key ++ hashedUserId u) s
      revocations := own.filter fun s =>
        s.kind == Signature.userIdRevocationKind && made (key ++ hashedUserId u) s }
    subkeys := b.subkeys.map fun k => {
      item := k
      bindings := own.filter fun s =>
        s.kind == Signature.subkeyKind && bindsSubkey b.primary k s
      revocations := own.filter fun s =>
        s.kind == Signature.subkeyRevocationKind && made (key ++ k.hashed) s } }

/-! ## Reading -/

/-- Why certificates cannot be read. -/
inductive Fault where
  | read (fault : ReadFault)
  | block (fault : BlockFault)
deriving DecidableEq, Repr

/-- The text of a fault. -/
def Fault.message : Fault → String
  | .read fault => fault.message
  | .block fault => fault.message

/-- The packets of an input. After an armor with packets the rest is read as another input, which may
hold nothing. -/
def allPackets : (fuel : Nat) → Bytes → Packets
  | 0, _ => ⟨[], none⟩
  | fuel + 1, bs =>
    let c := Packets.unwrap bs
    let ps := Packets.split c.fault true c.data
    if ps.packets.isEmpty || ps.fault.isSome || c.rest.isEmpty then ps
    else
      match allPackets fuel c.rest with
      | ⟨[], some .endOfInput⟩ => ps
      | more => ⟨ps.packets ++ more.packets, more.fault⟩

/-- The blocks of packets that end with a fault or without. The last block is complete only if no
fault follows. -/
def blocks (ps : Packets) : Except Fault (List Block) := do
  let groups := Block.group ps.packets
  let complete := if ps.fault.isSome then groups.dropLast else groups
  let bs ← complete.mapM fun g => (Block.ofPackets g).mapError .block
  match ps.fault with
  | some fault => throw (.read fault)
  | none => pure bs

/-- All certificates of an input, which may be armored. -/
def ofBytes (bs : Bytes) : Except Fault (List Certificate) :=
  (blocks (allPackets (bs.length + 1) bs)).map fun blocks => blocks.map bind

end Certificate

end CommitGate.OpenPgp
