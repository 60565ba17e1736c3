import CommitGate.OpenPgp.Armor

/-! # Packets

OpenPGP data are a sequence of packets: a tag, a length, a body.

* `Header.read` reads a tag and a length, `Header.check` says which of them may start data.
* `Packets.ofBytes` splits data, which may be armored, into packets.

Bytes after the first packet that start no packet become a packet of their own with the tag 0, so that
nothing is lost. A packet counts only if the data reach past its end without a fault.
-/

namespace CommitGate.OpenPgp

/-! ## Tags -/

/-- What a packet holds. -/
inductive Tag where
  | reserved
  | encryptedSessionKey
  | signature
  | passwordSessionKey
  | onePassSignature
  | secretKey
  | publicKey
  | secretSubkey
  | compressed
  | encrypted
  | marker
  | literal
  | trust
  | userId
  | publicSubkey
  | userAttribute
  | protectedEncrypted
  | modificationDetection
  | authenticatedEncrypted
  /-- A number that the standard reserves for private use. -/
  | experimental (code : Nat)
  /-- A number without a meaning. -/
  | unassigned (code : Nat)
deriving DecidableEq, Repr

namespace Tag

/-- The tag with a number. -/
def ofCode : Nat → Tag
  | 0 => .reserved
  | 1 => .encryptedSessionKey
  | 2 => .signature
  | 3 => .passwordSessionKey
  | 4 => .onePassSignature
  | 5 => .secretKey
  | 6 => .publicKey
  | 7 => .secretSubkey
  | 8 => .compressed
  | 9 => .encrypted
  | 10 => .marker
  | 11 => .literal
  | 12 => .trust
  | 13 => .userId
  | 14 => .publicSubkey
  | 17 => .userAttribute
  | 18 => .protectedEncrypted
  | 19 => .modificationDetection
  | 20 => .authenticatedEncrypted
  | n => if 60 ≤ n then .experimental n else .unassigned n

/-- The name of a tag. -/
def name : Tag → String
  | .reserved => "Reserved - a packet tag MUST NOT have this value"
  | .encryptedSessionKey => "Public-Key Encrypted Session Key Packet"
  | .signature => "Signature Packet"
  | .passwordSessionKey => "Symmetric-Key Encrypted Session Key Packet"
  | .onePassSignature => "One-Pass Signature Packet"
  | .secretKey => "Secret-Key Packet"
  | .publicKey => "Public-Key Packet"
  | .secretSubkey => "Secret-Subkey Packet"
  | .compressed => "Compressed Data Packet"
  | .encrypted => "Symmetrically Encrypted Data Packet"
  | .marker => "Marker Packet"
  | .literal => "Literal Data Packet"
  | .trust => "Trust Packet"
  | .userId => "User ID Packet"
  | .publicSubkey => "Public-Subkey Packet"
  | .userAttribute => "User Attribute Packet"
  | .protectedEncrypted => "Sym. Encrypted and Integrity Protected Data Packet"
  | .modificationDetection => "Modification Detection Code Packet"
  | .authenticatedEncrypted => "AEAD Encrypted Data Packet"
  | .experimental code => s!"Private/Experimental Packet {code}"
  | .unassigned code => s!"Unknown Packet {code}"

/-- Whether a packet with the tag holds data of any length, which may come in chunks. -/
def isData : Tag → Bool
  | .compressed | .encrypted | .literal | .protectedEncrypted | .authenticatedEncrypted => true
  | _ => false

/-- Whether a packet with the tag opens a certificate. -/
def opensCertificate : Tag → Bool
  | .secretKey | .publicKey => true
  | _ => false

end Tag

/-! ## Headers -/

/-- How the length of a body is given. -/
inductive BodyLength where
  /-- The whole length. -/
  | full (count : Nat)
  /-- The length of a first chunk, after which another length follows. -/
  | chunk (count : Nat)
  /-- The body reaches to the end of the data. -/
  | toEnd
deriving DecidableEq, Repr

/-- A length in the newer format. -/
def BodyLength.read : Bytes → Option (BodyLength × Bytes)
  | [] => none
  | a :: rest =>
    if a < 192 then some (.full a.toNat, rest)
    else if a < 224 then
      match rest with
      | b :: rest' => some (.full ((a.toNat - 192) * 256 + b.toNat + 192), rest')
      | [] => none
    else if a < 255 then some (.chunk (Nat.pow 2 (a.toNat % 32)), rest)
    else if rest.length < 4 then none
    else some (.full (Bytes.toNat (rest.take 4)), rest.drop 4)

/-- Reading a length takes at least one byte off. -/
theorem BodyLength.length_read_lt {bs rest : Bytes} {l : BodyLength}
    (h : BodyLength.read bs = some (l, rest)) : rest.length < bs.length := by
  unfold BodyLength.read at h
  split at h
  · simp at h
  · split at h
    · simp_all
    · split at h
      · split at h
        · simp only [Option.some.injEq, Prod.mk.injEq] at h
          obtain ⟨_, rfl⟩ := h
          simp only [List.length_cons]
          omega
        · simp at h
      · split at h
        · simp_all
        · split at h
          · simp at h
          · simp only [Option.some.injEq, Prod.mk.injEq] at h
            obtain ⟨_, rfl⟩ := h
            simp only [List.length_drop, List.length_cons]
            omega

/-- The start of a packet. -/
structure Header where
  tag : Tag
  length : BodyLength
deriving DecidableEq, Repr

namespace Header

/-- A length in the older format, in as many bytes as the two low bits of the first byte say. -/
def oldLength (first : UInt8) (rest : Bytes) : Option (BodyLength × Bytes) :=
  if first.toNat % 4 = 3 then some (.toEnd, rest)
  else
    let width := Nat.pow 2 (first.toNat % 4)
    if rest.length < width then none
    else some (.full (Bytes.toNat (rest.take width)), rest.drop width)

/-- Read the start of a packet. -/
def read : Bytes → Except ReadFault (Header × Bytes)
  | [] => .error .endOfInput
  | first :: rest =>
    if first < 0x80 then .error (.noHeader first)
    else
      let tag := Tag.ofCode
        (if first < 0xC0 then first.toNat / 4 % 16 else first.toNat % 64)
      match if first < 0xC0 then oldLength first rest else BodyLength.read rest with
      | none => .error .endOfInput
      | some (length, rest') => .ok (⟨tag, length⟩, rest')

/-- Reading the start of a packet takes at least one byte off. -/
theorem length_read_lt {bs rest : Bytes} {h : Header} (eq : read bs = .ok (h, rest)) :
    rest.length < bs.length := by
  unfold read at eq
  split at eq
  · simp at eq
  · rename_i first tail
    split at eq
    · simp at eq
    · dsimp only at eq
      split at eq
      · simp at eq
      · rename_i l r hl
        simp only [Except.ok.injEq, Prod.mk.injEq] at eq
        obtain ⟨_, rfl⟩ := eq
        split at hl
        · unfold oldLength at hl
          split at hl
          · simp_all
          · dsimp only at hl
            split at hl
            · simp at hl
            · simp only [Option.some.injEq, Prod.mk.injEq] at hl
              obtain ⟨_, rfl⟩ := hl
              rw [List.length_drop, List.length_cons]
              exact Nat.lt_succ_of_le (Nat.sub_le _ _)
        · have := BodyLength.length_read_lt hl
          simp
          omega

/-- Whether a packet that holds no data of any length may have a body of `n` bytes. -/
def admits (tag : Tag) (n : Nat) : Bool :=
  match tag with
  | .signature => 10 ≤ n && n < 10 + 3 * 65536
  | .passwordSessionKey => 3 ≤ n && n < 10240
  | .encryptedSessionKey => 10 ≤ n && n < 10240
  | .onePassSignature => n == 13
  | .publicKey | .publicSubkey | .secretKey | .secretSubkey => 6 < n && n < 1048576
  | .userId => n < 32768
  | .userAttribute => 2 ≤ n
  | .modificationDetection => n == 20
  | .marker => n == 3
  | _ => true

/-- The least length of a body with data. -/
def least : Tag → Nat
  | .compressed => 1
  | .literal => 6
  | .encrypted => 16
  | .protectedEncrypted => 37
  | _ => 0

/-- Why no data can start with the header, or, with `later`, no packet can have it. -/
def check (later : Bool) (h : Header) : Except ReadFault Unit :=
  match h.tag with
  | .reserved => .error (.tag h.tag.name)
  | .unassigned _ => if later then .ok () else .error (.tag h.tag.name)
  | tag =>
    if tag.isData then
      match h.length with
      | .toEnd => .ok ()
      | .chunk n =>
        if n < 512 then .error (.length s!"Partial body length must be at least 512 (got: {n})")
        else .ok ()
      | .full n =>
        if n < least tag then
          .error (.length (tag.name ++ "'s length must be at least " ++ toString (least tag)
            ++ " bytes in length (got: " ++ toString n ++ ")"))
        else .ok ()
    else
      match h.length with
      | .toEnd =>
        .error (.length ("Indeterminite length encoding not allowed for " ++ tag.name ++ " packets"))
      | .chunk _ =>
        .error (.length ("Partial Body Chunking not allowed for " ++ tag.name ++ " packets"))
      | .full n =>
        if admits tag n then .ok ()
        else .error (.length ("Invalid length for " ++ tag.name ++ ": " ++ toString n))

end Header

/-! ## Bodies -/

/-- The chunks of a body, the first of which has `count` bytes, and what follows them. -/
def readChunks (count : Nat) (bs : Bytes) : Option (Bytes × Bytes) :=
  if bs.length < count then none
  else
    match h : BodyLength.read (bs.drop count) with
    | some (.chunk next, rest) =>
      have : rest.length < bs.length := by
        have := BodyLength.length_read_lt h
        simp at this
        omega
      (readChunks next rest).map fun r => (bs.take count ++ r.1, r.2)
    | some (.full next, rest) =>
      if rest.length < next then none
      else some (bs.take count ++ rest.take next, rest.drop next)
    | _ => none
termination_by bs.length

/-- A body, and what follows it, if it is complete. -/
def readBody : BodyLength → Bytes → Option (Bytes × Bytes)
  | .toEnd, bs => some (bs, [])
  | .full n, bs => if bs.length < n then none else some (bs.take n, bs.drop n)
  | .chunk n, bs => readChunks n bs

/-- What follows a body is no longer than what holds both. -/
theorem length_readChunks_le {count : Nat} {bs body rest : Bytes}
    (h : readChunks count bs = some (body, rest)) : rest.length ≤ bs.length := by
  fun_induction readChunks count bs generalizing body rest with
  | case1 => simp at h
  | case2 count bs hc next r hr hlt ih =>
    obtain ⟨⟨b, r'⟩, hb, heq⟩ := Option.map_eq_some_iff.1 h
    simp only [Prod.mk.injEq] at heq
    obtain ⟨_, rfl⟩ := heq
    have := ih hb
    omega
  | case3 => simp at h
  | case4 count bs hc next r hr hn =>
    simp only [Option.some.injEq, Prod.mk.injEq] at h
    obtain ⟨_, rfl⟩ := h
    have := BodyLength.length_read_lt hr
    simp at this ⊢
    omega
  | case5 => simp at h

/-- What follows a body is no longer than what holds both. -/
theorem length_readBody_le {l : BodyLength} {bs body rest : Bytes}
    (h : readBody l bs = some (body, rest)) : rest.length ≤ bs.length := by
  cases l with
  | toEnd =>
    simp only [readBody, Option.some.injEq, Prod.mk.injEq] at h
    obtain ⟨_, rfl⟩ := h
    simp
  | full n =>
    simp only [readBody] at h
    split at h
    · simp at h
    · simp only [Option.some.injEq, Prod.mk.injEq] at h
      obtain ⟨_, rfl⟩ := h
      simp
  | chunk n => exact length_readChunks_le h

/-! ## Splitting -/

/-- A tag with its body. -/
structure Packet where
  tag : Tag
  body : Bytes
deriving DecidableEq, Repr

/-- The packets of some data and the fault that ends them, if any. -/
structure Packets where
  packets : List Packet
  fault : Option ReadFault
deriving DecidableEq, Repr

namespace Packets

/-- One packet more in front. -/
def cons (p : Packet) (ps : Packets) : Packets := { ps with packets := p :: ps.packets }

/-- Whether a number names a kind of signature. -/
def isSignatureKind (b : UInt8) : Bool :=
  b ∈ [0x00, 0x01, 0x02, 0x10, 0x11, 0x12, 0x13, 0x16, 0x18, 0x19, 0x1F, 0x20, 0x28, 0x30, 0x40, 0x50]

/-- Whether a number names an algorithm for keys, or is reserved for private ones. -/
def isKeyAlgorithm (b : UInt8) : Bool :=
  b ∈ [1, 2, 3, 16, 17, 18, 19, 20, 22] || (100 ≤ b && b ≤ 110)

/-- Whether a number names an algorithm for digests, or is reserved for private ones. -/
def isHashAlgorithm (b : UInt8) : Bool :=
  b ∈ [1, 2, 3, 8, 9, 10, 11] || (100 ≤ b && b ≤ 110)

/-- Whether a packet that starts within other bytes is likely to be one. -/
def isPlausible (h : Header) (rest : Bytes) : Bool :=
  match h.tag, h.length with
  | .marker, .full 3 => rest.take 3 == Bytes.ofAscii "PGP"
  | .signature, .full n =>
    match rest with
    | 4 :: kind :: key :: hash :: _ =>
      11 ≤ n && 11 ≤ rest.length && isSignatureKind kind && isKeyAlgorithm key
        && isHashAlgorithm hash
    | _ => false
  | .publicKey, .full n | .publicSubkey, .full n | .secretKey, .full n | .secretSubkey, .full n =>
    match rest with
    | 4 :: _ :: _ :: _ :: _ :: key :: _ => 6 ≤ n && isKeyAlgorithm key
    | _ => false
  | _, _ => false

/-- Whether a packet is likely to start here. -/
def startsPacket (bs : Bytes) : Bool :=
  match Header.read bs with
  | .ok (h, rest) => isPlausible h rest
  | .error _ => false

/-- The bytes before the next likely packet, and those from there on. -/
def resume? : Bytes → Option (Bytes × Bytes)
  | [] => none
  | b :: rest =>
    if startsPacket rest then some ([b], rest)
    else (resume? rest).map fun r => (b :: r.1, r.2)

/-- Resuming takes at least one byte off. -/
theorem length_resume?_lt {bs skipped rest : Bytes} (h : resume? bs = some (skipped, rest)) :
    rest.length < bs.length := by
  induction bs generalizing skipped with
  | nil => simp [resume?] at h
  | cons b tail ih =>
    unfold resume? at h
    split at h
    · simp only [Option.some.injEq, Prod.mk.injEq] at h
      obtain ⟨_, rfl⟩ := h
      simp
    · obtain ⟨⟨s, r⟩, hs, heq⟩ := Option.map_eq_some_iff.1 h
      simp only [Prod.mk.injEq] at heq
      obtain ⟨_, rfl⟩ := heq
      have := ih hs
      simp
      omega

/-- A header that the data before it admit: at the start one that `Header.check` admits, later also
one that is merely plausible. -/
def readHeader (first : Bool) (bs : Bytes) : Except ReadFault (Header × Bytes) := do
  let (h, rest) ← Header.read bs
  match h.check false with
  | .ok () => pure (h, rest)
  | .error fault => if !first && isPlausible h rest then pure (h, rest) else throw fault

/-- A header takes at least one byte off. -/
theorem length_readHeader_lt {first : Bool} {bs rest : Bytes} {h : Header}
    (eq : readHeader first bs = .ok (h, rest)) : rest.length < bs.length := by
  unfold readHeader at eq
  cases hr : Header.read bs with
  | error e => simp [hr, bind, Except.bind] at eq
  | ok p =>
    obtain ⟨h', rest'⟩ := p
    have hlt := Header.length_read_lt hr
    simp only [hr, bind, Except.bind] at eq
    split at eq
    · simp only [pure, Except.pure, Except.ok.injEq, Prod.mk.injEq] at eq
      exact eq.2 ▸ hlt
    · split at eq
      · simp only [pure, Except.pure, Except.ok.injEq, Prod.mk.injEq] at eq
        exact eq.2 ▸ hlt
      · simp [throw, throwThe, MonadExceptOf.throw] at eq

/-- Split data that end with `fault`. -/
def split (fault : Option ReadFault) (first : Bool) (bs : Bytes) : Packets :=
  if bs.isEmpty then ⟨[], fault⟩
  else
    match hh : readHeader first bs with
    | .ok (h, rest) =>
      match hb : readBody h.length rest with
      | none => ⟨[], some (fault.getD .truncated)⟩
      | some (body, after) =>
        have : after.length < bs.length :=
          Nat.lt_of_le_of_lt (length_readBody_le hb) (length_readHeader_lt hh)
        if after.isEmpty && fault.isSome then ⟨[], fault⟩
        else cons ⟨h.tag, body⟩ (split fault false after)
    | .error e =>
      if first then ⟨[], some (if e = .endOfInput then fault.getD e else e)⟩
      else
        match hr : resume? bs with
        | none => ⟨[], some (fault.getD .truncated)⟩
        | some (skipped, after) =>
          have : after.length < bs.length := length_resume?_lt hr
          cons ⟨.reserved, skipped⟩ (split fault false after)
termination_by bs.length

/-- Whether data start like packets, and not like armor. -/
def isBinary (bs : Bytes) : Bool :=
  bs.isEmpty || (readHeader true bs).toOption.isSome

/-- The data of an input, which may be armored. -/
def unwrap (bs : Bytes) : Armor.Contents :=
  if isBinary bs then ⟨bs, none, []⟩ else Armor.read none bs

/-- The packets of the first armor, or of binary data. -/
def ofBytes (bs : Bytes) : Packets :=
  let c := unwrap bs
  split c.fault true c.data

end Packets

end CommitGate.OpenPgp
