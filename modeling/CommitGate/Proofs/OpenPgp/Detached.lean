import CommitGate.Proofs.Envelope
import CommitGate.Proofs.ThirdParty

/-! # Which key has made a detached signature

A signature names keys in two ways, by key ids and by fingerprints, and in two areas, of which it covers
one. So the names need not agree, and none of them need be the maker's own as long as one is:

* `Detached.IsMaker` is what makes a key the maker of a signature, told without the search;
* `Keyring.verifies_iff`: a keyring verifies an input exactly if one of its keys is the maker of a
  signature there;
* `Detached.IsMaker.id_mem`: the maker's key id is among those that the signature names;
* `Detached.read_of_parse`: an envelope whose text begins with its header line is read from the only
  signature there. With blanks in front, the two readers may look at different parts of the text.
-/

namespace CommitGate

namespace OpenPgp

/-! ## Keys and their names -/

/-- The main key and the subkeys. -/
def Certificate.keys (c : Certificate) : List Key := c.primary.item :: c.subkeys.map Bound.item

/-- Keys that may sign are keys of the certificate. -/
theorem Certificate.mem_keys_of_mem_signingKeys {c : Certificate} {moment : Nat} {key : Key}
    (h : key ∈ c.signingKeys moment) : key ∈ c.keys := by
  unfold signingKeys at h
  split at h
  · cases h
  · split at h
    · rcases List.mem_append.1 h with h | h
      · split at h
        · rw [List.mem_singleton.1 h]
          exact List.mem_cons_self ..
        · cases h
      · obtain ⟨k, hk, h⟩ := List.mem_filterMap.1 h
        obtain ⟨s, -, h⟩ := Option.bind_eq_some_iff.1 h
        split at h
        · obtain rfl := Option.some.inj h
          exact List.mem_cons_of_mem _ (List.mem_map_of_mem hk)
        · cases h
    · cases h

/-- The key ids that a signature names: those of its issuers, and the ends of their fingerprints. -/
def Signature.namedIds (s : Signature) : List Bytes :=
  s.issuerKeyIds ++ s.issuerFingerprints.map (·.drop 12)

/-- All names in the signature are names of one key. -/
def Signature.NamesOneKey (s : Signature) : Prop :=
  ∀ id ∈ s.namedIds, ∀ other ∈ s.namedIds, id = other

namespace Detached

/-- The key of the certificate has made the signature over the document: the signature names it, counts
at the moment `now`, and holds by the key, which was allowed to sign when it was made. -/
structure IsMaker (now : Nat) (c : Certificate) (document : Bytes) (s : Signature) (key : Key) :
    Prop where
  allowed : ∃ created, s.created? = some created ∧ key ∈ c.signingKeys created
  named : names s key = true
  alive : s.isAlive skew now = true
  accepted : Policy.acceptsSignature s = true
  holds : ∃ data, s.documentBytes? document = some data ∧ s.verifies key data = true

variable {now : Nat} {c : Certificate} {document : Bytes} {s : Signature} {key : Key}

theorem IsMaker.mem_keys (h : IsMaker now c document s key) : key ∈ c.keys := by
  obtain ⟨created, -, hk⟩ := h.allowed
  exact Certificate.mem_keys_of_mem_signingKeys hk

/-- The maker's key id is one of those that the signature names. -/
theorem IsMaker.id_mem (h : IsMaker now c document s key) : key.id ∈ s.namedIds := by
  have named := h.named
  rw [names, Bool.or_eq_true, List.contains_iff_mem, List.contains_iff_mem] at named
  rcases named with named | named
  · exact List.mem_append_left _ named
  · exact List.mem_append_right _ (List.mem_map_of_mem named)

/-- The search asks of a certificate what makes one of its keys the maker. -/
theorem isBy_iff : isBy now document s c = true ↔ ∃ key, IsMaker now c document s key := by
  unfold isBy
  split
  · rename_i created data hc hd
    simp only [Bool.and_eq_true, List.any_eq_true]
    constructor
    · rintro ⟨⟨alive, accepted⟩, key, allowed, named, verifies⟩
      exact ⟨key, ⟨created, hc, allowed⟩, named, alive, accepted, data, hd, verifies⟩
    · rintro ⟨key, ⟨created', hc', allowed⟩, named, alive, accepted, data', hd', verifies⟩
      obtain rfl := Option.some.inj (hc.symm.trans hc')
      obtain rfl := Option.some.inj (hd.symm.trans hd')
      exact ⟨⟨alive, accepted⟩, key, allowed, named, verifies⟩
  · rename_i none
    constructor
    · intro h
      cases h
    · rintro ⟨key, ⟨created, hc, -⟩, -, -, -, data, hd, -⟩
      exact absurd hd (none created data hc)

/-- A signer is found exactly if some certificate has the maker of some signature. -/
theorem exists_signer?_iff {certificates : List Certificate} {signatures : List Signature} :
    (∃ c, signer? now certificates document signatures = some c) ↔
      ∃ s ∈ signatures, ∃ c ∈ certificates, ∃ key, IsMaker now c document s key := by
  simp only [signer?, ← Option.isSome_iff_exists, List.findSome?_isSome_iff, List.find?_isSome, isBy_iff]

/-- The certificate that is found has the maker of some signature. -/
theorem exists_of_signer? {certificates : List Certificate} {signatures : List Signature}
    (h : signer? now certificates document signatures = some c) :
    ∃ s ∈ signatures, c ∈ certificates ∧ ∃ key, IsMaker now c document s key := by
  obtain ⟨s, hs, hc⟩ := List.exists_of_findSome?_eq_some h
  exact ⟨s, hs, List.mem_of_find?_eq_some hc, isBy_iff.1 (List.find?_some hc)⟩

end Detached

end OpenPgp

open OpenPgp

/-- Who has the fingerprint of a certificate is never unknown. -/
theorem Keyring.exists_identify {k : Keyring} {c : Certificate} (h : c ∈ k.certificates) (now : Nat) :
    ∃ d ∈ k.certificates, d.fingerprint = c.fingerprint ∧
      k.identify now c.fingerprint = .ok (signer now d) := by
  unfold identify
  cases hd : k.certificates.find? fun d => d.fingerprint == c.fingerprint with
  | none => exact absurd (beq_self_eq_true c.fingerprint) (List.find?_eq_none.1 hd c h)
  | some d =>
    have same := List.find?_some hd
    exact ⟨d, List.mem_of_find?_eq_some hd, beq_iff_eq.1 same, rfl⟩

/-- A signer is named exactly if a certificate is found, and then who has its fingerprint. -/
theorem Keyring.verify_eq_ok_iff {k : Keyring} {now : Nat} {payload signature : Bytes} {signer : Signer} :
    k.verify now payload signature = .ok signer ↔
      ∃ signatures c, Detached.read signature = .ok signatures ∧
        Detached.signer? now k.certificates payload signatures = some c ∧
        k.identify now c.fingerprint = .ok signer := by
  simp only [verify, bind_eq_ok_iff, mapError_eq_ok_iff]
  constructor
  · rintro ⟨signatures, hr, h⟩
    split at h
    · rename_i c hc
      exact ⟨signatures, c, hr, hc, h⟩
    · cases h
  · rintro ⟨signatures, c, hr, hc, h⟩
    exact ⟨signatures, hr, by rw [hc]; exact h⟩

/-- A keyring verifies an input exactly if one of its keys is the maker of a signature there. -/
theorem Keyring.verifies_iff {k : Keyring} {now : Nat} {payload signature : Bytes} :
    k.Verifies now payload signature ↔ ∃ signatures, Detached.read signature = .ok signatures ∧
      ∃ s ∈ signatures, ∃ c ∈ k.certificates, ∃ key, Detached.IsMaker now c payload s key := by
  simp only [Verifies, verify_eq_ok_iff, ← Detached.exists_signer?_iff]
  constructor
  · rintro ⟨signer, signatures, c, hr, hc, -⟩
    exact ⟨signatures, hr, c, hc⟩
  · rintro ⟨signatures, hr, c, hc⟩
    obtain ⟨s, -, member, -⟩ := Detached.exists_of_signer? hc
    obtain ⟨d, -, -, hd⟩ := exists_identify member now
    exact ⟨_, signatures, c, hr, hc, hd⟩

/-! ## The signature of an envelope -/

namespace OpenPgp

namespace Armor

/-- The header line of a signature. -/
def signatureLine : Bytes := Bytes.ofAscii "-----BEGIN PGP SIGNATURE-----"

theorem after?_append (start rest : Bytes) : after? start (start ++ rest) = some rest := by
  rw [after?, if_pos (List.isPrefixOf_iff_prefix.2 ⟨rest, rfl⟩), List.drop_left]

theorem dropDashes_dash (rest : Bytes) : dropDashes (0x2D :: rest) = dropDashes rest := by
  rw [dropDashes]
  rfl

theorem dropDashes_letter (rest : Bytes) : dropDashes (0x42 :: rest) = 0x42 :: rest := by
  rw [dropDashes]
  rfl

theorem header?_signatureLine (rest : Bytes) :
    header? (signatureLine ++ rest) = some (.signature, dropDashes rest) := by
  have dashes : dropDashes (signatureLine ++ rest) =
      Bytes.ofAscii "BEGIN PGP " ++ (Bytes.ofAscii "SIGNATURE-----" ++ rest) := by
    have line : signatureLine ++ rest = 0x2D :: 0x2D :: 0x2D :: 0x2D :: 0x2D :: 0x42 ::
      (Bytes.ofAscii "EGIN PGP SIGNATURE-----" ++ rest) := rfl
    rw [line, dropDashes_dash, dropDashes_dash, dropDashes_dash, dropDashes_dash, dropDashes_dash,
      dropDashes_letter]
    rfl
  have label : Bytes.ofAscii "SIGNATURE-----" ++ rest =
      Kind.signature.label ++ 0x2D :: 0x2D :: 0x2D :: 0x2D :: 0x2D :: rest := rfl
  have others : ∀ kind ∈ [Kind.message, .publicKey, .privateKey],
      after? kind.label (Bytes.ofAscii "SIGNATURE-----" ++ rest) = none := by
    intro kind hk
    simp only [List.mem_cons, List.not_mem_nil, or_false] at hk
    rcases hk with rfl | rfl | rfl <;> rfl
  have own : after? Kind.signature.label (Bytes.ofAscii "SIGNATURE-----" ++ rest) =
      some (0x2D :: 0x2D :: 0x2D :: 0x2D :: 0x2D :: rest) := by
    rw [label, after?_append]
  simp only [header?, dashes, after?_append, Option.bind_eq_bind, Option.bind_some, Kind.all,
    List.findSome?_cons, others .message (by simp), others .publicKey (by simp),
    others .privateKey (by simp), own, Option.map_none, Option.map_some, dropDashes_dash]

/-- Whoever looks for a signature or for anything finds a signature's header line that comes first. -/
theorem find?_signatureLine {wanted : Option Kind} (h : wanted.all (· == .signature) = true)
    (rest : Bytes) :
    find? wanted (signatureLine ++ rest) = some ⟨[], .signature, dropDashes rest⟩ := by
  have leading : skipLeading [] (signatureLine ++ rest) = ([], signatureLine ++ rest) := rfl
  have line : signatureLine ++ rest = 0x2D :: (signatureLine.tail ++ rest) := rfl
  have found := header?_signatureLine rest
  have kept : Option.filter (fun o : Kind × Bytes => wanted.all (· == o.1))
      (some (.signature, dropDashes rest)) = some (.signature, dropDashes rest) := by
    rw [Option.filter_some]
    exact if_pos h
  rw [find?]
  split
  · rename_i none
    rw [leading, line] at none
    cases none
  · rename_i quote b tail hs
    rw [leading, line, Prod.mk.injEq, List.cons.injEq] at hs
    obtain ⟨rfl, rfl, rfl⟩ := hs
    rw [line] at found
    simp only [beq_self_eq_true, if_true, found, kept]

end Armor

namespace Detached

/-- An input that begins with a signature's header line is not binary, and its armor is that of the
line. -/
theorem unwrap_signatureLine (rest : Bytes) :
    Packets.unwrap (Armor.signatureLine ++ rest) =
      Armor.read (some .signature) (Armor.signatureLine ++ rest) := by
  have armored : Packets.isBinary (Armor.signatureLine ++ rest) = false := rfl
  rw [Packets.unwrap, armored, Armor.read, Armor.read, Armor.find?_signatureLine rfl,
    Armor.find?_signatureLine rfl]
  rfl

/-- Data that are split without a fault, and are not empty, are binary. -/
theorem isBinary_of_split {data : Bytes} (h : (Packets.split none true data).fault = none) :
    Packets.isBinary data = true := by
  rw [Packets.split] at h
  split at h
  · rename_i empty
    rw [Packets.isBinary, empty, Bool.true_or]
  · split at h
    · rename_i header _ hh
      rw [Packets.isBinary, hh]
      exact Bool.or_true _
    · cases h

theorem read_eq_ok {input : Bytes} {signatures : List Signature} (h : read input = .ok signatures) :
    (Packets.ofBytes input).fault = none ∧
      signatures = ((Packets.ofBytes input).packets.filter (·.tag = .signature)).filterMap
        fun p => Signature.ofBody? p.body := by
  rw [read] at h
  dsimp only at h
  split at h
  · cases h
  · split at h
    · cases h
    · rename_i faultless
      split at h
      · cases h
      · cases h
        exact ⟨faultless, rfl⟩

/-- An envelope whose text begins with its header line is read from the only signature there. -/
theorem read_of_parse {armored : Bytes} {envelope : Envelope} {signatures : List Signature}
    (starts : Armor.signatureLine <+: armored) (hp : Envelope.parse armored = .ok envelope)
    (hr : read armored = .ok signatures) :
    ∃ s, signatures = [s] ∧ s.issuerKeyId?.bind keyIdText? = some envelope.issuerKeyId := by
  obtain ⟨rest, rfl⟩ := starts
  obtain ⟨-, data, packet, s, id, ⟨-, faultless, rfl, -⟩, whole, ⟨tag, body⟩, first, spells⟩ :=
    Envelope.parse_eq_ok_iff.1 hp
  obtain ⟨complete, rfl⟩ := read_eq_ok hr
  -- both readers split the data of the same armor
  have input : Packets.ofBytes (Armor.signatureLine ++ rest) =
      Packets.split none true (Armor.read (some .signature) (Armor.signatureLine ++ rest)).data := by
    rw [Packets.ofBytes, unwrap_signatureLine, faultless]
  generalize (Armor.read (some .signature) (Armor.signatureLine ++ rest)).data = data at input whole
  have only : Packets.split none true data = ⟨[packet], none⟩ := by
    rw [← whole, Packets.ofBytes, Packets.unwrap, isBinary_of_split (input ▸ complete)]
    rfl
  exact ⟨s, by simp [input, only, tag, body], Envelope.keyIdText_eq_some_iff.2 ⟨id, first, spells⟩⟩

end Detached

end OpenPgp

end CommitGate
