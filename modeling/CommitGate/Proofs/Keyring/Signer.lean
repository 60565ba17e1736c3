import CommitGate.Commit.Basic
import CommitGate.Proofs.Gate.ManagedKey
import CommitGate.Proofs.Text.Base64

/-! # Whom a keyring names

A keyring finds the certificate that has made a signature, and then looks up who has its fingerprint. Both
agree, though a keyring may hold a certificate more than once:

* `Signer.IsOf` says that a signer names a certificate by all that is reported of it;
* `Keyring.exists_isOf`: a keyring names one of its own certificates, with the fingerprint of the maker;
* `Keyring.verify_ne_unknownSigner`: the second search never fails;
* `ThirdParty.check_first`: of several keyrings the first one that verifies the signature is reported.
-/

namespace CommitGate

open OpenPgp

/-- Digests have twenty bytes. -/
theorem Crypto.Sha1.length_digest (bs : Bytes) : (digest bs).length = 20 := by
  simp [digest, Bytes.length_ofNat]

/-- The signer is the certificate: its fingerprint is that of the certificate, in Base64, and its key id is
the end of the fingerprint. -/
structure Signer.IsOf (s : Signer) (c : Certificate) : Prop where
  fingerprint : Base64.decode (Utf8.ofString s.fingerprint) = .ok c.fingerprint
  length : c.fingerprint.length = 20
  keyId : s.keyId = Hex.upper (c.fingerprint.drop (c.fingerprint.length - 8))

namespace Keyring

variable {k : Keyring} {now : Nat} {payload signature : Bytes}

/-- A certificate is reported as itself. -/
theorem isOf_signer (now : Nat) (c : Certificate) : (signer now c).IsOf c where
  fingerprint := by
    rw [signer, Base64.ofString_toText]
    exact Base64.decode_eq_ok_iff.2 rfl
  length := Crypto.Sha1.length_digest _
  keyId := by
    have length : c.fingerprint.length = 20 := Crypto.Sha1.length_digest _
    rw [length]
    rfl

/-- A certificate of the keyring has one of its key ids. -/
theorem mem_keyIds {c : Certificate} (h : c ∈ k.certificates) (now : Nat) :
    (signer now c).keyId ∈ k.keyIds :=
  List.mem_map_of_mem h

/-- Who is named is a certificate of the keyring, and has the fingerprint of one with the maker of a
signature. -/
theorem exists_isOf {s : Signer} (h : k.verify now payload signature = .ok s) :
    ∃ c ∈ k.certificates, s.IsOf c ∧ s.keyId ∈ k.keyIds ∧
      ∃ made ∈ k.certificates, made.fingerprint = c.fingerprint ∧
        ∃ signatures, Detached.read signature = .ok signatures ∧
          ∃ sig ∈ signatures, ∃ key, Detached.IsMaker now made payload sig key := by
  obtain ⟨signatures, made, hr, found, named⟩ := verify_eq_ok_iff.1 h
  obtain ⟨sig, hs, member, key, maker⟩ := Detached.exists_of_signer? found
  obtain ⟨c, hc, same, identified⟩ := exists_identify member now
  rw [identified] at named
  cases named
  exact ⟨c, hc, isOf_signer now c, mem_keyIds hc now, made, member, same.symm, signatures, hr, sig, hs, key,
    maker⟩

/-- The certificate that is found is one that the keyring knows. -/
theorem verify_ne_unknownSigner (fingerprint : Bytes) :
    k.verify now payload signature ≠ .error (.unknownSigner fingerprint) := by
  intro h
  unfold verify at h
  rcases bind_eq_error_iff.1 h with unread | ⟨signatures, -, h⟩
  · cases hr : Detached.read signature with
    | error f =>
      rw [hr] at unread
      cases unread
    | ok signatures =>
      rw [hr] at unread
      cases unread
  · split at h
    · rename_i made found
      obtain ⟨-, -, member, -⟩ := Detached.exists_of_signer? found
      obtain ⟨c, -, -, identified⟩ := exists_identify member now
      rw [identified] at h
      cases h
    · cases h

end Keyring

/-- The check of a commit answers that there is no signature exactly if there is none, and otherwise reports
the first keyring that verifies the signature over the payload, if any, whatever those before it fail for.
A keyring that verifies a signature names one of its own certificates, and never fails for want of one. -/
theorem ThirdParty.check_first (now : Nat) (commit : Commit) (keys : List ListedKey) :
    ((check now commit.payload commit.signatureBytes keys).1 = .unsigned ↔ commit.signature = none) ∧
    (∀ index signer,
      (check now commit.payload commit.signatureBytes keys).1 = .verified index signer ↔
        ∃ signature k, commit.signatureBytes = some signature ∧
          IsFirst now commit.payload signature keys k signer ∧ k.index = index) ∧
    ((∃ index signer,
      (check now commit.payload commit.signatureBytes keys).1 = .verified index signer) ↔
        ∃ signature, commit.signatureBytes = some signature ∧
          ∃ k ∈ keys, k.keyring.Verifies now commit.payload signature) ∧
    ∀ (k : Keyring) (payload signature : Bytes),
      (∀ s, k.verify now payload signature = .ok s →
        ∃ c ∈ k.certificates, s.IsOf c ∧ s.keyId ∈ k.keyIds ∧
          ∃ made ∈ k.certificates, made.fingerprint = c.fingerprint ∧
            ∃ signatures, Detached.read signature = .ok signatures ∧
              ∃ sig ∈ signatures, ∃ key, Detached.IsMaker now made payload sig key) ∧
      ∀ fingerprint, k.verify now payload signature ≠ .error (.unknownSigner fingerprint) := by
  refine ⟨?_, fun index signer => check_eq_verified_iff, exists_verified_iff, fun k payload signature => ?_⟩
  · rw [check_eq_unsigned_iff, Commit.signatureBytes, Option.map_eq_none_iff]
  · exact ⟨fun s => Keyring.exists_isOf, Keyring.verify_ne_unknownSigner⟩

/-- The commit of the key block above is found at its entry, by the key id of the main key. -/
theorem ThirdParty.check_first_listed :
    ∃ k signer, Keyring.ofBase64 Gate.devKey = .ok k ∧
      (check Gate.devGate.now (Gate.devCommit "D78kyj4SEM8m").payload
        (Gate.devCommit "D78kyj4SEM8m").signatureBytes [⟨3, k⟩]).1 = .verified 3 signer ∧
      signer.keyId = "FBF24CA3E1210CF2" := by
  obtain ⟨k, hk, ids, verifies⟩ := Gate.devKey_verifies
  have issuer : ("D78kyj4SEM8m", "FBF24CA3E1210CF2") ∈ Gate.devIssuers :=
    List.mem_cons_of_mem _ (List.mem_singleton_self _)
  obtain ⟨signer, hv⟩ := verifies _ issuer
  obtain ⟨-, found, -, named⟩ :=
    check_first Gate.devGate.now (Gate.devCommit "D78kyj4SEM8m") [⟨3, k⟩]
  obtain ⟨c, hc, isOf, -⟩ := (named k _ _).1 signer hv
  refine ⟨k, signer, hk, (found 3 signer).2 ⟨_, _, rfl, ⟨[], [], rfl, hv, nofun⟩, rfl⟩, ?_⟩
  rw [isOf.keyId, isOf.length, ← ids c hc c.primary.item (List.mem_cons_self ..)]
  rfl

end CommitGate
