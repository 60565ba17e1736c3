import CommitGate.Proofs.Text.Base64
import CommitGate.Proofs.ThirdParty

/-! # Keys in Base64

The authority answers with a key block in Base64, which may be broken into lines anywhere. An allowlist has
key blocks as they are.

* `Blank.Wraps` says that a text is another one with blanks put in;
* `Keyring.decodeKey_eq_ok_iff`: a key decodes exactly if it is wrapped Base64, to the bytes that are written;
* `Keyring.ofBase64_wrapped`: wrapped Base64 gives the keyring of its bytes, all else is refused as Base64,
  and a signature is accepted with the key exactly if it is with the key block.
-/

namespace CommitGate

/-! ## Blanks put in -/

namespace Blank

/-- The second text is the first one with ASCII blanks put in, anywhere. -/
inductive Wraps : List Char → List Char → Prop
  | nil : Wraps [] []
  | kept (c : Char) {s t : List Char} : Wraps s t → Wraps (c :: s) (c :: t)
  | blank {c : Char} (h : isAsciiBlank c = true) {s t : List Char} : Wraps s t → Wraps s (c :: t)

/-- The text without its ASCII blanks. -/
def compact (s : List Char) : List Char := s.filter (!isAsciiBlank ·)

/-- A text is what is left without its blanks, with blanks put in. -/
theorem wraps_compact (t : List Char) : Wraps (compact t) t := by
  induction t with
  | nil => exact .nil
  | cons c t ih =>
    cases h : isAsciiBlank c with
    | true => simpa [compact, h] using .blank h ih
    | false => simpa [compact, h] using .kept c ih

/-- Blanks are put into a text without blanks exactly if it is what is left without them. -/
theorem wraps_iff {s t : List Char} (h : ∀ c ∈ s, isAsciiBlank c = false) : Wraps s t ↔ compact t = s := by
  constructor
  · intro wraps
    induction wraps with
    | nil => rfl
    | kept c _ ih =>
      obtain ⟨hc, hs⟩ := List.forall_mem_cons.1 h
      simpa [compact, hc] using ih hs
    | blank hc _ ih => simpa [compact, hc] using ih h
  · rintro rfl
    exact wraps_compact t

/-- A byte of a character is a blank exactly if the character is. -/
theorem isAsciiBlank_of_mem {c : Char} {b : UInt8} (h : b ∈ Utf8.encodeChar c) :
    Bytes.isAsciiBlank b = isAsciiBlank c := by
  have byte : Bytes.isAsciiBlank b = true ↔ b.toNat ∈ [0x20, 0x09, 0x0A, 0x0C, 0x0D] := by
    simp [Bytes.isAsciiBlank, ← UInt8.toNat_inj, or_assoc]
  have char : isAsciiBlank c = true ↔ c.toNat ∈ [0x20, 0x09, 0x0A, 0x0C, 0x0D] := by
    simp [isAsciiBlank, ← Char.toNat_inj, or_assoc]
  rw [Bool.eq_iff_iff, byte, char]
  simp only [List.mem_cons, List.not_mem_nil, or_false]
  rcases Utf8.of_mem_encodeChar h with ⟨-, same⟩ | ⟨beyond, beyond'⟩ <;> omega

/-- Removing blanks from the bytes of a text removes them from the text. -/
theorem filter_encode (s : List Char) :
    (Utf8.encode s).filter (!Bytes.isAsciiBlank ·) = Utf8.encode (compact s) := by
  induction s with
  | nil => rfl
  | cons c s ih =>
    rw [Utf8.encode_cons, List.filter_append, ih]
    cases h : isAsciiBlank c with
    | true =>
      have none : (Utf8.encodeChar c).filter (!Bytes.isAsciiBlank ·) = [] :=
        List.filter_eq_nil_iff.2 fun b hb => by simp [isAsciiBlank_of_mem hb, h]
      rw [none]
      simp [compact, h]
    | false =>
      have all : (Utf8.encodeChar c).filter (!Bytes.isAsciiBlank ·) = Utf8.encodeChar c :=
        List.filter_eq_self.2 fun b hb => by simp [isAsciiBlank_of_mem hb, h]
      rw [all]
      simp [compact, h]

end Blank

/-! ## Keys -/

/-- There are no blanks in what is written. -/
theorem Base64.not_blank_of_mem_toText (bs : Bytes) :
    ∀ c ∈ (toText bs).toList, Blank.isAsciiBlank c = false := by
  intro c hc
  rw [toText, String.toList_ofList] at hc
  obtain ⟨b, hb, rfl⟩ := List.mem_map.1 hc
  exact forall_mem_encode (p := fun b => Blank.isAsciiBlank (Char.ofNat b.toNat) = false) (by decide)
    (by decide) bs b hb

namespace Keyring

/-- The bytes that a key in Base64 stands for. -/
def decodeKey (text : String) : Except Base64.Error Bytes :=
  Base64.decode ((Utf8.ofString text).filter (!Bytes.isAsciiBlank ·))

/-- A key decodes exactly if it is wrapped Base64. -/
theorem decodeKey_eq_ok_iff {text : String} {b : Bytes} :
    decodeKey text = .ok b ↔ Blank.Wraps (Base64.toText b).toList text.toList := by
  rw [decodeKey, Utf8.ofString, Blank.filter_encode, Base64.decode_encode_eq_ok_iff,
    Blank.wraps_iff (Base64.not_blank_of_mem_toText b)]

theorem ofBase64_of_decodeKey {text : String} {b : Bytes} (h : decodeKey text = .ok b) :
    ofBase64 text = ofBytes b := by
  rw [decodeKey] at h
  simp only [ofBase64, h]
  rfl

theorem ofBase64_of_decodeKey_error {text : String} {e : Base64.Error} (h : decodeKey text = .error e) :
    ofBase64 text = .error (.base64 e) := by
  rw [decodeKey] at h
  simp only [ofBase64, h]
  rfl

/-- Where there is a keyring, the key decodes. -/
theorem exists_decodeKey {text : String} {k : Keyring} (h : ofBase64 text = .ok k) :
    ∃ b, decodeKey text = .ok b := by
  cases hd : decodeKey text with
  | ok b => exact ⟨b, rfl⟩
  | error e =>
    rw [ofBase64_of_decodeKey_error hd] at h
    cases h

/-- A key block is never at fault for its Base64. -/
theorem ofBytes_ne_base64 (b : Bytes) (e : Base64.Error) : ofBytes b ≠ .error (.base64 e) := by
  intro h
  unfold ofBytes at h
  cases hc : OpenPgp.Certificate.ofBytes b with
  | error fault =>
    rw [hc] at h
    cases h
  | ok certificates =>
    rw [hc] at h
    simp only [Except.mapError, bind, Except.bind] at h
    split at h <;> cases h

/-- A key is refused as Base64 exactly if it decodes to nothing. -/
theorem ofBase64_eq_base64_iff {text : String} :
    (∃ e, ofBase64 text = .error (.base64 e)) ↔
      ∀ b, Blank.compact text.toList ≠ (Base64.toText b).toList := by
  simp only [ne_eq, ← Blank.wraps_iff (Base64.not_blank_of_mem_toText _), ← decodeKey_eq_ok_iff]
  cases h : decodeKey text with
  | ok b =>
    constructor
    · rintro ⟨e, refused⟩
      exact absurd (ofBase64_of_decodeKey h ▸ refused) (ofBytes_ne_base64 b e)
    · intro none
      exact absurd rfl (none b)
  | error e => exact iff_of_true ⟨e, ofBase64_of_decodeKey_error h⟩ nofun

/-- Whatever is wrong with the key or the signature is a mismatch. -/
theorem exists_mismatch_of_verifyWith {now : Nat} {text : String} {payload signature : Bytes}
    {f : CommitGate.Fault} (h : verifyWith now text payload signature = .error f) : ∃ reason, f = .mismatch reason := by
  unfold verifyWith at h
  cases hk : ofBase64 text with
  | error f' =>
    rw [hk] at h
    cases h
    exact ⟨_, rfl⟩
  | ok k =>
    rw [hk] at h
    cases hv : k.verify now payload signature with
    | error f' =>
      simp only [hv, Except.mapError] at h
      cases h
      exact ⟨_, rfl⟩
    | ok s =>
      simp only [hv, Except.mapError] at h
      cases h

end Keyring

/-- An entry on its own is found exactly if its key block gives a keyring that verifies the signature. -/
theorem ThirdParty.exists_listed_iff {now : Nat} {payload signature : Bytes} {e : KeyEntry} {index : Nat}
    {s : Signer} :
    (∃ k, Keyring.ofBytes (Utf8.ofString e.key) = .ok k ∧ k.verify now payload signature = .ok s) ↔
      ∃ listed, Allowlist.useKey index e = .ok listed ∧
        (check now payload (some signature) [listed]).1 = .verified index s := by
  have found (k : Keyring) : (check now payload (some signature) [⟨index, k⟩]).1 = .verified index s ↔
      k.verify now payload signature = .ok s := by
    cases h : k.verify now payload signature <;> simp [check, tryKeys, h]
  unfold Allowlist.useKey
  cases Keyring.ofBytes (Utf8.ofString e.key) with
  | error f => simp
  | ok k => simp [found]

/-- Base64 with blanks put in anywhere gives the keyring of the bytes that it is written for, so that it
accepts the signatures that the keyring does, as does an entry of an allowlist with these bytes. A text that is
no Base64 without its blanks is refused as such. All that is not accepted is a mismatch. -/
theorem Keyring.ofBase64_wrapped (text : String) :
    (∀ b, Blank.Wraps (Base64.toText b).toList text.toList →
      ofBase64 text = ofBytes b ∧
      (∀ now payload signature s, verifyWith now text payload signature = .ok s ↔
        ∃ k, ofBytes b = .ok k ∧ k.verify now payload signature = .ok s) ∧
      ∀ (e : KeyEntry) (index : Nat), Utf8.ofString e.key = b → ∀ now payload signature s,
        verifyWith now text payload signature = .ok s ↔
          ∃ listed, Allowlist.useKey index e = .ok listed ∧
            (ThirdParty.check now payload (some signature) [listed]).1 = .verified index s) ∧
    ((∃ e, ofBase64 text = .error (.base64 e)) ↔
      ∀ b, Blank.compact text.toList ≠ (Base64.toText b).toList) ∧
    ∀ now payload signature,
      (¬∃ b k s, Blank.Wraps (Base64.toText b).toList text.toList ∧ ofBytes b = .ok k ∧
        k.verify now payload signature = .ok s) →
      ∃ reason, verifyWith now text payload signature = .error (.mismatch reason) := by
  refine ⟨fun b wraps => ?_, ofBase64_eq_base64_iff, fun now payload signature refused => ?_⟩
  · have same : ofBase64 text = ofBytes b := ofBase64_of_decodeKey (decodeKey_eq_ok_iff.2 wraps)
    refine ⟨same, fun now payload signature s => ?_, fun e index block now payload signature s => ?_⟩
    · rw [verifyWith_eq_ok_iff, same]
    · rw [verifyWith_eq_ok_iff, same, ← block, ThirdParty.exists_listed_iff]
  · cases h : verifyWith now text payload signature with
    | error f =>
      obtain ⟨reason, rfl⟩ := exists_mismatch_of_verifyWith h
      exact ⟨reason, rfl⟩
    | ok s =>
      obtain ⟨k, hk, hv⟩ := verifyWith_eq_ok_iff.1 h
      obtain ⟨b, hb⟩ := exists_decodeKey hk
      refine absurd ⟨b, k, s, decodeKey_eq_ok_iff.1 hb, ?_, hv⟩ refused
      rw [← ofBase64_of_decodeKey hb, hk]

/-- Blanks may stand within the padding. -/
example : (Keyring.decodeKey "A Q=\n=").toOption = some [1] := by decide +kernel

/-- The last symbol may have no bits that belong to no byte. -/
example : (Keyring.decodeKey "AR==").toOption = none := by decide +kernel

end CommitGate
