import CommitGate.Proofs.Allowlist
import CommitGate.Proofs.Except

/-! # Who is found among the keys of third parties

`ThirdParty.tryKeys` stops at the first keyring that verifies a signature. Its answer is told here
without the walk:

* `tryKeys_eq_verified_iff`: the entry found is the first one whose keyring verifies;
* `tryKeys_signer`: the signer found is the one that the first verifying keyring names;
* `tryKeys_resolve_signer`: for a resolved allowlist, the one that the first verifying entry names;
* `check_signer_eq_none_iff`: nobody is found exactly if no keyring verifies the signature, if any.
-/

namespace CommitGate

/-- The signature verifies with the keyring, whoever has made it. -/
def Keyring.Verifies (k : Keyring) (now : Nat) (payload signature : Bytes) : Prop :=
  ∃ signer, k.verify now payload signature = .ok signer

theorem Keyring.toOption_verify_eq_none_iff {k : Keyring} {now : Nat} {payload signature : Bytes} :
    (k.verify now payload signature).toOption = none ↔ ¬ k.Verifies now payload signature := by
  unfold Keyring.Verifies
  cases h : k.verify now payload signature <;> simp [Except.toOption]

/-- A signature is accepted with a key in Base64 exactly if the key gives a keyring that verifies it. -/
theorem Keyring.verifyWith_eq_ok_iff {now : Nat} {text : String} {payload signature : Bytes} {s : Signer} :
    verifyWith now text payload signature = .ok s ↔
      ∃ k, ofBase64 text = .ok k ∧ k.verify now payload signature = .ok s := by
  unfold verifyWith
  cases ofBase64 text with
  | error f => simp
  | ok k => simp [mapError_eq_ok_iff]

namespace ThirdParty

/-- The signer that has been found, if any. -/
def Check.signer? : Check → Option Signer
  | .verified _ signer => some signer
  | .noMatch | .unsigned => none

variable {now : Nat} {payload signature : Bytes}

/-- The signer found is the one that the first verifying keyring names. -/
theorem tryKeys_signer (keys : List ListedKey) :
    (tryKeys now payload signature keys).1.signer? =
      keys.findSome? fun k => (k.keyring.verify now payload signature).toOption := by
  induction keys with
  | nil => rfl
  | cons k rest ih =>
    cases h : k.keyring.verify now payload signature with
    | ok signer => simp [tryKeys, h, Check.signer?, Except.toOption]
    | error fault => simp [tryKeys, h, Except.toOption, ih]

/-- With a signature at hand, trying the keys never answers that there is none. -/
theorem tryKeys_ne_unsigned (keys : List ListedKey) :
    (tryKeys now payload signature keys).1 ≠ .unsigned := by
  induction keys with
  | nil => simp [tryKeys]
  | cons k rest ih =>
    cases h : k.keyring.verify now payload signature with
    | ok signer => simp [tryKeys, h]
    | error fault => simpa [tryKeys, h] using ih

/-- The keyring does not verify the signature, whatever its fault is. -/
def ListedKey.Fails (k : ListedKey) (now : Nat) (payload signature : Bytes) : Prop :=
  ∃ fault, k.keyring.verify now payload signature = .error fault

/-- The first of some keyrings that verifies the signature, with the signer that it names. -/
def IsFirst (now : Nat) (payload signature : Bytes) (keys : List ListedKey) (k : ListedKey)
    (signer : Signer) : Prop :=
  ∃ before after, keys = before ++ k :: after ∧ k.keyring.verify now payload signature = .ok signer ∧
    ∀ earlier ∈ before, earlier.Fails now payload signature

/-- A keyring that verifies is the first one. -/
theorem isFirst_cons_of_ok {keys : List ListedKey} {k first : ListedKey} {signer named : Signer}
    (h : first.keyring.verify now payload signature = .ok named) :
    IsFirst now payload signature (first :: keys) k signer ↔ k = first ∧ signer = named := by
  constructor
  · rintro ⟨before, after, cut, verifies, fails⟩
    cases before with
    | nil =>
      cases cut
      rw [h] at verifies
      cases verifies
      exact ⟨rfl, rfl⟩
    | cons earlier before =>
      cases cut
      obtain ⟨fault, failed⟩ := fails first List.mem_cons_self
      rw [h] at failed
      cases failed
  · rintro ⟨rfl, rfl⟩
    exact ⟨[], keys, rfl, h, nofun⟩

/-- A keyring that fails leaves the search to the others. -/
theorem isFirst_cons_of_fails {keys : List ListedKey} {k first : ListedKey} {signer : Signer}
    (h : first.Fails now payload signature) :
    IsFirst now payload signature (first :: keys) k signer ↔
      IsFirst now payload signature keys k signer := by
  constructor
  · rintro ⟨before, after, cut, verifies, fails⟩
    cases before with
    | nil =>
      cases cut
      obtain ⟨fault, failed⟩ := h
      rw [failed] at verifies
      cases verifies
    | cons earlier before =>
      cases cut
      exact ⟨before, after, rfl, verifies, fun other ho => fails other (List.mem_cons_of_mem _ ho)⟩
  · rintro ⟨before, after, rfl, verifies, fails⟩
    exact ⟨first :: before, after, rfl, verifies, List.forall_mem_cons.2 ⟨h, fails⟩⟩

/-- Trying the keys finds the first keyring that verifies. -/
theorem tryKeys_eq_verified_iff {keys : List ListedKey} {index : Nat} {signer : Signer} :
    (tryKeys now payload signature keys).1 = .verified index signer ↔
      ∃ k, IsFirst now payload signature keys k signer ∧ k.index = index := by
  induction keys with
  | nil =>
    constructor
    · intro h
      cases h
    · rintro ⟨k, ⟨before, after, cut, -⟩, -⟩
      cases before <;> cases cut
  | cons k rest ih =>
    cases h : k.keyring.verify now payload signature with
    | ok named => simp [tryKeys, h, isFirst_cons_of_ok h, and_comm, eq_comm]
    | error fault => simp [tryKeys, h, isFirst_cons_of_fails ⟨fault, h⟩, ih]

/-- The check answers "unsigned" exactly if there is no signature. -/
theorem check_eq_unsigned_iff {signature : Option Bytes} {keys : List ListedKey} :
    (check now payload signature keys).1 = .unsigned ↔ signature = none := by
  cases signature with
  | none => simp [check]
  | some s => simp [check, tryKeys_ne_unsigned]

/-- Nobody is found exactly if no keyring verifies the signature, if there is one. -/
theorem check_signer_eq_none_iff {signature : Option Bytes} {keys : List ListedKey} :
    (check now payload signature keys).1.signer? = none ↔
      ∀ s, signature = some s → ∀ k ∈ keys, ¬ k.keyring.Verifies now payload s := by
  cases signature with
  | none => simp [check, Check.signer?]
  | some s => simp [check, tryKeys_signer, Keyring.toOption_verify_eq_none_iff]

/-- With a signature at hand, the check finds the first keyring that verifies. -/
theorem check_eq_verified_iff {signature : Option Bytes} {keys : List ListedKey} {index : Nat}
    {signer : Signer} :
    (check now payload signature keys).1 = .verified index signer ↔
      ∃ s k, signature = some s ∧ IsFirst now payload s keys k signer ∧ k.index = index := by
  cases signature with
  | none => simp [check]
  | some s => simp [check, tryKeys_eq_verified_iff]

/-- Some keyring is found exactly if there is a signature that some keyring verifies. -/
theorem exists_verified_iff {signature : Option Bytes} {keys : List ListedKey} :
    (∃ index signer, (check now payload signature keys).1 = .verified index signer) ↔
      ∃ s, signature = some s ∧ ∃ k ∈ keys, k.keyring.Verifies now payload s := by
  have found : ∀ c : Check, (∃ index signer, c = .verified index signer) ↔ ¬c.signer? = none := by
    intro c
    cases c <;> simp [Check.signer?]
  rw [found, check_signer_eq_none_iff]
  simp only [Classical.not_forall, Classical.not_not, exists_prop]

/-- The signer that an entry of an allowlist names in a repository. -/
def signerOf? (now : Nat) (repository : String) (payload signature : Bytes) (e : KeyEntry) :
    Option Signer :=
  (Allowlist.usableKeyring? repository e).bind fun k =>
    (k.verify now payload signature).toOption

/-- For a resolved allowlist, the signer found is the one that the first verifying entry names. -/
theorem tryKeys_resolve_signer (a : Allowlist) (repository : String) :
    (tryKeys now payload signature (a.resolve repository).keys).1.signer? =
      a.keys.findSome? (signerOf? now repository payload signature) := by
  have entries : (fun x : KeyEntry × Nat =>
      ((Allowlist.usableKeyring? repository x.1).map (ListedKey.mk x.2)).bind fun k =>
        (k.keyring.verify now payload signature).toOption) =
      signerOf? now repository payload signature ∘ Prod.fst := by
    funext ⟨e, i⟩
    exact Option.bind_map
  calc (tryKeys now payload signature (a.resolve repository).keys).1.signer?
      = a.keys.zipIdx.findSome? (signerOf? now repository payload signature ∘ Prod.fst) := by
        rw [tryKeys_signer, Allowlist.resolve_keys, ← List.head?_filterMap,
          List.filterMap_filterMap, List.head?_filterMap, ← entries]
    _ = a.keys.findSome? (signerOf? now repository payload signature) := by
        rw [← List.findSome?_map, List.zipIdx_map_fst]

end ThirdParty

end CommitGate
