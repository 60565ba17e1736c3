import CommitGate.Proofs.Allowlist
import CommitGate.Proofs.Email
import CommitGate.Proofs.Text.Lowercase

/-! # Which committers need no signature

A committer's address, which is any text, is compared with the addresses of entries by the lower-case forms
of both. An entry's address is ASCII, so the comparison comes down to single characters.

* `Email.StandsFor` says which characters of a committer's address match a character of an entry's, and
  `Email.sameIgnoringCase_iff` that there is nothing more to the comparison.
* `Email.validate_of_sameButCase`: whether an address is valid does not depend on the case of its letters.
* `Allowlist.isAllowed_exact`: which addresses an allowlist lets pass, what never stands in one of them, and
  that the case of letters has no part in it.
-/

namespace CommitGate

namespace Email

/-! ## Characters -/

/-- A committer's character `c` stands for the character `d` of an entry: both are equal up to ASCII case, or
`c` is the Kelvin sign and `d` the letter that looks like it. -/
def StandsFor (c d : Char) : Prop :=
  c.toLower = d.toLower ∨ c = Lowercase.kelvin ∧ (d = 'k' ∨ d = 'K')

theorem becomes_toLower_iff {c d : Char} : Lowercase.Becomes c d.toLower ↔ StandsFor c d := by
  have letter : d.toLower = 'k' ↔ d = 'k' ∨ d = 'K' := by
    by_cases ascii : d.toNat < 0x80
    · exact forall_ascii (p := fun d => d.toLower = 'k' ↔ d = 'k' ∨ d = 'K') (by decide +kernel) d ascii
    · rw [toLower_of_not_ascii ascii]
      constructor
      · exact Or.inl
      · rintro (rfl | rfl)
        · rfl
        · exact absurd (by decide) ascii
  rw [Lowercase.Becomes, StandsFor, letter]

/-- The case of a committer's character does not count. -/
theorem standsFor_toLower_iff {c d : Char} : StandsFor c.toLower d ↔ StandsFor c d := by
  have sign : c.toLower = Lowercase.kelvin ↔ c = Lowercase.kelvin := by
    by_cases ascii : c.toNat < 0x80
    · have small := (toLower_ascii_iff c).2 ascii
      constructor
      · intro same
        exact absurd (same ▸ small) (by decide)
      · rintro rfl
        exact absurd ascii (by decide)
    · rw [toLower_of_not_ascii ascii]
  rw [StandsFor, StandsFor, toLower_toLower, sign]

/-- What stands for a visible ASCII character is one, or is the Kelvin sign. -/
theorem StandsFor.isVisible {c d : Char} (h : StandsFor c d) (seen : 0x20 < d.toNat ∧ d.toNat < 0x7F) :
    c = Lowercase.kelvin ∨ 0x20 < c.toNat ∧ c.toNat < 0x7F := by
  have kept : ∀ e : Char, (0x20 < e.toLower.toNat ∧ e.toLower.toNat < 0x7F) ↔
      (0x20 < e.toNat ∧ e.toNat < 0x7F) := by
    intro e
    have same := toLower_congr (f := fun e => decide (0x20 < e.toNat ∧ e.toNat < 0x7F))
      (forall_ascii (by decide +kernel)) e
    exact decide_eq_decide.1 same
  rcases h with same | ⟨sign, -⟩
  · right
    rwa [← kept, same, kept]
  · exact Or.inl sign

/-! ## Addresses -/

/-- The texts differ in the case of ASCII letters at most. -/
def SameButCase (s t : String) : Prop := s.toList.map Char.toLower = t.toList.map Char.toLower

/-- An ASCII text is compared with any other one character by character. -/
theorem sameIgnoringCase_iff {address email : String} (ascii : ∀ d ∈ address.toList, d.toNat < 0x80) :
    sameIgnoringCase address email = true ↔ List.Forall₂ StandsFor email.toList address.toList := by
  have small : ∀ x ∈ address.toList.map Char.toLower, x.toNat < 0x80 := by
    intro x hx
    obtain ⟨d, hd, rfl⟩ := List.mem_map.1 hx
    exact (toLower_ascii_iff d).2 (ascii d hd)
  rw [sameIgnoringCase, beq_iff_eq, Lowercase.lowercase_of_ascii ascii, eq_comm,
    Lowercase.lowercase_eq_iff small, List.forall₂_map_right_iff]
  simp only [becomes_toLower_iff]

/-- On neither side of the comparison does case count. -/
theorem forall₂_standsFor_congr {email email' address address' : String}
    (emails : SameButCase email email') (addresses : SameButCase address address') :
    List.Forall₂ StandsFor email.toList address.toList ↔
      List.Forall₂ StandsFor email'.toList address'.toList := by
  have lower : ∀ s t : List Char, List.Forall₂ StandsFor s t ↔
      List.Forall₂ Lowercase.Becomes (s.map Char.toLower) (t.map Char.toLower) := by
    intro s t
    rw [List.forall₂_map_left_iff, List.forall₂_map_right_iff]
    simp only [becomes_toLower_iff, standsFor_toLower_iff]
  rw [lower, lower, emails, addresses]

/-! ## Validity -/

theorem length_encode_map_toLower (s : List Char) :
    (Utf8.encode (s.map Char.toLower)).length = (Utf8.encode s).length := by
  induction s with
  | nil => rfl
  | cons c s ih =>
    have one : (Utf8.encodeChar c.toLower).length = (Utf8.encodeChar c).length :=
      toLower_congr (f := fun c => (Utf8.encodeChar c).length) (forall_ascii (by decide +kernel)) c
    rw [List.map_cons, Utf8.encode_cons, Utf8.encode_cons, List.length_append, List.length_append, one, ih]

/-- The classes of characters that the grammar asks for. -/
theorem mem_classes_pattern :
    ∀ ranges ∈ pattern.classes,
      ranges ∈ [alphanumerics, localCharacters, labelCharacters, [.only '@'], [.only '.']] := by
  decide +kernel

/-- None of them tells capital letters from small ones. -/
theorem isAddress_map_toLower (s : List Char) : isAddress (s.map Char.toLower) = isAddress s := by
  have classes : ∀ ranges ∈ pattern.classes, ∀ c : Char,
      CharRange.holds ranges c.toLower = CharRange.holds ranges c := by
    intro ranges hr
    refine toLower_congr (forall_ascii fun n hn => ?_)
    have checked : ∀ n < 0x80, ∀ ranges ∈ [alphanumerics, localCharacters, labelCharacters, [.only '@'],
        [.only '.']], CharRange.holds ranges (Char.ofNat n).toLower =
          CharRange.holds ranges (Char.ofNat n) := by
      decide +kernel
    exact checked n hn ranges (mem_classes_pattern ranges hr)
  rw [isAddress, isAddress, length_encode_map_toLower, Pattern.accepts_map classes]

theorem isOk_validate_iff {s : String} : validate s = .ok () ↔ isAddress s.toList = true := by
  rw [validate]
  split
  · rename_i address
    exact iff_of_true rfl address
  · rename_i other
    refine iff_of_false (fun h => ?_) other
    cases h

/-- Whether an address is valid does not depend on the case of its letters. -/
theorem validate_of_sameButCase {s t : String} (h : SameButCase s t) :
    validate s = .ok () ↔ validate t = .ok () := by
  rw [isOk_validate_iff, isOk_validate_iff, ← isAddress_map_toLower, h, isAddress_map_toLower]

/-- The characters of a valid address are visible ASCII characters. -/
theorem isVisible_of_validate {s : String} (valid : validate s = .ok ()) {c : Char} (hc : c ∈ s.toList) :
    0x20 < c.toNat ∧ c.toNat < 0x7F := by
  have address := isOk_validate_iff.1 valid
  simp only [isAddress, Bool.and_eq_true] at address
  obtain ⟨a, text⟩ := matches_pattern_iff.1 (Pattern.accepts_iff.1 address.2)
  rw [text] at hc
  exact a.isVisible hc

end Email

namespace Allowlist

open Email

/-- The allowlists have the same entries for addresses, but for the case of letters in these. -/
def SameAddresses (a b : Allowlist) : Prop :=
  List.Forall₂ (fun e e' => e.scope = e'.scope ∧ SameButCase e.address e'.address) a.emails b.emails

/-- Some valid entry that covers the repository has the address, character by character. -/
def LetsPass (a : Allowlist) (repository email : String) : Prop :=
  ∃ e ∈ a.emails, e.scope.Covers repository ∧ validate e.address = .ok () ∧
    List.Forall₂ StandsFor email.toList e.address.toList

variable {a b : Allowlist} {repository email other : String}

theorem isAllowed_resolve_iff_letsPass :
    isAllowed email (a.resolve repository).emails = true ↔ a.LetsPass repository email := by
  have compared : ∀ e : EmailEntry, validate e.address = .ok () →
      (sameIgnoringCase e.address email = true ↔
        List.Forall₂ StandsFor email.toList e.address.toList) := by
    intro e valid
    refine sameIgnoringCase_iff fun d hd => ?_
    have seen := isVisible_of_validate valid hd
    omega
  rw [isAllowed, List.any_eq_true]
  simp only [mem_resolve_emails]
  constructor
  · rintro ⟨_, ⟨e, he, covers, valid, rfl⟩, same⟩
    exact ⟨e, he, covers, valid, (compared e valid).1 same⟩
  · rintro ⟨e, he, covers, valid, same⟩
    exact ⟨e.address, ⟨e, he, covers, valid, rfl⟩, (compared e valid).2 same⟩

/-- Whatever passes is visible ASCII, Kelvin signs apart. -/
theorem LetsPass.isVisible (h : a.LetsPass repository email) {c : Char} (hc : c ∈ email.toList) :
    c = Lowercase.kelvin ∨ 0x20 < c.toNat ∧ c.toNat < 0x7F := by
  obtain ⟨e, -, -, valid, same⟩ := h
  obtain ⟨i, hi, rfl⟩ := List.getElem_of_mem hc
  have hj : i < e.address.toList.length := by rwa [← same.length_eq]
  exact (same.get hi hj).isVisible (isVisible_of_validate valid (List.getElem_mem hj))

/-- The case of letters has no part in it, neither that of the address nor that of entries. -/
theorem letsPass_congr (emails : SameButCase email other) (addresses : a.SameAddresses b) :
    a.LetsPass repository email ↔ b.LetsPass repository other := by
  have entry : ∀ e e' : EmailEntry, e.scope = e'.scope → SameButCase e.address e'.address →
      ((e.scope.Covers repository ∧ validate e.address = .ok () ∧
          List.Forall₂ StandsFor email.toList e.address.toList) ↔
        (e'.scope.Covers repository ∧ validate e'.address = .ok () ∧
          List.Forall₂ StandsFor other.toList e'.address.toList)) := by
    intro e e' scope address
    rw [scope, validate_of_sameButCase address, forall₂_standsFor_congr emails address]
  unfold SameAddresses at addresses
  unfold LetsPass
  generalize a.emails = entries at addresses
  generalize b.emails = entries' at addresses
  induction addresses with
  | nil => simp only [List.not_mem_nil, false_and, exists_false]
  | cons head _ ih =>
    rw [List.exists_mem_cons_iff, List.exists_mem_cons_iff]
    exact or_congr (entry _ _ head.1 head.2) ih

/-- An address passes exactly if a valid entry that covers the repository has as many characters and each
character of the address stands for the one at its place. So nothing else beyond ASCII than the Kelvin sign
passes, no blank, and nothing that is left of bytes that are no text; and case counts on neither side. -/
theorem isAllowed_exact (a : Allowlist) (repository email : String) :
    (isAllowed email (a.resolve repository).emails = true ↔ a.LetsPass repository email) ∧
    (isAllowed email (a.resolve repository).emails = true → ∀ c ∈ email.toList,
      Blank.isBlank c = false ∧ (c.toNat < 0x80 ∨ c = Lowercase.kelvin)) ∧
    (∀ bytes fault, Utf8.decode bytes = .error fault →
      isAllowed (Utf8.toStringLossy bytes) (a.resolve repository).emails = false) ∧
    (∀ other b, SameButCase email other → a.SameAddresses b →
      isAllowed email (a.resolve repository).emails =
        isAllowed other (b.resolve repository).emails) := by
  refine ⟨isAllowed_resolve_iff_letsPass, fun passes c hc => ?_, fun bytes fault bad => ?_,
    fun other b emails addresses => ?_⟩
  · rcases (isAllowed_resolve_iff_letsPass.1 passes).isVisible hc with rfl | ⟨seen, ascii⟩
    · exact ⟨by decide, Or.inr rfl⟩
    · have blank : Blank.isBlank c = false := by
        simp [Blank.isBlank]
        omega
      exact ⟨blank, Or.inl (by omega)⟩
  · have mark : '\uFFFD' ∈ (Utf8.toStringLossy bytes).toList := by
      rw [Utf8.toStringLossy, String.toList_ofList]
      exact Utf8.replacement_mem_of_decodeFrom bad
    rw [Bool.eq_false_iff]
    intro passes
    have kept := (isAllowed_resolve_iff_letsPass.1 passes).isVisible mark
    exact absurd kept (by decide)
  · rw [Bool.eq_iff_iff, isAllowed_resolve_iff_letsPass, isAllowed_resolve_iff_letsPass,
      letsPass_congr emails addresses]

/-- The Kelvin sign stands for the letter in an entry. -/
example : isAllowed "\u212Aim@example.com"
    ((⟨[⟨"KIM@example.com", .all⟩], []⟩ : Allowlist).resolve "example/library").emails = true := by
  decide +kernel

/-- A letter whose lower-case form begins with an ASCII letter stands for none. -/
example : isAllowed "k\u0130m@example.com"
    ((⟨[⟨"kim@example.com", .all⟩], []⟩ : Allowlist).resolve "example/library").emails = false := by
  decide +kernel

end Allowlist

end CommitGate
