import CommitGate.Email
import CommitGate.Proofs.Text.Pattern
import CommitGate.Proofs.Text.Utf8
import CommitGate.Text.Blank

/-! # The grammar of addresses

An address is a local part, `@` and labels joined by dots. `Email.pattern` describes this by what may follow
what; here it is told by the parts themselves.

* `Email.Address` is an address in its parts, and `Email.matches_pattern_iff` says that the pattern has
  exactly the texts of these.
* `Email.validate_eq_ok_iff`: which texts are accepted, and what cannot stand in one.
-/

namespace CommitGate.Email

/-- A character of the local part. -/
def IsLocal (c : Char) : Prop :=
  c.isAlphanum = true ∨ c ∈ ".!#$%&'*+/=?^_\x60\x7b|\x7d~-".toList

/-- A label: 1 to 63 letters, digits and hyphens, of which neither the first nor the last is a hyphen. -/
structure IsLabel (s : List Char) : Prop where
  ne_nil : s ≠ []
  length_le : s.length ≤ 63
  chars : ∀ c ∈ s, c.isAlphanum = true ∨ c = '-'
  first : s.head? ≠ some '-'
  last : s.getLast? ≠ some '-'

/-- An address in its parts. -/
structure Address where
  localPart : List Char
  labels : List (List Char)
  localPart_ne : localPart ≠ []
  isLocal : ∀ c ∈ localPart, IsLocal c
  labels_ne : labels ≠ []
  isLabel : ∀ l ∈ labels, IsLabel l

/-- The labels of a domain with single dots between them. -/
def domainText (labels : List (List Char)) : List Char := List.intercalate ['.'] labels

/-- The text of an address. -/
def Address.text (a : Address) : List Char := a.localPart ++ '@' :: domainText a.labels

/-! ## Characters -/

theorem holds_alphanumerics_iff {c : Char} :
    CharRange.holds alphanumerics c = true ↔ c.isAlphanum = true := by
  simp only [CharRange.holds_iff, alphanumerics, CharRange.span, List.mem_cons, List.not_mem_nil,
    or_false, exists_eq_or_imp, exists_eq_left, isAlphanum_iff]
  constructor
  · rintro (h | h | h)
    · exact Or.inr (Or.inl h)
    · exact Or.inl h
    · exact Or.inr (Or.inr h)
  · rintro (h | h | h)
    · exact Or.inr (Or.inl h)
    · exact Or.inl h
    · exact Or.inr (Or.inr h)

/-- Among some ranges and single characters is what is among the ranges or is one of the characters. -/
theorem holds_append_only_iff {ranges : List CharRange} {single : List Char} {c : Char} :
    CharRange.holds (ranges ++ single.map CharRange.only) c = true ↔
      CharRange.holds ranges c = true ∨ c ∈ single := by
  simp only [CharRange.holds, List.any_append, Bool.or_eq_true, List.any_map]
  rw [or_congr_right]
  simp only [List.any_eq_true, Function.comp_apply, CharRange.contains_only_iff, exists_eq_right]

theorem holds_localCharacters_iff {c : Char} :
    CharRange.holds localCharacters c = true ↔ IsLocal c := by
  rw [localCharacters, holds_append_only_iff, holds_alphanumerics_iff, IsLocal]

theorem holds_labelCharacters_iff {c : Char} :
    CharRange.holds labelCharacters c = true ↔ c.isAlphanum = true ∨ c = '-' := by
  have hyphen : labelCharacters = alphanumerics ++ ['-'].map CharRange.only := rfl
  rw [hyphen, holds_append_only_iff, holds_alphanumerics_iff, List.mem_singleton]

/-! ## Labels -/

/-- A character that is neither at the first nor at the last place of a label may be a hyphen. -/
theorem IsLabel.isAlphanum {s : List Char} (h : IsLabel s) {c : Char} (hc : c ∈ s) (ne : c ≠ '-') :
    c.isAlphanum = true := by
  rcases h.chars c hc with h | h
  · exact h
  · exact absurd h ne

theorem matches_label_iff {s : List Char} : label.Matches s ↔ IsLabel s := by
  have hyphen : ∀ c : Char, c.isAlphanum = true → c ≠ '-' := by
    rintro c h rfl
    exact absurd h (by decide)
  rw [label, Pattern.matches_seq_iff]
  constructor
  · rintro ⟨s₁, s₂, rfl, first, others⟩
    obtain ⟨a, ha, rfl⟩ := Pattern.matches_oneOf_iff.1 first
    have ha := holds_alphanumerics_iff.1 ha
    rcases Pattern.matches_optional_iff.1 others with rfl | others
    · -- one character
      refine ⟨by simp, by simp, fun c hc => ?_, ?_, ?_⟩
      · rw [List.mem_singleton.1 hc]
        exact Or.inl ha
      · simpa using hyphen a ha
      · simpa using hyphen a ha
    · -- the last character is one of its own
      obtain ⟨middle, last, rfl, inside, atEnd⟩ := Pattern.matches_seq_iff.1 others
      obtain ⟨short, all⟩ := Pattern.matches_upTo_oneOf_iff.1 inside
      obtain ⟨z, hz, rfl⟩ := Pattern.matches_oneOf_iff.1 atEnd
      have hz := holds_alphanumerics_iff.1 hz
      refine ⟨by simp, ?_, fun c hc => ?_, ?_, ?_⟩
      · simp only [List.length_append, List.length_singleton]
        omega
      · simp only [List.mem_append, List.mem_singleton] at hc
        rcases hc with rfl | hc | rfl
        · exact Or.inl ha
        · exact holds_labelCharacters_iff.1 (all c hc)
        · exact Or.inl hz
      · simpa using hyphen a ha
      · rw [← List.append_assoc, List.getLast?_concat]
        simpa using hyphen z hz
  · intro h
    obtain ⟨a, rest, rfl⟩ := List.exists_cons_of_ne_nil h.ne_nil
    have ha : a.isAlphanum = true := h.isAlphanum List.mem_cons_self (by simpa using h.first)
    refine ⟨[a], rest, rfl, .oneOf (holds_alphanumerics_iff.2 ha), ?_⟩
    rw [Pattern.matches_optional_iff]
    rcases List.eq_nil_or_concat rest with rfl | ⟨middle, z, rfl⟩
    · exact Or.inl rfl
    · have last : z ≠ '-' := by
        have := h.last
        rw [List.concat_eq_append, ← List.cons_append, List.getLast?_concat] at this
        simpa using this
      have hz : z.isAlphanum = true := h.isAlphanum (by simp) last
      have short : middle.length ≤ 61 := by
        have := h.length_le
        simp only [List.length_cons, List.length_concat] at this
        omega
      have inside : ∀ c ∈ middle, CharRange.holds labelCharacters c = true :=
        fun c hc => holds_labelCharacters_iff.2 (h.chars c (by simp [hc]))
      rw [List.concat_eq_append]
      exact Or.inr (.seq (Pattern.matches_upTo_oneOf_iff.2 ⟨short, inside⟩)
        (.oneOf (holds_alphanumerics_iff.2 hz)))

/-! ## Domains and addresses -/

theorem domainText_cons (l : List Char) (labels : List (List Char)) :
    domainText (l :: labels) = l ++ (labels.map ('.' :: ·)).flatten := by
  induction labels generalizing l with
  | nil => simp [domainText, List.intercalate]
  | cons l' labels ih =>
    rw [domainText, List.intercalate_cons_cons, ← domainText, ih]
    simp

/-- The labels after the first one, each behind its dot. -/
theorem matches_further_iff {s : List Char} :
    Pattern.Matches (.many (.seq (.char '.') label)) s ↔
      ∃ labels : List (List Char), s = (labels.map ('.' :: ·)).flatten ∧ ∀ l ∈ labels, IsLabel l := by
  have part_iff : ∀ t : List Char, Pattern.Matches (.seq (.char '.') label) t ↔
      ∃ l, t = '.' :: l ∧ IsLabel l := by
    intro t
    rw [Pattern.matches_seq_iff]
    constructor
    · rintro ⟨s₁, s₂, rfl, dot, l⟩
      rw [Pattern.matches_char_iff.1 dot]
      exact ⟨s₂, rfl, matches_label_iff.1 l⟩
    · rintro ⟨l, rfl, hl⟩
      exact ⟨['.'], l, rfl, Pattern.matches_char_iff.2 rfl, matches_label_iff.2 hl⟩
  rw [Pattern.matches_many_iff]
  constructor
  · rintro ⟨parts, rfl, all⟩
    induction parts with
    | nil => exact ⟨[], rfl, by simp⟩
    | cons t parts ih =>
      obtain ⟨l, rfl, hl⟩ := (part_iff t).1 (all t List.mem_cons_self)
      obtain ⟨labels, same, hlabels⟩ := ih fun u hu => all u (List.mem_cons_of_mem _ hu)
      refine ⟨l :: labels, ?_, ?_⟩
      · rw [List.flatten_cons, List.map_cons, List.flatten_cons, same]
      · rintro l' hl'
        rcases List.mem_cons.1 hl' with rfl | hl'
        · exact hl
        · exact hlabels l' hl'
  · rintro ⟨labels, rfl, all⟩
    refine ⟨labels.map ('.' :: ·), rfl, fun t ht => ?_⟩
    obtain ⟨l, hl, rfl⟩ := List.mem_map.1 ht
    exact (part_iff _).2 ⟨l, rfl, all l hl⟩

/-- The pattern describes exactly the texts of addresses. -/
theorem matches_pattern_iff {s : List Char} : pattern.Matches s ↔ ∃ a : Address, s = a.text := by
  rw [pattern, Pattern.matches_seq_iff]
  constructor
  · rintro ⟨front, rest, rfl, hfront, hrest⟩
    obtain ⟨front_ne, all⟩ := Pattern.matches_oneOrMore_oneOf_iff.1 hfront
    obtain ⟨_, domain, rfl, at_sign, hdomain⟩ := Pattern.matches_seq_iff.1 hrest
    obtain ⟨l, further, rfl, hl, hfurther⟩ := Pattern.matches_seq_iff.1 hdomain
    obtain ⟨labels, rfl, hlabels⟩ := matches_further_iff.1 hfurther
    have isLabel : ∀ l' ∈ l :: labels, IsLabel l' := by
      intro l' hl'
      rcases List.mem_cons.1 hl' with rfl | hl'
      · exact matches_label_iff.1 hl
      · exact hlabels l' hl'
    refine ⟨⟨front, l :: labels, front_ne, fun c hc => holds_localCharacters_iff.1 (all c hc),
      List.cons_ne_nil _ _, isLabel⟩, ?_⟩
    rw [Address.text, domainText_cons, Pattern.matches_char_iff.1 at_sign]
    rfl
  · rintro ⟨a, rfl⟩
    obtain ⟨l, labels, hl⟩ := List.exists_cons_of_ne_nil a.labels_ne
    have isLabel := a.isLabel
    rw [hl] at isLabel
    refine ⟨a.localPart, '@' :: domainText a.labels, rfl, ?_, ?_⟩
    · exact Pattern.matches_oneOrMore_oneOf_iff.2
        ⟨a.localPart_ne, fun c hc => holds_localCharacters_iff.2 (a.isLocal c hc)⟩
    · rw [hl, domainText_cons]
      have further := matches_further_iff.2
        ⟨labels, rfl, fun l' hl' => isLabel l' (List.mem_cons_of_mem _ hl')⟩
      exact .seq (s := ['@']) (Pattern.matches_char_iff.2 rfl)
        (.seq (matches_label_iff.2 (isLabel l List.mem_cons_self)) further)

/-! ## What stands in an address -/

/-- A character of a domain. -/
theorem of_mem_domainText {labels : List (List Char)} {c : Char} (h : ∀ l ∈ labels, IsLabel l)
    (hc : c ∈ domainText labels) : c.isAlphanum = true ∨ c = '-' ∨ c = '.' := by
  cases labels with
  | nil => cases hc
  | cons l labels =>
    have char : ∀ l' ∈ l :: labels, ∀ d ∈ l', d.isAlphanum = true ∨ d = '-' ∨ d = '.' := by
      intro l' hl' d hd
      rcases (h l' hl').chars d hd with alnum | hyphen
      · exact Or.inl alnum
      · exact Or.inr (Or.inl hyphen)
    rw [domainText_cons, List.mem_append, List.mem_flatten] at hc
    rcases hc with hc | ⟨part, hpart, hc⟩
    · exact char l List.mem_cons_self c hc
    · obtain ⟨l', hl', rfl⟩ := List.mem_map.1 hpart
      rcases List.mem_cons.1 hc with rfl | hc
      · exact Or.inr (Or.inr rfl)
      · exact char l' (List.mem_cons_of_mem _ hl') c hc

/-- Every character of an address is an ASCII character that can be seen. -/
theorem Address.isVisible (a : Address) {c : Char} (hc : c ∈ a.text) :
    0x20 < c.toNat ∧ c.toNat < 0x7F := by
  have alnum : ∀ {d : Char}, d.isAlphanum = true → 0x20 < d.toNat ∧ d.toNat < 0x7F := by
    intro d hd
    have bounds := isAlphanum_iff.1 hd
    omega
  rw [Address.text, List.mem_append, List.mem_cons] at hc
  rcases hc with hc | rfl | hc
  · rcases a.isLocal c hc with h | h
    · exact alnum h
    · exact forall_mem_of_all (p := fun d => 0x20 < d.toNat ∧ d.toNat < 0x7F) (by decide) c h
  · decide
  · rcases of_mem_domainText a.isLabel hc with h | rfl | rfl
    · exact alnum h
    · decide
    · decide

/-- The sign between its parts is the only one. -/
theorem Address.count_at (a : Address) : a.text.count '@' = 1 := by
  have front : '@' ∉ a.localPart := by
    intro h
    exact absurd (a.isLocal _ h) (by unfold IsLocal; decide)
  have domain : '@' ∉ domainText a.labels := by
    intro h
    exact absurd (of_mem_domainText a.isLabel h) (by decide)
  rw [Address.text, List.count_append, List.count_cons_self, List.count_eq_zero.2 front,
    List.count_eq_zero.2 domain]

/-- A text is accepted exactly if it has 3 to 254 bytes and is a local part, `@` and a domain. So it is ASCII,
has one `@` and no white space. -/
theorem validate_eq_ok_iff (s : String) :
    (validate s = .ok () ↔
      3 ≤ s.utf8ByteSize ∧ s.utf8ByteSize ≤ 254 ∧ ∃ a : Address, s.toList = a.text) ∧
    (validate s = .ok () → s.toList.count '@' = 1 ∧
      ∀ c ∈ s.toList, c.toNat < 128 ∧ Blank.isBlank c = false) := by
  have accepted : validate s = .ok () ↔
      3 ≤ s.utf8ByteSize ∧ s.utf8ByteSize ≤ 254 ∧ ∃ a : Address, s.toList = a.text := by
    have bytes : (Utf8.encode s.toList).length = s.utf8ByteSize := Utf8.length_ofString s
    have checks : validate s = .ok () ↔ isAddress s.toList = true := by
      rw [validate]
      split <;> simp_all
    rw [checks, ← matches_pattern_iff, ← Pattern.accepts_iff, ← bytes]
    simp only [isAddress, Bool.and_eq_true, decide_eq_true_eq, and_assoc]
    rfl
  refine ⟨accepted, fun h => ?_⟩
  obtain ⟨-, -, a, text⟩ := accepted.1 h
  rw [text]
  refine ⟨a.count_at, fun c hc => ?_⟩
  obtain ⟨seen, ascii⟩ := a.isVisible hc
  have blank : Blank.isBlank c = false := by
    simp [Blank.isBlank]
    omega
  exact ⟨by omega, blank⟩

end CommitGate.Email
