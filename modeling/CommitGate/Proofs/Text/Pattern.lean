import CommitGate.Text.Pattern

/-! # The texts of a pattern

What a pattern describes is told by a relation between patterns and texts, one rule for each way of building
a text; reading character by character finds exactly these texts.

* `Pattern.matches_after_iff`: what is left of a pattern after a character describes what may follow it;
* `Pattern.accepts_iff`: so reading accepts exactly the texts of the pattern;
* `Pattern.matches_seq_iff`, `matches_many_iff`, `matches_upTo_oneOf_iff` and the like say of each kind of
  pattern which texts it has;
* `Pattern.accepts_map`: a pattern sees no more of a character than which of its classes it lies in.
-/

namespace CommitGate.Pattern

/-- The texts that a pattern describes. -/
inductive Matches : Pattern → List Char → Prop
  | nothing : Matches nothing []
  | oneOf {ranges : List CharRange} {c : Char} (h : CharRange.holds ranges c = true) :
      Matches (oneOf ranges) [c]
  | seq {p q : Pattern} {s t : List Char} (first : Matches p s) (second : Matches q t) :
      Matches (seq p q) (s ++ t)
  | left {p q : Pattern} {s : List Char} (h : Matches p s) : Matches (either p q) s
  | right {p q : Pattern} {s : List Char} (h : Matches q s) : Matches (either p q) s
  | none {p : Pattern} : Matches (many p) []
  | more {p : Pattern} {s t : List Char} (first : Matches p s) (others : Matches (many p) t) :
      Matches (many p) (s ++ t)

variable {p q : Pattern} {s : List Char} {ranges : List CharRange}

/-! ## Texts of each kind of pattern -/

theorem not_matches_never : ¬Matches never s := by
  intro h
  cases h

theorem matches_nothing_iff : Matches nothing s ↔ s = [] := by
  constructor
  · intro h
    cases h
    rfl
  · rintro rfl
    exact .nothing

theorem matches_oneOf_iff :
    Matches (oneOf ranges) s ↔ ∃ c, CharRange.holds ranges c = true ∧ s = [c] := by
  constructor
  · intro h
    cases h with
    | oneOf holds => exact ⟨_, holds, rfl⟩
  · rintro ⟨c, holds, rfl⟩
    exact .oneOf holds

theorem matches_seq_iff :
    Matches (seq p q) s ↔ ∃ s₁ s₂, s = s₁ ++ s₂ ∧ Matches p s₁ ∧ Matches q s₂ := by
  constructor
  · intro h
    cases h with
    | seq first second => exact ⟨_, _, rfl, first, second⟩
  · rintro ⟨s₁, s₂, rfl, first, second⟩
    exact .seq first second

theorem matches_either_iff : Matches (either p q) s ↔ Matches p s ∨ Matches q s := by
  constructor
  · intro h
    cases h with
    | left h => exact Or.inl h
    | right h => exact Or.inr h
  · rintro (h | h)
    · exact .left h
    · exact .right h

theorem matches_optional_iff : Matches (optional p) s ↔ s = [] ∨ Matches p s := by
  rw [optional, matches_either_iff, matches_nothing_iff]

theorem matches_char_iff {c : Char} : Matches (char c) s ↔ s = [c] := by
  have holds_iff : ∀ d, CharRange.holds [.only c] d = true ↔ c = d := by
    intro d
    rw [CharRange.holds, List.any_cons, List.any_nil, Bool.or_false, CharRange.contains_only_iff]
  rw [char, matches_oneOf_iff]
  constructor
  · rintro ⟨d, holds, rfl⟩
    rw [(holds_iff d).1 holds]
  · rintro rfl
    exact ⟨c, (holds_iff c).2 rfl, rfl⟩

/-- The texts of `many` are those that can be cut into texts of its body. -/
theorem matches_many_iff :
    Matches (many p) s ↔ ∃ parts : List (List Char), s = parts.flatten ∧ ∀ t ∈ parts, Matches p t := by
  constructor
  · intro h
    generalize hm : many p = m at h
    induction h with
    | none => exact ⟨[], rfl, by simp⟩
    | @more p' t u first others _ ih =>
      obtain ⟨parts, rfl, all⟩ := ih hm
      cases hm
      refine ⟨t :: parts, rfl, fun v hv => ?_⟩
      rcases List.mem_cons.1 hv with rfl | hv
      · exact first
      · exact all v hv
    | _ => cases hm
  · rintro ⟨parts, rfl, all⟩
    induction parts with
    | nil => exact .none
    | cons t parts ih =>
      have first : Matches p t := all t List.mem_cons_self
      exact .more first (ih fun u hu => all u (List.mem_cons_of_mem _ hu))

theorem matches_many_oneOf_iff :
    Matches (many (oneOf ranges)) s ↔ ∀ c ∈ s, CharRange.holds ranges c = true := by
  rw [matches_many_iff]
  constructor
  · rintro ⟨parts, rfl, all⟩ c hc
    obtain ⟨t, ht, hct⟩ := List.mem_flatten.1 hc
    obtain ⟨d, holds, rfl⟩ := matches_oneOf_iff.1 (all t ht)
    rw [List.mem_singleton.1 hct]
    exact holds
  · intro all
    refine ⟨s.map fun c => [c], (List.flatMap_singleton' s).symm, fun t ht => ?_⟩
    obtain ⟨c, hc, rfl⟩ := List.mem_map.1 ht
    exact .oneOf (all c hc)

theorem matches_oneOrMore_oneOf_iff :
    Matches (oneOrMore (oneOf ranges)) s ↔ s ≠ [] ∧ ∀ c ∈ s, CharRange.holds ranges c = true := by
  rw [oneOrMore, matches_seq_iff]
  constructor
  · rintro ⟨s₁, s₂, rfl, first, others⟩
    obtain ⟨c, holds, rfl⟩ := matches_oneOf_iff.1 first
    refine ⟨by simp, fun d hd => ?_⟩
    rcases List.mem_cons.1 hd with rfl | hd
    · exact holds
    · exact matches_many_oneOf_iff.1 others d hd
  · rintro ⟨ne, all⟩
    obtain ⟨c, rest, rfl⟩ := List.exists_cons_of_ne_nil ne
    refine ⟨[c], rest, rfl, .oneOf (all c List.mem_cons_self), ?_⟩
    exact matches_many_oneOf_iff.2 fun d hd => all d (List.mem_cons_of_mem _ hd)

/-- The texts of at most `n` characters of some ranges. -/
theorem matches_upTo_oneOf_iff {n : Nat} :
    Matches (upTo n (oneOf ranges)) s ↔
      s.length ≤ n ∧ ∀ c ∈ s, CharRange.holds ranges c = true := by
  induction n generalizing s with
  | zero =>
    rw [upTo, matches_nothing_iff, Nat.le_zero, List.length_eq_zero_iff]
    constructor
    · rintro rfl
      exact ⟨rfl, by simp⟩
    · rintro ⟨rfl, -⟩
      rfl
  | succ n ih =>
    rw [upTo, matches_optional_iff, matches_seq_iff]
    constructor
    · rintro (rfl | ⟨s₁, s₂, rfl, first, others⟩)
      · simp
      · obtain ⟨c, holds, rfl⟩ := matches_oneOf_iff.1 first
        obtain ⟨short, all⟩ := ih.1 others
        refine ⟨Nat.succ_le_succ short, fun d hd => ?_⟩
        rcases List.mem_cons.1 hd with rfl | hd
        · exact holds
        · exact all d hd
    · rintro ⟨short, all⟩
      cases s with
      | nil => exact Or.inl rfl
      | cons c rest =>
        have others := ih.2 ⟨Nat.le_of_succ_le_succ short, fun d hd => all d (List.mem_cons_of_mem _ hd)⟩
        exact Or.inr ⟨[c], rest, rfl, .oneOf (all c List.mem_cons_self), others⟩

/-! ## Reading -/

theorem admitsEmpty_iff : p.admitsEmpty = true ↔ Matches p [] := by
  induction p with
  | never => simp [admitsEmpty, not_matches_never]
  | nothing => simp [admitsEmpty, matches_nothing_iff]
  | oneOf ranges => simp [admitsEmpty, matches_oneOf_iff]
  | seq p q ihp ihq =>
    simp only [admitsEmpty, Bool.and_eq_true, ihp, ihq, matches_seq_iff]
    constructor
    · rintro ⟨hp, hq⟩
      exact ⟨[], [], rfl, hp, hq⟩
    · rintro ⟨s₁, s₂, empty, hp, hq⟩
      obtain ⟨rfl, rfl⟩ := List.append_eq_nil_iff.1 empty.symm
      exact ⟨hp, hq⟩
  | either p q ihp ihq => simp only [admitsEmpty, Bool.or_eq_true, ihp, ihq, matches_either_iff]
  | many p _ => exact ⟨fun _ => .none, fun _ => rfl⟩

/-- Leaving out the parts that add nothing changes no text. -/
theorem matches_followedBy_iff : Matches (p.followedBy q) s ↔ Matches (seq p q) s := by
  cases p with
  | never =>
    rw [followedBy, matches_seq_iff]
    simp only [not_matches_never, false_and, and_false, exists_false]
  | nothing =>
    rw [followedBy, matches_seq_iff]
    simp only [matches_nothing_iff]
    constructor
    · intro h
      exact ⟨[], s, rfl, rfl, h⟩
    · rintro ⟨s₁, s₂, rfl, rfl, h⟩
      exact h
  | _ => rfl

theorem matches_orElse_iff : Matches (p.orElse q) s ↔ Matches p s ∨ Matches q s := by
  unfold orElse
  split
  · simp only [not_matches_never, false_or]
  · simp only [not_matches_never, or_false]
  · exact matches_either_iff

/-- A text of `many` that is not empty begins with a text of the body that is not empty. -/
theorem exists_of_matches_many_cons {c : Char} (h : Matches (many p) (c :: s)) :
    ∃ s₁ s₂, s = s₁ ++ s₂ ∧ Matches p (c :: s₁) ∧ Matches (many p) s₂ := by
  generalize hm : many p = m at h
  generalize ht : c :: s = text at h
  -- on the way the text is cut up, since empty parts may stand in front
  induction h with
  | none => cases ht
  | @more p' t u first others _ ih =>
    cases hm
    cases t with
    | nil => exact ih rfl ht
    | cons d t =>
      cases ht
      exact ⟨t, u, rfl, first, others⟩
  | _ => cases hm

/-- What is left of a pattern after a character describes what may follow the character. -/
theorem matches_after_iff {c : Char} : Matches (p.after c) s ↔ Matches p (c :: s) := by
  -- on the pattern; in a sequence and in a repetition the character falls to the first part that is not empty
  induction p generalizing s with
  | never => simp only [after, not_matches_never]
  | nothing => simp only [after, not_matches_never, matches_nothing_iff, reduceCtorEq]
  | oneOf ranges =>
    simp only [after, matches_oneOf_iff, List.cons.injEq]
    split
    · rename_i holds
      rw [matches_nothing_iff]
      constructor
      · rintro rfl
        exact ⟨c, holds, rfl, rfl⟩
      · rintro ⟨d, -, -, rfl⟩
        rfl
    · rename_i outside
      constructor
      · intro h
        exact absurd h not_matches_never
      · rintro ⟨d, holds, rfl, -⟩
        exact absurd holds outside
  | seq p q ihp ihq =>
    -- the character is the first one of the first part, or that part is empty
    have inFirst : Matches ((p.after c).followedBy q) s ↔
        ∃ s₁ s₂, s = s₁ ++ s₂ ∧ Matches p (c :: s₁) ∧ Matches q s₂ := by
      rw [matches_followedBy_iff, matches_seq_iff]
      simp only [ihp]
    have cons_iff : Matches (seq p q) (c :: s) ↔
        (∃ s₁ s₂, s = s₁ ++ s₂ ∧ Matches p (c :: s₁) ∧ Matches q s₂) ∨
          Matches p [] ∧ Matches q (c :: s) := by
      rw [matches_seq_iff]
      constructor
      · rintro ⟨s₁, s₂, cut, hp, hq⟩
        cases s₁ with
        | nil =>
          cases cut
          exact Or.inr ⟨hp, hq⟩
        | cons d s₁ =>
          cases cut
          exact Or.inl ⟨s₁, s₂, rfl, hp, hq⟩
      · rintro (⟨s₁, s₂, rfl, hp, hq⟩ | ⟨hp, hq⟩)
        · exact ⟨c :: s₁, s₂, rfl, hp, hq⟩
        · exact ⟨[], c :: s, rfl, hp, hq⟩
    rw [cons_iff, after]
    split
    · rename_i empty
      rw [matches_orElse_iff, inFirst, ihq]
      simp only [admitsEmpty_iff.1 empty, true_and]
    · rename_i full
      rw [inFirst]
      have none : ¬Matches p [] := fun h => full (admitsEmpty_iff.2 h)
      simp only [none, false_and, or_false]
  | either p q ihp ihq => simp only [after, matches_orElse_iff, ihp, ihq, matches_either_iff]
  | many p ih =>
    rw [after, matches_followedBy_iff, matches_seq_iff]
    simp only [ih]
    constructor
    · rintro ⟨s₁, s₂, rfl, first, others⟩
      exact .more first others
    · exact exists_of_matches_many_cons

/-- Reading accepts exactly the texts that a pattern describes. -/
theorem accepts_iff : p.accepts s = true ↔ Matches p s := by
  induction s generalizing p with
  | nil => exact admitsEmpty_iff
  | cons c s ih => rw [accepts, ih, matches_after_iff]

/-! ## Classes of characters -/

/-- The classes of characters that a pattern asks for. -/
def classes : Pattern → List (List CharRange)
  | never | nothing => []
  | oneOf ranges => [ranges]
  | seq p q | either p q => p.classes ++ q.classes
  | many p => p.classes

theorem classes_followedBy_subset : (p.followedBy q).classes ⊆ p.classes ++ q.classes := by
  unfold followedBy
  split
  · exact List.nil_subset _
  · exact List.subset_append_right _ _
  · exact List.Subset.refl _

theorem classes_orElse_subset : (p.orElse q).classes ⊆ p.classes ++ q.classes := by
  unfold orElse
  split
  · exact List.subset_append_right _ _
  · exact List.subset_append_left _ _
  · exact List.Subset.refl _

/-- What is left of a pattern after a character asks for nothing new. -/
theorem classes_after_subset (c : Char) : (p.after c).classes ⊆ p.classes := by
  -- on the pattern, along the definition of what is left of it
  induction p with
  | never => exact List.Subset.refl _
  | nothing => exact List.Subset.refl _
  | oneOf ranges =>
    rw [after]
    split
    · exact List.nil_subset _
    · exact List.nil_subset _
  | seq p q ihp ihq =>
    have inFirst : ((p.after c).followedBy q).classes ⊆ p.classes ++ q.classes :=
      List.Subset.trans classes_followedBy_subset (List.append_subset.2
        ⟨List.Subset.trans ihp (List.subset_append_left _ _), List.subset_append_right _ _⟩)
    rw [after]
    split
    · exact List.Subset.trans classes_orElse_subset (List.append_subset.2
        ⟨inFirst, List.Subset.trans ihq (List.subset_append_right _ _)⟩)
    · exact inFirst
  | either p q ihp ihq =>
    exact List.Subset.trans classes_orElse_subset (List.append_subset.2
      ⟨List.Subset.trans ihp (List.subset_append_left _ _),
        List.Subset.trans ihq (List.subset_append_right _ _)⟩)
  | many p ih =>
    exact List.Subset.trans classes_followedBy_subset (List.append_subset.2 ⟨ih, List.Subset.refl _⟩)

/-- Characters that lie in the same classes leave the same. -/
theorem after_congr {c d : Char}
    (h : ∀ ranges ∈ p.classes, CharRange.holds ranges c = CharRange.holds ranges d) :
    p.after c = p.after d := by
  induction p with
  | never => rfl
  | nothing => rfl
  | oneOf ranges => rw [after, after, h ranges (List.mem_singleton_self ranges)]
  | seq p q ihp ihq =>
    have first := ihp fun ranges hr => h ranges (List.mem_append_left _ hr)
    have second := ihq fun ranges hr => h ranges (List.mem_append_right _ hr)
    rw [after, after, first, second]
  | either p q ihp ihq =>
    have left := ihp fun ranges hr => h ranges (List.mem_append_left _ hr)
    have right := ihq fun ranges hr => h ranges (List.mem_append_right _ hr)
    rw [after, after, left, right]
  | many p ih => rw [after, after, ih h]

/-- Characters may be replaced by others of the same classes. -/
theorem accepts_map {f : Char → Char}
    (h : ∀ ranges ∈ p.classes, ∀ c, CharRange.holds ranges (f c) = CharRange.holds ranges c) :
    p.accepts (s.map f) = p.accepts s := by
  induction s generalizing p with
  | nil => rfl
  | cons c s ih =>
    have same : p.after (f c) = p.after c := after_congr fun ranges hr => h ranges hr c
    rw [List.map_cons, accepts, accepts, same]
    exact ih fun ranges hr => h ranges (classes_after_subset c hr)

end CommitGate.Pattern
