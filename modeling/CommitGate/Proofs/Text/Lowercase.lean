import CommitGate.Proofs.Text.Utf8
import CommitGate.Text.Lowercase
import Mathlib.Data.List.Forall2

/-! # Texts whose lower-case form is ASCII

The lower-case form of a text depends on context and need not be as long as the text. Where it is ASCII
nothing of this can have happened: it was made character by character, from ASCII characters and from one
other.

* `lower_shape`: what one character becomes, by the table of letters;
* `lowercase_eq_iff`: a text has a given ASCII text for its lower-case form exactly if each character by
  itself becomes the character at its place;
* `lowercase_of_ascii`: an ASCII text changes its ASCII letters only.
-/

namespace CommitGate

/-! ## ASCII case -/

/-- Beyond ASCII there are no ASCII letters. -/
theorem toLower_of_not_ascii {c : Char} (h : ¬c.toNat < 0x80) : c.toLower = c := by
  have range : ¬(c.val ≥ 'A'.val ∧ c.val ≤ 'Z'.val) := by
    rintro ⟨-, le⟩
    have small : c.toNat ≤ 0x5A := UInt32.le_iff_toNat_le.1 le
    omega
  exact dif_neg range

/-- What the ASCII lower-case forms of all ASCII characters share with these, all characters share. -/
theorem toLower_congr {α : Type} {f : Char → α} (h : ∀ c : Char, c.toNat < 0x80 → f c.toLower = f c)
    (c : Char) : f c.toLower = f c := by
  by_cases ascii : c.toNat < 0x80
  · exact h c ascii
  · rw [toLower_of_not_ascii ascii]

/-- Lower case neither leaves ASCII nor enters it. -/
theorem toLower_ascii_iff (c : Char) : c.toLower.toNat < 0x80 ↔ c.toNat < 0x80 := by
  have same := toLower_congr (f := fun c => decide (c.toNat < 0x80))
    (forall_ascii (by decide +kernel)) c
  exact decide_eq_decide.1 same

theorem toLower_toLower (c : Char) : c.toLower.toLower = c.toLower :=
  toLower_congr (f := Char.toLower) (forall_ascii (by decide +kernel)) c

namespace Lowercase

open LetterCase

/-! ## One character -/

/-- The Kelvin sign, whose lower-case form is the letter `k`. -/
def kelvin : Char := '\u212A'

/-- How a character may become `x` in lower case if `x` is ASCII: it differs in ASCII case at most, or is the
Kelvin sign. -/
def Becomes (c x : Char) : Prop := c.toLower = x ∨ c = kelvin ∧ x = 'k'

/-- The forms of the run's letters are characters beyond ASCII. -/
def StaysBeyond (r : Run) : Prop :=
  0x80 ≤ r.first + r.offset ∧
    (r.last + r.offset < 0xD800 ∨ 0xE000 ≤ r.first + r.offset ∧ r.last + r.offset < 0x110000)

instance (r : Run) : Decidable (StaysBeyond r) :=
  inferInstanceAs (Decidable (0x80 ≤ r.first + r.offset ∧
    (r.last + r.offset < 0xD800 ∨ 0xE000 ≤ r.first + r.offset ∧ r.last + r.offset < 0x110000)))

/-- Of all runs, only those of the ASCII capitals and of the Kelvin sign lead to ASCII. -/
theorem staysBeyond_of_mem_runs :
    ∀ r ∈ runs, r = ⟨0x41, 0x5A, 1, 32⟩ ∨ r = ⟨0x212A, 0x212A, 1, -8383⟩ ∨ StaysBeyond r := by
  decide +kernel

theorem lower_of_ascii {c : Char} (h : c.toNat < 0x80) : lower c = [c.toLower] :=
  forall_ascii (p := fun c => lower c = [c.toLower]) (by decide +kernel) c h

/-- A character becomes one character, which is ASCII in known cases only, or it is the one that becomes
two. -/
theorem lower_shape (c : Char) :
    lower c = ['i', '\u0307'] ∨ ∃ x, lower c = [x] ∧ (x.toNat < 0x80 → Becomes c x) := by
  by_cases ascii : c.toNat < 0x80
  · exact Or.inr ⟨c.toLower, lower_of_ascii ascii, fun _ => Or.inl rfl⟩
  unfold lower
  split
  · exact Or.inl rfl
  · refine Or.inr ?_
    split
    · rename_i r found
      have bounds : r.first ≤ c.toNat ∧ c.toNat ≤ r.last := by
        have inside := List.find?_some found
        simp only [Run.contains, Bool.and_eq_true, decide_eq_true_eq] at inside
        exact inside.1
      refine ⟨_, rfl, fun small => ?_⟩
      rcases staysBeyond_of_mem_runs r (List.mem_of_find?_eq_some found) with rfl | rfl | beyond
      · -- the capitals of ASCII
        have small : c.toNat ≤ 0x5A := bounds.2
        omega
      · have sign : c = kelvin := Char.toNat_inj.1 (Nat.le_antisymm bounds.2 bounds.1)
        rw [sign]
        exact Or.inr ⟨rfl, rfl⟩
      · unfold StaysBeyond at beyond
        rw [Utf8.toNat_ofNat_of_valid (by omega)] at small
        omega
    · exact ⟨c, rfl, fun small => absurd small ascii⟩

theorem lower_eq_iff {c x : Char} (ascii : x.toNat < 0x80) : lower c = [x] ↔ Becomes c x := by
  constructor
  · intro h
    rcases lower_shape c with two | ⟨y, one, becomes⟩
    · rw [two] at h
      cases h
    · rw [one] at h
      cases h
      exact becomes ascii
  · rintro (rfl | ⟨rfl, rfl⟩)
    · exact lower_of_ascii ((toLower_ascii_iff c).1 ascii)
    · decide +kernel

/-! ## Texts -/

/-- The induction is on the text, whatever stands before it: a sigma, for which that counts, does not
become ASCII in either form. -/
theorem lowercaseAfter_eq_iff {before s t : List Char} (ascii : ∀ x ∈ t, x.toNat < 0x80) :
    lowercaseAfter before s = t ↔ List.Forall₂ Becomes s t := by
  induction s generalizing before t with
  | nil =>
    rw [lowercaseAfter, List.forall₂_nil_left_iff]
    exact eq_comm
  | cons c rest ih =>
    rw [lowercaseAfter, List.forall₂_cons_left_iff]
    constructor
    · rintro rfl
      split at ascii
      · -- either form of sigma
        have small := ascii (lowerSigma before rest) (by simp)
        rw [lowerSigma] at small
        split at small
        · exact absurd small (by decide)
        · exact absurd small (by decide)
      · rename_i noSigma
        rw [if_neg noSigma]
        rcases lower_shape c with two | ⟨x, one, becomes⟩
        · rw [two] at ascii
          exact absurd (ascii '\u0307' (by simp)) (by decide)
        · rw [one] at ascii ⊢
          refine ⟨x, lowercaseAfter (c :: before) rest, becomes (ascii x (by simp)), ?_, rfl⟩
          exact (ih fun y hy => ascii y (List.mem_append_right _ hy)).1 rfl
    · rintro ⟨x, u, becomes, others, rfl⟩
      have small : x.toNat < 0x80 := ascii x List.mem_cons_self
      have noSigma : c ≠ 'Σ' := by
        rintro rfl
        rcases becomes with rfl | ⟨same, -⟩
        · exact absurd small (by decide)
        · exact absurd same (by decide)
      rw [if_neg noSigma, (lower_eq_iff small).2 becomes,
        (ih fun y hy => ascii y (List.mem_cons_of_mem _ hy)).2 others]
      rfl

/-- An ASCII text is the lower-case form of the texts whose characters become its characters. -/
theorem lowercase_eq_iff {s t : List Char} (ascii : ∀ x ∈ t, x.toNat < 0x80) :
    lowercase s = t ↔ List.Forall₂ Becomes s t :=
  lowercaseAfter_eq_iff ascii

/-- In an ASCII text the letters change, each by itself. -/
theorem lowercase_of_ascii {s : List Char} (ascii : ∀ c ∈ s, c.toNat < 0x80) :
    lowercase s = s.map Char.toLower := by
  have small : ∀ x ∈ s.map Char.toLower, x.toNat < 0x80 := by
    intro x hx
    obtain ⟨c, hc, rfl⟩ := List.mem_map.1 hx
    exact (toLower_ascii_iff c).2 (ascii c hc)
  rw [lowercase_eq_iff small, List.forall₂_map_right_iff, List.forall₂_same]
  exact fun c _ => Or.inl rfl

end Lowercase

end CommitGate
