/-! # Ranges of characters

A property of characters is a list of ranges of code points in increasing order.

* `CharRange.holds ranges c` says whether `c` lies in one of the ranges.
-/

namespace CommitGate

/-- The code points from `first` to `last`, both included. -/
structure CharRange where
  first : Nat
  last : Nat
deriving DecidableEq, Repr

namespace CharRange

/-- The characters from `a` to `b`. -/
def span (a b : Char) : CharRange := ⟨a.toNat, b.toNat⟩

/-- One character alone. -/
def only (c : Char) : CharRange := span c c

/-- Whether the code point `n` lies in the range. -/
def contains (r : CharRange) (n : Nat) : Bool := r.first ≤ n && n ≤ r.last

/-- Whether `c` lies in one of the ranges. -/
def holds (ranges : List CharRange) (c : Char) : Bool := ranges.any fun r => r.contains c.toNat

theorem holds_iff (ranges : List CharRange) (c : Char) :
    holds ranges c = true ↔ ∃ r ∈ ranges, r.first ≤ c.toNat ∧ c.toNat ≤ r.last := by
  simp [holds, contains]

/-- A range of one character has just that. -/
theorem contains_only_iff {d c : Char} : (only d).contains c.toNat = true ↔ d = c := by
  rw [contains, Bool.and_eq_true, decide_eq_true_eq, decide_eq_true_eq]
  constructor
  · rintro ⟨le, ge⟩
    exact Char.toNat_inj.1 (Nat.le_antisymm le ge)
  · rintro rfl
    exact ⟨Nat.le_refl _, Nat.le_refl _⟩

end CharRange

end CommitGate
