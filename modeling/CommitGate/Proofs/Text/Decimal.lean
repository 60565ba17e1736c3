import CommitGate.Text.Decimal
import CommitGate.Text.Utf8

/-! # Decimal numbers, written and read

What `Decimal` writes is read back:

* `ofDigits_digits`, `ofDigits_padded`: the digits of a number denote it;
* `int?_ofInt`: the text of an integer is read as that integer.
-/

namespace CommitGate

namespace Decimal

theorem ofDigits_eq (s : List Char) : ofDigits s = Nat.ofDigitChars 10 s 0 := by
  rw [Nat.ofDigitChars_eq_foldl, ofDigits]
  simp only [digitValue, Nat.mul_comm]

@[simp] theorem ofDigits_digits (n : Nat) : ofDigits (digits n) = n := by
  rw [ofDigits_eq, digits, Nat.ofDigitChars_ten_toDigits]

@[simp] theorem ofDigits_padded (width n : Nat) : ofDigits (padded width n) = n := by
  rw [ofDigits_eq, padded, digits, Nat.ofDigitChars_append, Nat.ofDigitChars_replicate_zero,
    Nat.mul_zero, Nat.ofDigitChars_ten_toDigits]

theorem isDigit_iff {c : Char} : isDigit c = true ↔ 48 ≤ c.toNat ∧ c.toNat ≤ 57 := by
  simp only [isDigit, Bool.and_eq_true, decide_eq_true_eq, Char.le_def, UInt32.le_iff_toNat_le]
  exact Iff.rfl

theorem isDigit_of_mem_digits {n : Nat} {c : Char} (h : c ∈ digits n) : isDigit c = true := by
  have := Nat.isDigit_of_mem_toDigits (by decide) (by decide) h
  simpa [isDigit, Char.isDigit, Char.le_def] using this

theorem isDigit_of_mem_padded {width n : Nat} {c : Char} (h : c ∈ padded width n) :
    isDigit c = true := by
  rcases List.mem_append.1 h with h | h
  · rw [List.eq_of_mem_replicate h]
    decide
  · exact isDigit_of_mem_digits h

theorem digits_ne_nil (n : Nat) : digits n ≠ [] := Nat.toDigits_ne_nil

/-- A number has as many digits as there is room for, with zeros before its own if need be. -/
theorem length_padded {width n : Nat} (room : (digits n).length ≤ width) :
    (padded width n).length = width := by
  rw [padded, List.length_append, List.length_replicate]
  omega

theorem length_padded_two {n : Nat} (h : n < 100) : (padded 2 n).length = 2 :=
  length_padded ((Nat.length_toDigits_le_iff (by decide) (by decide)).2 h)

theorem length_padded_four {n : Nat} (h : n < 10000) : (padded 4 n).length = 4 :=
  length_padded ((Nat.length_toDigits_le_iff (by decide) (by decide)).2 h)

@[simp] theorem value?_digits (n : Nat) : value? (digits n) = some n := by
  have all : (digits n).all isDigit = true := List.all_eq_true.2 fun c => isDigit_of_mem_digits
  simp [value?, all, digits_ne_nil]

/-- Digits alone are read without a sign. -/
theorem int?_digits (n : Nat) : int? (digits n) = some (n : Int) := by
  have hv := value?_digits n
  cases hd : digits n with
  | nil => exact absurd hd (digits_ne_nil n)
  | cons c rest =>
    have hc : isDigit c = true := isDigit_of_mem_digits (n := n) (by simp [hd])
    rw [hd] at hv
    unfold int?
    split
    · rename_i heq
      cases heq
      cases hc
    · rename_i heq
      cases heq
      cases hc
    · simp [hv]

/-- The text of an integer is read as that integer. -/
theorem int?_ofInt (i : Int) : int? (ofInt i) = some i := by
  unfold ofInt
  split
  · have negated : int? ('-' :: digits i.natAbs) = some (-(i.natAbs : Int)) := by simp [int?]
    rw [negated, Option.some.injEq]
    omega
  · rw [int?_digits, Option.some.injEq]
    omega

theorem isDigit_of_value? {s : List Char} {n : Nat} (h : value? s = some n) :
    ∀ c ∈ s, isDigit c = true := by
  unfold value? at h
  split at h
  · rename_i hs
    rw [Bool.and_eq_true] at hs
    exact List.all_eq_true.1 hs.2
  · cases h

/-- What is read as an integer consists of digits and signs. -/
theorem mem_of_int? {s : List Char} {i : Int} (h : int? s = some i) :
    ∀ c ∈ s, c = '-' ∨ c = '+' ∨ isDigit c = true := by
  intro c hc
  unfold int? at h
  split at h
  · rename_i s
    cases hv : value? s with
    | none => simp [hv] at h
    | some n =>
      rcases List.mem_cons.1 hc with rfl | hc
      · exact .inl rfl
      · exact .inr (.inr (isDigit_of_value? hv c hc))
  · rename_i s
    cases hv : value? s with
    | none => simp [hv] at h
    | some n =>
      rcases List.mem_cons.1 hc with rfl | hc
      · exact .inr (.inl rfl)
      · exact .inr (.inr (isDigit_of_value? hv c hc))
  · cases hv : value? s with
    | none => simp [hv] at h
    | some n => exact .inr (.inr (isDigit_of_value? hv c hc))

theorem mem_ofInt {i : Int} {c : Char} (h : c ∈ ofInt i) : c = '-' ∨ isDigit c = true := by
  unfold ofInt at h
  split at h
  · rcases List.mem_cons.1 h with h | h
    · exact .inl h
    · exact .inr (isDigit_of_mem_digits h)
  · exact .inr (isDigit_of_mem_digits h)

end Decimal

end CommitGate
