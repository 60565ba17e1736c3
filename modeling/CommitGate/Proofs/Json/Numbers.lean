import CommitGate.Json.Number
import CommitGate.Proofs.Json.Grammar

/-! # Passing over numbers

A number of any size is passed over exactly if it is one of the grammar.

* `skipNumber_number`: a number is passed over, if what follows may stand behind a value (`Follows`);
* `of_skipNumber`: what has been passed over was a number.
-/

namespace CommitGate.Json

namespace Reader

/-! ## Digits -/

/-- A number ends here: the text does, or what comes next may stand behind a value. -/
def Follows (rest : Bytes) : Prop :=
  ∀ b ∈ rest.head?, isSpace b = true ∨ b = 0x2C ∨ b = 0x5D ∨ b = 0x7D

/-- No sign of a number may stand behind a value. -/
theorem Follows.sign {b : UInt8} {more : Bytes} (h : Follows (b :: more)) :
    isDigit b = false ∧ b ≠ 0x2E ∧ isExponent (some b) = false := by
  have all : ∀ b, isSpace b = true ∨ b = 0x2C ∨ b = 0x5D ∨ b = 0x7D →
      isDigit b = false ∧ b ≠ 0x2E ∧ isExponent (some b) = false := forall_byte (by decide +kernel)
  exact all b (h b rfl)

theorem skipWhile_eq (p : UInt8 → Bool) (n : Nat) (bs : Bytes) :
    skipWhile p ⟨n, bs⟩ = (.ok (bs.takeWhile p).length, ⟨n + (bs.takeWhile p).length, bs.dropWhile p⟩) := by
  have drop : bs.drop (bs.takeWhile p).length = bs.dropWhile p := by
    conv => lhs; arg 2; rw [← List.takeWhile_append_dropWhile (p := p) (l := bs)]
    exact List.drop_left
  rw [skipWhile, drop]

/-- Digits are passed over up to what is none. -/
theorem skipWhile_digits {ds rest : Bytes} (digits : ∀ b ∈ ds, Bytes.isDigit b = true)
    (stop : ∀ b ∈ rest.head?, isDigit b = false) (n : Nat) :
    skipWhile isDigit ⟨n, ds ++ rest⟩ = (.ok ds.length, ⟨n + ds.length, rest⟩) := by
  have digits : ∀ b ∈ ds, isDigit b = true := digits
  have none : rest.takeWhile isDigit = [] ∧ rest.dropWhile isDigit = rest := by
    cases rest with
    | nil => exact ⟨rfl, rfl⟩
    | cons b rest => simp [stop b rfl]
  rw [skipWhile_eq, List.takeWhile_append_of_pos digits, List.dropWhile_append_of_pos digits, none.1, none.2,
    List.append_nil]

/-- What has been passed over were digits. -/
theorem of_skipWhile {n k : Nat} {bs : Bytes} {c : Cursor} (h : skipWhile isDigit ⟨n, bs⟩ = (.ok k, c)) :
    ∃ ds, ds.length = k ∧ (∀ b ∈ ds, Bytes.isDigit b = true) ∧ bs = ds ++ c.rest := by
  rw [skipWhile_eq] at h
  cases h
  exact ⟨_, rfl, List.all_eq_true.1 List.all_takeWhile, List.takeWhile_append_dropWhile.symm⟩

/-! ## Exponents -/

section

variable {n : Nat} {c : Cursor} {u : Unit}

/-- The digits of an exponent, at least one. -/
def skipPower : Reader Unit := do
  match ← next with
  | some b => if isDigit b then discard (skipWhile isDigit) else failHere .invalidNumber
  | none => failHere .invalidNumber

theorem skipExponent_cons (e b : UInt8) (bs : Bytes) :
    skipExponent ⟨n, e :: b :: bs⟩ =
      if b = 0x2B ∨ b = 0x2D then skipPower ⟨n + 2, bs⟩ else skipPower ⟨n + 1, b :: bs⟩ := by
  have peeked : peek ⟨n + 1, b :: bs⟩ = (.ok (some b), ⟨n + 1, b :: bs⟩) := rfl
  unfold skipExponent
  rw [bind_of_ok (skip_cons n), bind_of_ok peeked]
  by_cases plus : b = 0x2B
  · rw [plus, if_pos (.inl rfl)]
    exact bind_of_ok (skip_cons _)
  · by_cases minus : b = 0x2D
    · rw [minus, if_pos (.inr rfl)]
      exact bind_of_ok (skip_cons _)
    · rw [if_neg (not_or.2 ⟨plus, minus⟩)]
      refine congrFun (f := _) (g := skipPower) ?_ _
      split
      · rename_i same
        exact absurd (Option.some.inj same) plus
      · rename_i same
        exact absurd (Option.some.inj same) minus
      · rfl

theorem skipPower_digits {ds rest : Bytes} (h : IsDigits ds) (stop : ∀ b ∈ rest.head?, isDigit b = false) (n : Nat) :
    Ends (skipPower ⟨n, ds ++ rest⟩) (some ()) rest := by
  obtain ⟨nonempty, digits⟩ := h
  obtain ⟨b, ds, rfl⟩ := List.exists_cons_of_ne_nil nonempty
  obtain ⟨first, others⟩ := List.forall_mem_cons.1 digits
  have read : next ⟨n, b :: ds ++ rest⟩ = (.ok (some b), ⟨n + 1, ds ++ rest⟩) := rfl
  unfold skipPower
  rw [bind_of_ok read]
  simp only [show isDigit b = true from first, if_true]
  exact ⟨_, discard_of_ok (skipWhile_digits others stop _)⟩

theorem of_skipPower {bs : Bytes} (h : skipPower ⟨n, bs⟩ = (.ok u, c)) : ∃ ds, IsDigits ds ∧ bs = ds ++ c.rest := by
  unfold skipPower at h
  cases bs with
  | nil => cases h
  | cons b bs =>
    have read : next ⟨n, b :: bs⟩ = (.ok (some b), ⟨n + 1, bs⟩) := rfl
    rw [bind_of_ok read] at h
    dsimp only at h
    split at h
    · rename_i first
      obtain ⟨k, passed⟩ := of_discard h
      obtain ⟨ds, -, digits, rfl⟩ := of_skipWhile passed
      exact ⟨b :: ds, ⟨List.cons_ne_nil _ _, List.forall_mem_cons.2 ⟨first, digits⟩⟩, rfl⟩
    · cases h

/-- An exponent is passed over. -/
theorem skipExponent_exponent {e : UInt8} {sign ds rest : Bytes} (signed : sign = [] ∨ sign = [0x2B] ∨ sign = [0x2D])
    (h : IsDigits ds) (stop : ∀ b ∈ rest.head?, isDigit b = false) (n : Nat) :
    Ends (skipExponent ⟨n, e :: (sign ++ (ds ++ rest))⟩) (some ()) rest := by
  rcases signed with rfl | rfl | rfl
  · have read := skipPower_digits h stop (n + 1)
    obtain ⟨b, more, rfl⟩ := List.exists_cons_of_ne_nil h.1
    have digit : Bytes.isDigit b = true := h.2 b (List.mem_cons_self ..)
    have unsigned : ¬(b = 0x2B ∨ b = 0x2D) := by
      rintro (rfl | rfl)
      · cases digit
      · cases digit
    rw [List.nil_append, List.cons_append, skipExponent_cons, if_neg unsigned]
    exact read
  · rw [List.cons_append, skipExponent_cons, if_pos (.inl rfl)]
    exact skipPower_digits h stop _
  · rw [List.cons_append, skipExponent_cons, if_pos (.inr rfl)]
    exact skipPower_digits h stop _

/-- What has been passed over as an exponent was one. -/
theorem of_skipExponent {e : UInt8} {bs : Bytes} (h : skipExponent ⟨n, e :: bs⟩ = (.ok u, c)) :
    ∃ sign ds, (sign = [] ∨ sign = [0x2B] ∨ sign = [0x2D]) ∧ IsDigits ds ∧ bs = sign ++ (ds ++ c.rest) := by
  cases bs with
  | nil => cases h
  | cons b bs =>
    rw [skipExponent_cons] at h
    split at h
    · rename_i signed
      obtain ⟨ds, digits, rfl⟩ := of_skipPower h
      rcases signed with rfl | rfl
      · exact ⟨[0x2B], ds, .inr (.inl rfl), digits, rfl⟩
      · exact ⟨[0x2D], ds, .inr (.inr rfl), digits, rfl⟩
    · obtain ⟨ds, digits, tail⟩ := of_skipPower h
      exact ⟨[], ds, .inl rfl, digits, tail⟩

end

/-! ## Numbers -/

section

variable {n : Nat} {c : Cursor} {u : Unit}

/-- What may follow the integral digits of a number. -/
def skipTail : Reader Unit := do
  let mark ← peek
  if mark == some 0x2E then
    skip
    let count ← skipWhile isDigit
    if count = 0 then failNext .invalidNumber
    else if isExponent (← peek) then skipExponent
  else if isExponent mark then skipExponent

theorem peek_eq (bs : Bytes) : peek ⟨n, bs⟩ = (.ok bs.head?, ⟨n, bs⟩) := rfl

theorem skipNumber_zero (bs : Bytes) :
    skipNumber ⟨n, 0x30 :: bs⟩ =
      if bs.head?.any isDigit then (.error ⟨.invalidNumber, some (n + 2)⟩, ⟨n + 1, bs⟩) else skipTail ⟨n + 1, bs⟩ := by
  have read : next ⟨n, 0x30 :: bs⟩ = (.ok (some 0x30), ⟨n + 1, bs⟩) := rfl
  unfold skipNumber
  rw [bind_of_ok read]
  dsimp only
  rw [beq_self_eq_true, if_pos rfl, bind_of_ok (peek_eq bs)]
  cases bs with
  | nil => rfl
  | cons d bs =>
    rw [List.head?_cons, Option.any_some]
    cases h : isDigit d with
    | true =>
      simp only [h, if_true]
      exact bind_of_error rfl
    | false =>
      simp only [h, Bool.false_eq_true, if_false]
      rfl

theorem skipNumber_digit {b : UInt8} (bs : Bytes) (digit : Bytes.isDigit b = true) (zero : b ≠ 0x30) :
    skipNumber ⟨n, b :: bs⟩ = (discard (skipWhile isDigit) >>= fun _ => skipTail) ⟨n + 1, bs⟩ := by
  have read : next ⟨n, b :: bs⟩ = (.ok (some b), ⟨n + 1, bs⟩) := rfl
  unfold skipNumber
  rw [bind_of_ok read]
  dsimp only
  rw [beq_false_of_ne zero, if_neg Bool.false_ne_true, if_pos (show isDigit b = true from digit)]
  rfl

/-- An exponent, if one comes next. -/
def skipAnyExponent : Reader Unit := do if isExponent (← peek) then skipExponent

theorem skipTail_point (bs : Bytes) :
    skipTail ⟨n, 0x2E :: bs⟩ =
      (skipWhile isDigit >>= fun count => if count = 0 then failNext .invalidNumber else skipAnyExponent)
        ⟨n + 1, bs⟩ := by
  unfold skipTail
  rw [bind_of_ok (peek_eq _)]
  exact bind_of_ok (skip_cons n)

theorem skipTail_other {bs : Bytes} (other : bs.head? ≠ some 0x2E) :
    skipTail ⟨n, bs⟩ = skipAnyExponent ⟨n, bs⟩ := by
  unfold skipTail skipAnyExponent
  rw [bind_of_ok (peek_eq _), bind_of_ok (peek_eq _), beq_false_of_ne other]
  rfl

theorem isExponent_iff {b : UInt8} : isExponent (some b) = true ↔ b = 0x65 ∨ b = 0x45 := by
  simp [isExponent]

/-- Behind a number there are no digits and there is no exponent. -/
theorem Follows.head {rest : Bytes} (h : Follows rest) :
    (∀ b ∈ rest.head?, isDigit b = false) ∧ rest.head? ≠ some 0x2E ∧ isExponent rest.head? = false := by
  cases rest with
  | nil => exact ⟨fun _ none => absurd none (Option.not_mem_none _), by decide, rfl⟩
  | cons b more =>
    obtain ⟨digit, point, exponent⟩ := h.sign
    refine ⟨fun x hx => ?_, mt Option.some.inj point, exponent⟩
    obtain rfl := Option.some.inj hx
    exact digit

theorem skipAnyExponent_exponent {exponent rest : Bytes} (h : IsExponent exponent) (follows : Follows rest) (n : Nat) :
    Ends (skipAnyExponent ⟨n, exponent ++ rest⟩) (some ()) rest := by
  unfold skipAnyExponent
  rw [bind_of_ok (peek_eq _)]
  rcases h with rfl | ⟨e, sign, ds, letter, signed, digits, rfl⟩
  · rw [List.nil_append, follows.head.2.2]
    exact ⟨n, rfl⟩
  · rw [List.cons_append, List.append_assoc, List.head?_cons, if_pos (isExponent_iff.2 letter)]
    exact skipExponent_exponent signed digits follows.head.1 n

theorem of_skipAnyExponent {bs : Bytes} (h : skipAnyExponent ⟨n, bs⟩ = (.ok u, c)) :
    ∃ exponent, IsExponent exponent ∧ bs = exponent ++ c.rest := by
  unfold skipAnyExponent at h
  rw [bind_of_ok (peek_eq _)] at h
  split at h
  · rename_i letter
    cases bs with
    | nil => cases letter
    | cons e bs =>
      obtain ⟨sign, ds, signed, digits, rfl⟩ := of_skipExponent h
      exact ⟨e :: (sign ++ ds), .inr ⟨e, sign, ds, isExponent_iff.1 letter, signed, digits, rfl⟩, by simp⟩
  · cases h
    exact ⟨[], .inl rfl, rfl⟩

theorem IsExponent.head {exponent rest : Bytes} (h : IsExponent exponent) (follows : Follows rest) :
    (∀ b ∈ (exponent ++ rest).head?, isDigit b = false) ∧ (exponent ++ rest).head? ≠ some 0x2E := by
  rcases h with rfl | ⟨e, sign, ds, letter, -, -, rfl⟩
  · exact ⟨follows.head.1, follows.head.2.1⟩
  · rw [List.cons_append, List.head?_cons]
    refine ⟨fun b hb => ?_, ?_⟩
    · obtain rfl := Option.some.inj hb
      rcases letter with rfl | rfl <;> rfl
    · rcases letter with rfl | rfl <;> decide

theorem skipTail_tail {fraction exponent rest : Bytes} (hf : IsFraction fraction) (he : IsExponent exponent)
    (follows : Follows rest) (n : Nat) :
    Ends (skipTail ⟨n, fraction ++ (exponent ++ rest)⟩) (some ()) rest := by
  obtain ⟨stop, point⟩ := IsExponent.head he follows
  rcases hf with rfl | ⟨ds, digits, rfl⟩
  · rw [List.nil_append, skipTail_other point]
    exact skipAnyExponent_exponent he follows n
  · have some : ds.length ≠ 0 := mt List.eq_nil_of_length_eq_zero digits.1
    rw [List.cons_append, skipTail_point, bind_of_ok (skipWhile_digits digits.2 stop _), if_neg some]
    exact skipAnyExponent_exponent he follows _

theorem of_skipTail {bs : Bytes} (h : skipTail ⟨n, bs⟩ = (.ok u, c)) :
    ∃ fraction exponent, IsFraction fraction ∧ IsExponent exponent ∧ bs = fraction ++ (exponent ++ c.rest) := by
  by_cases point : bs.head? = some 0x2E
  · obtain ⟨bs, rfl⟩ : ∃ more, bs = 0x2E :: more := by
      cases bs with
      | nil => cases point
      | cons b more => exact ⟨more, by rw [Option.some.inj point]⟩
    rw [skipTail_point] at h
    obtain ⟨count, ⟨k, others⟩, passed, tail⟩ := of_bind h
    obtain ⟨ds, length, digits, parts⟩ := of_skipWhile passed
    split at tail
    · cases tail
    · rename_i some
      obtain ⟨exponent, he, rfl⟩ := of_skipAnyExponent tail
      have nonempty : ds ≠ [] := by
        rintro rfl
        exact some length.symm
      exact ⟨0x2E :: ds, exponent, .inr ⟨ds, ⟨nonempty, digits⟩, rfl⟩, he, by rw [parts]; rfl⟩
  · rw [skipTail_other point] at h
    obtain ⟨exponent, he, rfl⟩ := of_skipAnyExponent h
    exact ⟨[], exponent, .inl rfl, he, rfl⟩

/-- A number is passed over. -/
theorem skipNumber_number {own rest : Bytes} (h : IsUnsigned own) (follows : Follows rest) (n : Nat) :
    Ends (skipNumber ⟨n, own ++ rest⟩) (some ()) rest := by
  obtain ⟨whole, fraction, exponent, ⟨⟨nonempty, digits⟩, alone⟩, hf, he, rfl⟩ := h
  have stop : ∀ b ∈ (fraction ++ (exponent ++ rest)).head?, isDigit b = false := by
    rcases hf with rfl | ⟨ds, -, rfl⟩
    · exact (IsExponent.head he follows).1
    · intro b hb
      obtain rfl := Option.some.inj hb
      rfl
  have read := fun n => skipTail_tail hf he follows n
  obtain ⟨b, ds, rfl⟩ := List.exists_cons_of_ne_nil nonempty
  obtain ⟨first, others⟩ := List.forall_mem_cons.1 digits
  simp only [List.append_assoc, List.cons_append]
  -- a zero stands alone, any other digit may have more behind it
  by_cases zero : b = 0x30
  · subst zero
    obtain rfl : ds = [] := List.tail_eq_of_cons_eq (alone rfl)
    have none : (fraction ++ (exponent ++ rest)).head?.any isDigit = false := by
      cases hb : (fraction ++ (exponent ++ rest)).head? with
      | none => rfl
      | some b => exact stop b hb
    rw [List.nil_append, skipNumber_zero, none, if_neg Bool.false_ne_true]
    exact read _
  · rw [skipNumber_digit _ first zero, bind_of_ok (discard_of_ok (skipWhile_digits others stop _))]
    exact read _

/-- What has been passed over as a number was one. -/
theorem of_skipNumber {bs : Bytes} (h : skipNumber ⟨n, bs⟩ = (.ok u, c)) :
    ∃ own, IsUnsigned own ∧ bs = own ++ c.rest := by
  cases bs with
  | nil => cases h
  | cons b bs =>
    by_cases zero : b = 0x30
    · subst zero
      rw [skipNumber_zero] at h
      split at h
      · cases h
      · obtain ⟨fraction, exponent, hf, he, rfl⟩ := of_skipTail h
        exact ⟨0x30 :: (fraction ++ exponent),
          ⟨[0x30], fraction, exponent, ⟨⟨List.cons_ne_nil _ _, List.forall_mem_singleton.2 rfl⟩, fun _ => rfl⟩, hf, he, rfl⟩, by simp⟩
    · cases digit : Bytes.isDigit b with
      | true =>
        rw [skipNumber_digit _ digit zero] at h
        obtain ⟨_, ⟨k, others⟩, passed, tail⟩ := of_bind h
        obtain ⟨_, passed⟩ := of_discard passed
        obtain ⟨ds, -, digits, parts⟩ := of_skipWhile passed
        obtain ⟨fraction, exponent, hf, he, rfl⟩ := of_skipTail tail
        refine ⟨b :: ds ++ (fraction ++ exponent),
          ⟨b :: ds, fraction, exponent, ⟨⟨List.cons_ne_nil _ _, List.forall_mem_cons.2 ⟨digit, digits⟩⟩, ?_⟩, hf, he,
            rfl⟩, ?_⟩
        · intro same
          exact absurd (Option.some.inj same) zero
        · rw [parts]
          simp
      | false =>
        unfold skipNumber at h
        rw [bind_of_ok (show next ⟨n, b :: bs⟩ = (.ok (some b), ⟨n + 1, bs⟩) from rfl)] at h
        dsimp only at h
        rw [beq_false_of_ne zero, if_neg Bool.false_ne_true, if_neg (by rw [isDigit, digit]; decide)] at h
        obtain ⟨_, _, failed, -⟩ := of_bind h
        exact (failHere_ne_ok failed).elim

end

end Reader

end CommitGate.Json
