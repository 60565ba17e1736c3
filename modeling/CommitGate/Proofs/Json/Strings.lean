import CommitGate.Proofs.Json.Grammar
import CommitGate.Proofs.Json.Text

/-! # Strings of the grammar

A string is read exactly if pieces stand before its closing quote and the halves of every surrogate pair stand
together; passing over a string does not ask for the latter.

* `string_pieces`, `skipString_pieces`: what is read from pieces;
* `of_string`, `of_skipString`: what has been read were pieces.

Scope limit: the bytes to be read are the UTF-8 form of characters.
-/

namespace CommitGate.Json

namespace Reader

open Utf8 (encode encodeChar)

/-! ## Characters and bytes -/

theorem encodeChar_ascii {x : Char} (h : x.toNat < 0x80) : encodeChar x = [UInt8.ofNat x.toNat] := by
  rw [encodeChar, if_pos h]

theorem exists_encodeChar (x : Char) : ∃ b more, encodeChar x = b :: more := by
  cases h : encodeChar x with
  | nil =>
    have length := Utf8.length_encodeChar x
    have size := Char.utf8Size_pos x
    rw [h, List.length_nil] at length
    omega
  | cons b more => exact ⟨b, more, rfl⟩

/-- A first byte of ASCII is the first character. -/
theorem of_encode_cons {cs : List Char} {b : UInt8} {rest : Bytes} (h : encode cs = b :: rest)
    (ascii : b.toNat < 0x80) : ∃ x cs', cs = x :: cs' ∧ x.toNat = b.toNat ∧ rest = encode cs' := by
  cases cs with
  | nil => cases h
  | cons x cs =>
    obtain ⟨b', more, bytes⟩ := exists_encodeChar x
    rw [Utf8.encode_cons, bytes, List.cons_append, List.cons.injEq] at h
    obtain ⟨rfl, rfl⟩ := h
    rcases Utf8.of_mem_encodeChar (bytes ▸ List.mem_cons_self ..) with ⟨small, same⟩ | ⟨-, beyond⟩
    · rw [encodeChar_ascii small, List.cons.injEq] at bytes
      exact ⟨x, cs, rfl, same.symm, by rw [← bytes.2, List.nil_append]⟩
    · omega

/-- The byte of a sign tells the sign. -/
theorem of_encode_sign {cs : List Char} {b : UInt8} {rest : Bytes} (h : encode cs = b :: rest) (sign : Char)
    (ascii : sign.toNat < 0x80) (same : b.toNat = sign.toNat) :
    ∃ cs', cs = sign :: cs' ∧ rest = encode cs' := by
  obtain ⟨x, cs', rfl, value, rfl⟩ := of_encode_cons h (same ▸ ascii)
  obtain rfl : x = sign := Char.toNat_inj.1 (value.trans same)
  exact ⟨cs', rfl, rfl⟩

/-- The bytes are the UTF-8 form of characters. -/
def IsText (bs : Bytes) : Prop := ∃ cs, bs = encode cs

/-- What stands behind bytes of ASCII in a text is one too. -/
theorem IsText.of_ascii {before rest : Bytes} (h : IsText (before ++ rest)) (ascii : ∀ b ∈ before, b.toNat < 0x80) :
    IsText rest := by
  induction before with
  | nil => exact h
  | cons b before ih =>
    obtain ⟨cs, text⟩ := h
    obtain ⟨x, cs', -, -, rest'⟩ := of_encode_cons text.symm (ascii b (List.mem_cons_self ..))
    exact ih ⟨cs', rest'⟩ fun b' hb => ascii b' (List.mem_cons_of_mem _ hb)

theorem IsText.of_cons {b : UInt8} {rest : Bytes} (h : IsText (b :: rest)) (ascii : b.toNat < 0x80) : IsText rest :=
  IsText.of_ascii (show IsText ([b] ++ rest) from h) fun _ hb => List.mem_singleton.1 hb ▸ ascii

/-! ## Hexadecimal digits -/

theorem ascii_of_hex {x : Char} (h : (Hex.value? x).isSome = true) : x.toNat < 0x80 := by
  unfold Hex.value? at h
  split at h
  · rename_i digit
    exact Nat.lt_of_le_of_lt (UInt32.le_iff_toNat_le.1 digit.2) (by decide)
  · split at h
    · rename_i digit
      exact Nat.lt_of_le_of_lt (UInt32.le_iff_toNat_le.1 digit.2) (by decide)
    · split at h
      · rename_i digit
        exact Nat.lt_of_le_of_lt (UInt32.le_iff_toNat_le.1 digit.2) (by decide)
      · cases h

/-- Four digits are read as their number. -/
theorem fourDigits_unit {a b c d : Char} (valid : (Piece.unit a b c d).IsValid) (n : Nat) (rest : Bytes) :
    fourDigits ⟨n, encode [a, b, c, d] ++ rest⟩ = (.ok (Piece.number a b c d), ⟨n + 4, rest⟩) := by
  have ascii : ∀ x ∈ [a, b, c, d], x.toNat < 0x80 := fun x hx => ascii_of_hex (valid x hx)
  have back : ∀ x ∈ [a, b, c, d], Hex.value? (Char.ofNat (UInt8.ofNat x.toNat).toNat) =
      some ((Hex.value? x).getD 0) := by
    intro x hx
    rw [Utf8.toNat_ofNat_of_lt (Nat.lt_trans (ascii x hx) (by decide)), Char.ofNat_toNat]
    cases value : Hex.value? x with
    | none => cases value ▸ valid x hx
    | some v => rfl
  simp only [List.mem_cons, List.not_mem_nil, or_false, forall_eq_or_imp, forall_eq] at back
  obtain ⟨ha, hb, hc, hd⟩ := back
  rw [Utf8.encode_of_ascii ascii]
  simp only [List.map_cons, List.map_nil, List.cons_append, List.nil_append, fourDigits, List.mapM_cons,
    List.mapM_nil, ha, hb, hc, hd]
  rfl

/-- What four bytes are read as a number are its digits. -/
theorem of_fourDigits {cs : List Char} {n m : Nat} {c : Cursor} (h : fourDigits ⟨n, encode cs⟩ = (.ok m, c)) :
    ∃ a b d e rest, cs = a :: b :: d :: e :: rest ∧ (Piece.unit a b d e).IsValid ∧ c.rest = encode rest := by
  -- a byte with a value is a digit in front of the text
  have front : ∀ {s : List Char} {byte : UInt8} {bytes : Bytes} {v : Nat}, encode s = byte :: bytes →
      Hex.value? (Char.ofNat byte.toNat) = some v →
        ∃ x s', s = x :: s' ∧ (Hex.value? x).isSome = true ∧ bytes = encode s' := by
    intro s byte bytes v text value
    have some : (Hex.value? (Char.ofNat byte.toNat)).isSome = true := by rw [value]; rfl
    have small := ascii_of_hex some
    have number : (Char.ofNat byte.toNat).toNat = byte.toNat :=
      Utf8.toNat_ofNat_of_valid (.inl (Nat.lt_trans byte.toNat_lt (by decide)))
    obtain ⟨x, s', rfl, same, rfl⟩ := of_encode_cons text (number ▸ small)
    refine ⟨x, s', rfl, ?_, rfl⟩
    rwa [← same, Char.ofNat_toNat] at some
  unfold fourDigits at h
  split at h
  · rename_i b₁ b₂ b₃ b₄ bytes text
    dsimp only at text h
    split at h
    · rename_i values digits
      simp only [List.mapM_cons, List.mapM_nil, Option.pure_def, Option.bind_eq_bind,
        Option.bind_eq_some_iff] at digits
      obtain ⟨v₁, h₁, _, ⟨v₂, h₂, _, ⟨v₃, h₃, _, ⟨v₄, h₄, -⟩, -⟩, -⟩, -⟩ := digits
      obtain ⟨x₁, s₁, rfl, valid₁, text₁⟩ := front text h₁
      obtain ⟨x₂, s₂, rfl, valid₂, text₂⟩ := front text₁.symm h₂
      obtain ⟨x₃, s₃, rfl, valid₃, text₃⟩ := front text₂.symm h₃
      obtain ⟨x₄, s₄, rfl, valid₄, text₄⟩ := front text₃.symm h₄
      cases h
      refine ⟨x₁, x₂, x₃, x₄, s₄, rfl, ?_, text₄⟩
      simp only [Piece.IsValid, List.mem_cons, List.not_mem_nil, or_false, forall_eq_or_imp, forall_eq]
      exact ⟨valid₁, valid₂, valid₃, valid₄⟩
    · cases h
  · cases h

/-! ## Letters after a backslash -/

/-- The letters of the grammar are those that are read. -/
theorem shortEscape_eq : ∀ x : Char, x.toNat < 0x80 →
    shortEscape (UInt8.ofNat x.toNat) = (Piece.letters.lookup x).map fun y => UInt8.ofNat y.toNat :=
  forall_ascii (by decide)

theorem ascii_of_lookup {x y : Char} (h : Piece.letters.lookup x = some y) : x.toNat < 0x80 ∧ y.toNat < 0x80 := by
  have within : ∀ letters : List (Char × Char), letters.lookup x = some y → (x, y) ∈ letters := by
    intro letters found
    induction letters with
    | nil => cases found
    | cons l letters ih =>
      rw [List.lookup_cons] at found
      split at found
      · rename_i same
        cases found
        rw [eq_of_beq same]
        exact List.mem_cons_self ..
      · exact List.mem_cons_of_mem _ (ih found)
  have all : ∀ l ∈ Piece.letters, l.1.toNat < 0x80 ∧ l.2.toNat < 0x80 := by decide
  exact all (x, y) (within _ h)

theorem escaped_lookup {x y : Char} (h : Piece.letters.lookup x = some y) (n : Nat) (rest : Bytes) :
    escaped ⟨n, encodeChar x ++ rest⟩ = (.ok (encodeChar y), ⟨n + 1, rest⟩) := by
  obtain ⟨smallX, smallY⟩ := ascii_of_lookup h
  rw [encodeChar_ascii smallX, encodeChar_ascii smallY]
  exact escaped_letter n rest (by rw [shortEscape_eq x smallX, h]; rfl)

/-! ## Pieces before a text -/

section

variable (ps : List Piece) (tail : Bytes)

theorem encode_plain (x : Char) : encode ((Piece.plain x :: ps).flatMap Piece.chars) ++ tail =
    encodeChar x ++ (encode (ps.flatMap Piece.chars) ++ tail) := by
  simp [Piece.chars]

theorem encode_letter (x : Char) : encode ((Piece.letter x :: ps).flatMap Piece.chars) ++ tail =
    0x5C :: (encodeChar x ++ (encode (ps.flatMap Piece.chars) ++ tail)) := by
  rw [List.flatMap_cons, Utf8.encode_append, Piece.chars, Utf8.encode_cons, Utf8.encode_cons, Utf8.encode_nil,
    List.append_nil, List.append_assoc, List.append_assoc]
  rfl

theorem encode_unit (a b c d : Char) : encode ((Piece.unit a b c d :: ps).flatMap Piece.chars) ++ tail =
    0x5C :: 0x75 :: (encode [a, b, c, d] ++ (encode (ps.flatMap Piece.chars) ++ tail)) := by
  have unit : encode (Piece.unit a b c d).chars = 0x5C :: 0x75 :: encode [a, b, c, d] := rfl
  rw [List.flatMap_cons, Utf8.encode_append, unit, List.append_assoc, List.cons_append, List.cons_append]

end

/-! ## Units of UTF-16 -/

section

variable {a b c d : Char} {n : Nat} {rest : Bytes}

theorem escaped_u : escaped ⟨n, 0x75 :: rest⟩ = (encodeChar <$> codePoint) ⟨n + 1, rest⟩ := by
  unfold escaped
  rw [bind_of_ok (nextInString_cons n 0x75 _)]
  rfl

/-- Whether a unit is read alone, not at all, or with another one. -/
theorem codePoint_unit (valid : (Piece.unit a b c d).IsValid) :
    codePoint ⟨n, encode [a, b, c, d] ++ rest⟩ =
      if Piece.IsLow (Piece.number a b c d) then
        failHere .loneSurrogate ⟨n + 4, rest⟩
      else if ¬Piece.IsHigh (Piece.number a b c d) then
        (pure (Char.ofNat (Piece.number a b c d)) : Reader Char) ⟨n + 4, rest⟩
      else (do
        expectInPair 0x5C
        expectInPair 0x75
        let low ← fourDigits
        if ¬Piece.IsLow low then failHere .loneSurrogate
        else pure (Piece.pair (Piece.number a b c d) low) : Reader Char) ⟨n + 4, rest⟩ := by
  unfold codePoint
  rw [bind_of_ok (fourDigits_unit valid n rest)]
  have low : ∀ m, (decide (0xDC00 ≤ m) && decide (m ≤ 0xDFFF)) = decide (Piece.IsLow m) := by
    intro m
    rw [Bool.eq_iff_iff, Bool.and_eq_true, decide_eq_true_eq, decide_eq_true_eq, decide_eq_true_eq, Piece.IsLow]
  have high : ∀ m, (decide (m < 0xD800) || decide (0xDBFF < m)) = !decide (Piece.IsHigh m) := by
    intro m
    rw [Bool.eq_iff_iff, Bool.or_eq_true, Bool.not_eq_true', decide_eq_true_eq, decide_eq_true_eq,
      decide_eq_false_iff_not, Piece.IsHigh]
    omega
  have notLow : ∀ m, (decide (m < 0xDC00) || decide (0xDFFF < m)) = !decide (Piece.IsLow m) := by
    intro m
    rw [Bool.eq_iff_iff, Bool.or_eq_true, Bool.not_eq_true', decide_eq_true_eq, decide_eq_true_eq,
      decide_eq_false_iff_not, Piece.IsLow]
    omega
  simp only [low, high, notLow, decide_eq_true_eq, Bool.not_eq_true', decide_eq_false_iff_not, Piece.pair]
  split
  · rfl
  · split
    · rfl
    · rfl

theorem expectInPair_cons (x y : UInt8) :
    expectInPair x ⟨n, y :: rest⟩ =
      if y = x then (.ok (), ⟨n + 1, rest⟩) else (.error ⟨.endOfEscape, some (n + 1)⟩, ⟨n + 1, rest⟩) := by
  have read : peekInString ⟨n, y :: rest⟩ = (.ok y, ⟨n, y :: rest⟩) := rfl
  unfold expectInPair
  rw [bind_of_ok read, bind_of_ok (skip_cons n)]
  by_cases same : y = x
  · rw [if_pos same, same, bne_self_eq_false]
    rfl
  · rw [if_neg same, bne_iff_ne.2 same]
    rfl

/-- Two units of a pair are read as one character. -/
theorem codePoint_pair {a' b' c' d' : Char} (n : Nat) (rest : Bytes) (valid : (Piece.unit a b c d).IsValid)
    (valid' : (Piece.unit a' b' c' d').IsValid) (high : Piece.IsHigh (Piece.number a b c d))
    (low : Piece.IsLow (Piece.number a' b' c' d')) :
    Ends (codePoint ⟨n, encode [a, b, c, d] ++ (encode (Piece.unit a' b' c' d').chars ++ rest)⟩)
      (some (Piece.pair (Piece.number a b c d) (Piece.number a' b' c' d'))) rest := by
  have notLow : ¬Piece.IsLow (Piece.number a b c d) := fun h => by
    simp only [Piece.IsLow, Piece.IsHigh] at h high
    omega
  have signs : encode (Piece.unit a' b' c' d').chars = 0x5C :: 0x75 :: encode [a', b', c', d'] := rfl
  rw [codePoint_unit valid, if_neg notLow, if_neg (fun h => h high), signs, List.cons_append, List.cons_append,
    bind_of_ok (expectInPair_cons _ _), bind_of_ok (expectInPair_cons _ _), bind_of_ok (fourDigits_unit valid' _ _),
    if_neg fun h => h low]
  exact ⟨_, rfl⟩

/-- A first half is not read without the second one. -/
theorem codePoint_alone (n : Nat) (rest : Bytes) (valid : (Piece.unit a b c d).IsValid) (high : Piece.IsHigh (Piece.number a b c d))
    {ps : List Piece} (others : ∀ p ∈ ps, p.IsValid)
    (alone : ∀ a' b' c' d' ps', ps = .unit a' b' c' d' :: ps' → ¬Piece.IsLow (Piece.number a' b' c' d')) :
    Ends (codePoint ⟨n, encode [a, b, c, d] ++ (encode (ps.flatMap Piece.chars) ++ 0x22 :: rest)⟩) none rest := by
  have notLow : ¬Piece.IsLow (Piece.number a b c d) := fun h => by
    simp only [Piece.IsLow, Piece.IsHigh] at h high
    omega
  rw [codePoint_unit valid, if_neg notLow, if_neg fun h => h high]
  -- the sign behind the first half is the closing quote, a character, or the backslash of another piece
  have other : ∀ {y : UInt8} {bytes : Bytes}, y ≠ 0x5C → ∀ f : Unit → Reader Char,
      Ends ((expectInPair 0x5C >>= f) ⟨n + 4, y :: bytes⟩) none rest := fun ne f =>
    ⟨_, _, bind_of_error (by rw [expectInPair_cons, if_neg ne])⟩
  match ps with
  | [] => exact other (by decide) _
  | .plain x :: ps =>
    obtain ⟨y, more, bytes⟩ := exists_encodeChar x
    have plain : IsPlainByte y :=
      IsPlain.isPlainByte (others _ (List.mem_cons_self ..)) y (bytes ▸ List.mem_cons_self ..)
    rw [encode_plain, bytes]
    exact other plain.2.2 _
  | .letter x :: ps =>
    obtain ⟨y, found⟩ := Option.isSome_iff_exists.1 (others _ (List.mem_cons_self ..) : _ = true)
    have ascii := (ascii_of_lookup found).1
    have notU : UInt8.ofNat x.toNat ≠ 0x75 := by
      intro same
      have value := congrArg UInt8.toNat same
      rw [Utf8.toNat_ofNat_of_lt (Nat.lt_trans ascii (by decide))] at value
      obtain rfl : x = 'u' := Char.toNat_inj.1 value
      cases found
    rw [encode_letter, encodeChar_ascii ascii, List.cons_append]
    exact ⟨_, _, (bind_of_ok (expectInPair_cons _ _)).trans
      (bind_of_error (by rw [expectInPair_cons, if_neg notU]))⟩
  | .unit a' b' c' d' :: ps =>
    have valid' := others _ (List.mem_cons_self ..)
    rw [encode_unit, bind_of_ok (expectInPair_cons _ _), bind_of_ok (expectInPair_cons _ _),
      bind_of_ok (fourDigits_unit valid' _ _), if_pos (alone _ _ _ _ _ rfl)]
    exact ⟨_, _, rfl⟩

end

/-! ## Strings are read -/

section

variable {before text rest rest' : Bytes} {fuel n : Nat}

/-- A character is read, and what follows it behind the character. -/
theorem map_encode (o : Option (List Char)) (x : Char) :
    (o.map fun s => ((encodeChar x).reverse ++ before).reverse ++ encode s) =
      (o.map (x :: ·)).map fun s => before.reverse ++ encode s := by
  simp [Function.comp_def]

/-- A unit is read, and what follows it if it is one of a character. -/
theorem Ends.stringFrom_unit {x : Option Char} {y : Char → Option Bytes}
    (h : ∀ n, Ends (codePoint ⟨n, text⟩) x rest)
    (next : ∀ c n, x = some c → Ends (stringFrom fuel ((encodeChar c).reverse ++ before) ⟨n, rest⟩) (y c) rest') :
    Ends (stringFrom (fuel + 1) before ⟨n, 0x5C :: 0x75 :: text⟩) (x.bind y) rest' := by
  have unit : Ends (escaped ⟨n + 1, 0x75 :: text⟩) (x.map encodeChar) rest := by
    rw [escaped_u]
    exact (h _).map encodeChar
  have all : Ends ((escaped >>= fun bytes => stringFrom fuel (bytes.reverse ++ before)) ⟨n + 1, 0x75 :: text⟩)
      ((x.map encodeChar).bind fun _ => x.bind y) rest' :=
    unit.bind fun bytes m hx => by
      obtain ⟨c, rfl, rfl⟩ := Option.map_eq_some_iff.1 hx
      exact next c m rfl
  rw [stringFrom, bind_of_ok (nextInString_cons n 0x5C _)]
  cases x with
  | none => exact all
  | some c => exact all

end

/-- With fuel for each byte, the bytes are read as the characters up to the rest. -/
def AreRead (bytes : Bytes) (o : Option (List Char)) (rest : Bytes) : Prop :=
  ∀ fuel n before, bytes.length ≤ fuel →
    Ends (stringFrom fuel before ⟨n, bytes⟩) (o.map fun s => before.reverse ++ encode s) rest

namespace AreRead

variable {bytes rest digits text : Bytes} {o : Option (List Char)} {x y : Char}

/-- A closing quote ends what is read. -/
theorem quote (rest : Bytes) : AreRead (0x22 :: rest) (some []) rest := by
  intro fuel n before enough
  obtain ⟨fuel, rfl⟩ := Nat.exists_eq_add_of_le' (Nat.le_trans (Nat.le_add_left 1 _) enough)
  exact ⟨n + 1, by simpa using stringFrom_quote⟩

theorem plain (h : AreRead bytes o rest) (own : IsPlain x) :
    AreRead (encodeChar x ++ bytes) (o.map (x :: ·)) rest := by
  intro fuel n before enough
  rw [List.length_append] at enough
  obtain ⟨fuel, rfl⟩ := Nat.exists_eq_add_of_le' (show (encodeChar x).length ≤ fuel by omega)
  rw [stringFrom_append (IsPlain.isPlainByte own), ← map_encode]
  exact h fuel _ _ (by omega)

theorem letter (h : AreRead bytes o rest) (found : Piece.letters.lookup x = some y) :
    AreRead (0x5C :: (encodeChar x ++ bytes)) (o.map (y :: ·)) rest := by
  intro fuel n before enough
  rw [List.length_cons, List.length_append] at enough
  obtain ⟨fuel, rfl⟩ := Nat.exists_eq_add_of_le' (show 1 ≤ fuel by omega)
  rw [stringFrom_escaped (escaped_lookup found _ _), ← map_encode]
  exact h fuel _ _ (by omega)

/-- One unit, or two of them, that make a character. -/
theorem unit (h : AreRead bytes o rest) (read : ∀ n, Ends (codePoint ⟨n, digits ++ bytes⟩) (some x) bytes) :
    AreRead (0x5C :: 0x75 :: (digits ++ bytes)) (o.map (x :: ·)) rest := by
  intro fuel n before enough
  rw [List.length_cons, List.length_cons, List.length_append] at enough
  obtain ⟨fuel, rfl⟩ := Nat.exists_eq_add_of_le' (show 1 ≤ fuel by omega)
  rw [← map_encode]
  refine Ends.stringFrom_unit (y := fun _ => _) read fun c m hx => ?_
  obtain rfl := Option.some.inj hx
  exact h fuel m _ (by omega)

/-- A unit that makes no character ends the reading. -/
theorem half (read : ∀ n, Ends (codePoint ⟨n, text⟩) none rest) : AreRead (0x5C :: 0x75 :: text) none rest := by
  intro fuel n before enough
  obtain ⟨fuel, rfl⟩ := Nat.exists_eq_add_of_le' (Nat.le_trans (Nat.le_add_left 1 _) enough)
  exact Ends.stringFrom_unit (y := fun _ => none) read fun _ _ hx => absurd hx (Option.some_ne_none _).symm

end AreRead

/-- Pieces before a closing quote are read as what they stand for. -/
theorem areRead_pieces {ps : List Piece} (valid : ∀ p ∈ ps, p.IsValid) (rest : Bytes) :
    AreRead (encode (ps.flatMap Piece.chars) ++ 0x22 :: rest) (Piece.text? ps) rest := by
  -- on the pieces, of which two may make one character
  fun_induction Piece.text? ps with
  | case1 => exact AreRead.quote rest
  | case2 x ps ih =>
    obtain ⟨own, others⟩ := List.forall_mem_cons.1 valid
    rw [encode_plain]
    exact (ih others).plain own
  | case3 x ps ih =>
    obtain ⟨own, others⟩ := List.forall_mem_cons.1 valid
    obtain ⟨y, found⟩ := Option.isSome_iff_exists.1 (own : _ = true)
    rw [encode_letter, found]
    exact (ih others).letter found
  | case4 a b c d high a' b' c' d' ps low ih =>
    obtain ⟨own, others⟩ := List.forall_mem_cons.1 valid
    obtain ⟨own', others⟩ := List.forall_mem_cons.1 others
    rw [encode_unit, List.flatMap_cons, Utf8.encode_append, List.append_assoc, ← List.append_assoc (encode _)]
    refine (ih others).unit fun n => ?_
    rw [List.append_assoc]
    exact codePoint_pair n _ own own' high low
  | case5 a b c d high a' b' c' d' ps low =>
    obtain ⟨own, others⟩ := List.forall_mem_cons.1 valid
    rw [encode_unit]
    exact AreRead.half fun n => codePoint_alone n rest own high others
      (by rintro _ _ _ _ _ same; cases same; exact low)
  | case6 a b c d ps high alone =>
    obtain ⟨own, others⟩ := List.forall_mem_cons.1 valid
    rw [encode_unit]
    exact AreRead.half fun n => codePoint_alone n rest own high others
      fun a' b' c' d' ps' same => absurd same (alone a' b' c' d' ps')
  | case7 a b c d ps high low =>
    obtain ⟨own, others⟩ := List.forall_mem_cons.1 valid
    rw [encode_unit]
    refine AreRead.half fun n => ?_
    rw [codePoint_unit own, if_pos low]
    exact ⟨_, _, rfl⟩
  | case8 a b c d ps high low ih =>
    obtain ⟨own, others⟩ := List.forall_mem_cons.1 valid
    rw [encode_unit]
    refine (ih others).unit fun n => ?_
    rw [codePoint_unit own, if_neg low, if_pos high]
    exact ⟨_, rfl⟩

/-- A string is what its pieces stand for. -/
theorem string_pieces {ps : List Piece} (valid : ∀ p ∈ ps, p.IsValid) (n : Nat) (rest : Bytes) :
    Ends (string ⟨n, encode (ps.flatMap Piece.chars) ++ 0x22 :: rest⟩) ((Piece.text? ps).map String.ofList) rest := by
  have read := (areRead_pieces valid rest _ n [] (Nat.le_succ _)).bind
    (f := fun bytes => (pure (Utf8.toStringLossy bytes) : Reader String))
    (y := fun bytes => some (Utf8.toStringLossy bytes)) fun bytes m _ => ⟨m, rfl⟩
  unfold string
  rw [bind_of_ok (get_eq _)]
  cases text : Piece.text? ps with
  | none =>
    rw [text] at read
    exact read
  | some s =>
    rw [text] at read
    simpa [Utf8.toStringLossy, Utf8.decodeLossy_encode] using read

/-! ## What has been read as a string -/

/-- A text goes on with pieces, at least one, up to a rest. -/
def GoesOn (cs rest : List Char) : Prop :=
  ∃ ps : List Piece, ps ≠ [] ∧ (∀ p ∈ ps, p.IsValid) ∧ cs = ps.flatMap Piece.chars ++ rest

/-- A text begins with pieces and a closing quote, up to a rest. -/
def EndsQuoted (cs rest : List Char) : Prop :=
  ∃ ps : List Piece, (∀ p ∈ ps, p.IsValid) ∧ cs = ps.flatMap Piece.chars ++ '"' :: rest

theorem EndsQuoted.of_goesOn {cs mid rest : List Char} (h : GoesOn cs mid) (others : EndsQuoted mid rest) :
    EndsQuoted cs rest := by
  obtain ⟨ps, -, valid, rfl⟩ := h
  obtain ⟨ps', valid', rfl⟩ := others
  refine ⟨ps ++ ps', fun p hp => ?_, by simp⟩
  rcases List.mem_append.1 hp with hp | hp
  · exact valid p hp
  · exact valid' p hp

theorem GoesOn.one {p : Piece} (valid : p.IsValid) (rest : List Char) : GoesOn (p.chars ++ rest) rest :=
  ⟨[p], List.cons_ne_nil _ _, fun q hq => List.mem_singleton.1 hq ▸ valid, by simp⟩

/-- What goes on is shorter, in characters and in bytes. -/
theorem GoesOn.length_lt {cs rest : List Char} (h : GoesOn cs rest) :
    rest.length < cs.length ∧ (encode rest).length < (encode cs).length := by
  obtain ⟨ps, some, -, rfl⟩ := h
  obtain ⟨p, ps, rfl⟩ := List.exists_cons_of_ne_nil some
  obtain ⟨x, more, chars⟩ : ∃ x more, p.chars = x :: more := by
    cases p <;> exact ⟨_, _, rfl⟩
  obtain ⟨b, bytes, byte⟩ := exists_encodeChar x
  rw [List.flatMap_cons, chars]
  simp only [List.cons_append, List.length_cons, List.length_append, Utf8.encode_cons, Utf8.encode_append, byte]
  omega

section

variable {cs : List Char} {n : Nat} {c : Cursor}

theorem of_nextInString {b : UInt8} (h : nextInString ⟨n, encode cs⟩ = (.ok b, c)) :
    encode cs = b :: c.rest := by
  cases text : encode cs with
  | nil => rw [text] at h; cases h
  | cons y rest => rw [text] at h; cases h; rfl

theorem of_peekInString {b : UInt8} (h : peekInString ⟨n, encode cs⟩ = (.ok b, c)) :
    c = ⟨n, encode cs⟩ ∧ ∃ rest, encode cs = b :: rest := by
  cases text : encode cs with
  | nil => rw [text] at h; cases h
  | cons y rest => rw [text] at h; cases h; exact ⟨rfl, rest, rfl⟩

theorem of_expectInPair {b : UInt8} {u : Unit} (sign : Char) (ascii : sign.toNat < 0x80)
    (same : b.toNat = sign.toNat) (h : expectInPair b ⟨n, encode cs⟩ = (.ok u, c)) :
    ∃ cs', cs = sign :: cs' ∧ c.rest = encode cs' := by
  cases text : encode cs with
  | nil => rw [text] at h; cases h
  | cons y rest =>
    rw [text, expectInPair_cons] at h
    split at h
    · rename_i found
      cases h
      exact of_encode_sign text sign ascii (found ▸ same)
    · cases h

/-- A code point is one unit or two. -/
theorem of_codePoint {x : Char} (h : codePoint ⟨n, encode cs⟩ = (.ok x, c)) :
    ∃ rest, GoesOn ('\\' :: 'u' :: cs) rest ∧ c.rest = encode rest := by
  obtain ⟨m, ⟨k, _⟩, four, h⟩ := of_bind h
  obtain ⟨x₁, x₂, x₃, x₄, rest, rfl, valid, rfl⟩ := of_fourDigits four
  have one := GoesOn.one valid rest
  split at h
  · cases h
  · split at h
    · cases h
      exact ⟨rest, one, rfl⟩
    · obtain ⟨_, ⟨k₁, _⟩, backslash, h⟩ := of_bind h
      obtain ⟨rest₁, rfl, rfl⟩ := of_expectInPair '\\' (by decide) rfl backslash
      obtain ⟨_, ⟨k₂, _⟩, letter, h⟩ := of_bind h
      obtain ⟨rest₂, rfl, rfl⟩ := of_expectInPair 'u' (by decide) rfl letter
      obtain ⟨low, ⟨k₃, _⟩, four', h⟩ := of_bind h
      obtain ⟨y₁, y₂, y₃, y₄, rest₃, rfl, valid', rfl⟩ := of_fourDigits four'
      split at h
      · cases h
      · obtain ⟨-, rfl⟩ := of_pure h
        refine ⟨rest₃, ⟨[.unit x₁ x₂ x₃ x₄, .unit y₁ y₂ y₃ y₄], List.cons_ne_nil _ _, ?_, rfl⟩, rfl⟩
        simp only [List.mem_cons, List.not_mem_nil, or_false, forall_eq_or_imp, forall_eq]
        exact ⟨valid, valid'⟩

/-- A letter that is read after a backslash is one of the grammar. -/
theorem letter_of_shortEscape {b : UInt8} {rest : Bytes} (text : encode cs = b :: rest)
    (h : (shortEscape b).isSome = true) : ∃ rest', GoesOn ('\\' :: cs) rest' ∧ rest = encode rest' := by
  have small : ∀ b, (shortEscape b).isSome = true → b.toNat < 0x80 := forall_byte (by decide +kernel)
  have ascii : b.toNat < 0x80 := small b h
  obtain ⟨x, rest', rfl, same, rfl⟩ := of_encode_cons text ascii
  have valid : (Piece.letter x).IsValid := by
    rw [← UInt8.ofNat_toNat (x := b), ← same, shortEscape_eq x (same ▸ ascii), Option.isSome_map] at h
    exact h
  exact ⟨rest', GoesOn.one valid rest', rfl⟩

theorem of_escaped {bytes : Bytes} (h : escaped ⟨n, encode cs⟩ = (.ok bytes, c)) :
    ∃ rest, GoesOn ('\\' :: cs) rest ∧ c.rest = encode rest := by
  unfold escaped at h
  obtain ⟨b, ⟨m, rest⟩, first, h⟩ := of_bind h
  have text := of_nextInString first
  dsimp only at text
  cases letter : shortEscape b with
  | some byte =>
    rw [letter] at h
    cases h
    exact letter_of_shortEscape text (by rw [letter]; rfl)
  | none =>
    rw [letter] at h
    dsimp only at h
    split at h
    · rename_i u
      obtain ⟨x, point, -⟩ := of_map h
      obtain ⟨cs', rfl, rfl⟩ := of_encode_sign text 'u' (by decide) (congrArg UInt8.toNat (eq_of_beq u))
      exact of_codePoint point
    · cases h

/-- A byte that is no control, no quote and no backslash is the first of a character that is none. -/
theorem plain_of_bytes {x : Char} {b : UInt8} {rest : Bytes} (text : encode (x :: cs) = b :: rest)
    (quote : b ≠ 0x22) (backslash : b ≠ 0x5C) (printed : ¬b < 0x20) : (Piece.plain x).IsValid := by
  obtain ⟨b', more, bytes⟩ := exists_encodeChar x
  rw [Utf8.encode_cons, bytes, List.cons_append, List.cons.injEq] at text
  obtain ⟨rfl, rfl⟩ := text
  rw [UInt8.lt_iff_toNat_lt, Nat.not_lt] at printed
  have printed : 0x20 ≤ b'.toNat := printed
  rcases Utf8.of_mem_encodeChar (bytes ▸ List.mem_cons_self ..) with ⟨small, same⟩ | ⟨beyond, -⟩
  · have sign : ∀ y : Char, x = y → b'.toNat = y.toNat := fun y hy => hy ▸ same
    exact ⟨same ▸ printed, fun hx => quote (UInt8.toNat_inj.1 (sign _ hx)),
      fun hx => backslash (UInt8.toNat_inj.1 (sign _ hx))⟩
  · refine ⟨Nat.le_trans (by decide) beyond, ?_, ?_⟩
    · rintro rfl
      exact absurd beyond (by decide)
    · rintro rfl
      exact absurd beyond (by decide)

/-- What has been read up to a closing quote were pieces. -/
theorem of_stringFrom {fuel : Nat} {before s : Bytes} (enough : (encode cs).length < fuel)
    (h : stringFrom fuel before ⟨n, encode cs⟩ = (.ok s, c)) :
    ∃ rest, EndsQuoted cs rest ∧ c.rest = encode rest := by
  -- on the length of the text, as one character may be many bytes
  induction hl : cs.length using Nat.strongRecOn generalizing cs fuel before n with
  | _ _ ih =>
  subst hl
  obtain ⟨fuel, rfl⟩ := Nat.exists_eq_add_of_lt enough
  have all := h
  rw [stringFrom] at h
  obtain ⟨b, ⟨m, bytes⟩, first, h⟩ := of_bind h
  have text := of_nextInString first
  split at h
  · rename_i quote
    cases h
    obtain ⟨rest, rfl, rfl⟩ := of_encode_sign text '"' (by decide) (congrArg UInt8.toNat (eq_of_beq quote))
    exact ⟨rest, ⟨[], fun _ hp => absurd hp List.not_mem_nil, rfl⟩, rfl⟩
  · rename_i quote
    split at h
    · rename_i backslash
      obtain ⟨cs', rfl, rfl⟩ := of_encode_sign text '\\' (by decide) (congrArg UInt8.toNat (eq_of_beq backslash))
      obtain ⟨own, ⟨k, _⟩, read, others⟩ := of_bind h
      obtain ⟨rest, goesOn, rfl⟩ := of_escaped read
      obtain ⟨shorter, fewer⟩ := goesOn.length_lt
      obtain ⟨rest', quoted, left⟩ := ih _ shorter (by omega) others rfl
      exact ⟨rest', .of_goesOn goesOn quoted, left⟩
    · rename_i backslash
      split at h
      · cases h
      · rename_i printed
        cases cs with
        | nil => cases text
        | cons x cs =>
          have valid := plain_of_bytes text (by simpa using quote) (by simpa using backslash) printed
          -- the bytes of the character are read one by one
          have cost : (encodeChar x ++ encode cs).length + fuel + 1 =
              ((encode cs).length + fuel + 1) + (encodeChar x).length := by
            rw [List.length_append]
            omega
          rw [Utf8.encode_cons, cost, stringFrom_append (IsPlain.isPlainByte valid)] at all
          obtain ⟨rest', quoted, left⟩ := ih _ (Nat.lt_succ_self _) (by omega) all rfl
          exact ⟨rest', .of_goesOn (GoesOn.one valid cs) quoted, left⟩

theorem EndsQuoted.bytes {rest : List Char} (h : EndsQuoted cs rest) :
    ∃ ps : List Piece, (∀ p ∈ ps, p.IsValid) ∧ encode cs = encode (ps.flatMap Piece.chars) ++ 0x22 :: encode rest := by
  obtain ⟨ps, valid, rfl⟩ := h
  exact ⟨ps, valid, by rw [Utf8.encode_append, Utf8.encode_cons]; rfl⟩

theorem of_string {bs : Bytes} {s : String} (text : IsText bs) (h : string ⟨n, bs⟩ = (.ok s, c)) :
    IsText c.rest ∧ ∃ ps : List Piece, (∀ p ∈ ps, p.IsValid) ∧
      bs = encode (ps.flatMap Piece.chars) ++ 0x22 :: c.rest := by
  obtain ⟨cs, rfl⟩ := text
  unfold string at h
  rw [bind_of_ok (get_eq _)] at h
  obtain ⟨bytes, c', read, h⟩ := of_bind h
  obtain ⟨-, rfl⟩ := of_pure h
  obtain ⟨rest, quoted, left⟩ := of_stringFrom (Nat.lt_succ_self _) read
  exact ⟨⟨rest, left⟩, left ▸ quoted.bytes⟩

end

/-! ## Strings are passed over -/

section

variable {fuel n : Nat} {rest : Bytes}

theorem skipStringFrom_plain {b : UInt8} (h : IsPlainByte b) :
    skipStringFrom (fuel + 1) ⟨n, b :: rest⟩ = skipStringFrom fuel ⟨n + 1, rest⟩ := by
  obtain ⟨printed, quote, backslash⟩ := h
  have read : peekInString ⟨n, b :: rest⟩ = (.ok b, ⟨n, b :: rest⟩) := rfl
  rw [skipStringFrom, bind_of_ok read]
  simp only [beq_false_of_ne quote, beq_false_of_ne backslash, Bool.false_eq_true, if_false, printed]
  exact bind_of_ok (skip_cons n)

theorem skipStringFrom_append {text : Bytes} (h : ∀ b ∈ text, IsPlainByte b) :
    skipStringFrom (fuel + text.length) ⟨n, text ++ rest⟩ = skipStringFrom fuel ⟨n + text.length, rest⟩ := by
  induction text generalizing n with
  | nil => rfl
  | cons b text ih =>
    have more := ih (n := n + 1) fun b' hb => h b' (List.mem_cons_of_mem _ hb)
    rw [List.length_cons, ← Nat.add_assoc, List.cons_append, skipStringFrom_plain (h b (List.mem_cons_self ..)), more]
    congr 2
    omega

/-- What stands behind a backslash is passed over. -/
theorem skipStringFrom_backslash :
    skipStringFrom (fuel + 1) ⟨n, 0x5C :: rest⟩ = (do
      let e ← nextInString
      if e == 0x75 then discard fourDigits
      else if (shortEscape e).isNone then failHere .invalidEscape
      skipStringFrom fuel : Reader Unit) ⟨n + 1, rest⟩ := by
  have read : peekInString ⟨n, 0x5C :: rest⟩ = (.ok 0x5C, ⟨n, 0x5C :: rest⟩) := rfl
  rw [skipStringFrom, bind_of_ok read]
  exact bind_of_ok (skip_cons n)

theorem skipStringFrom_letter {x y : Char} (h : Piece.letters.lookup x = some y) :
    skipStringFrom (fuel + 1) ⟨n, 0x5C :: (encodeChar x ++ rest)⟩ = skipStringFrom fuel ⟨n + 2, rest⟩ := by
  have ascii := (ascii_of_lookup h).1
  have letter : shortEscape (UInt8.ofNat x.toNat) = some (UInt8.ofNat y.toNat) := by
    rw [shortEscape_eq x ascii, h]
    rfl
  have notU : (UInt8.ofNat x.toNat == 0x75) = false := by
    refine beq_false_of_ne fun same => ?_
    rw [same] at letter
    cases letter
  rw [encodeChar_ascii ascii, List.cons_append, List.nil_append, skipStringFrom_backslash,
    bind_of_ok (nextInString_cons _ _ _)]
  simp only [notU, letter]
  rfl

theorem skipStringFrom_unit {a b c d : Char} (valid : (Piece.unit a b c d).IsValid) :
    skipStringFrom (fuel + 1) ⟨n, 0x5C :: 0x75 :: (encode [a, b, c, d] ++ rest)⟩ =
      skipStringFrom fuel ⟨n + 6, rest⟩ := by
  rw [skipStringFrom_backslash, bind_of_ok (nextInString_cons _ _ _)]
  exact bind_of_ok (discard_of_ok (fourDigits_unit valid _ _))

/-- Passing over pieces ends behind the closing quote. -/
theorem skipStringFrom_pieces {ps : List Piece} (valid : ∀ p ∈ ps, p.IsValid)
    (enough : (encode (ps.flatMap Piece.chars) ++ 0x22 :: rest).length ≤ fuel) (n : Nat) :
    Ends (skipStringFrom fuel ⟨n, encode (ps.flatMap Piece.chars) ++ 0x22 :: rest⟩) (some ()) rest := by
  -- on the pieces; unlike reading, passing over looks at each unit alone
  induction ps generalizing fuel n with
  | nil =>
    obtain ⟨fuel, rfl⟩ := Nat.exists_eq_add_of_le' (Nat.le_trans (Nat.le_add_left 1 _) enough)
    exact ⟨n + 1, rfl⟩
  | cons p ps ih =>
    obtain ⟨own, others⟩ := List.forall_mem_cons.1 valid
    cases p with
    | plain x =>
      rw [encode_plain] at enough ⊢
      rw [List.length_append] at enough
      obtain ⟨fuel, rfl⟩ := Nat.exists_eq_add_of_le' (show (encodeChar x).length ≤ fuel by omega)
      rw [skipStringFrom_append (IsPlain.isPlainByte own)]
      exact ih others (by omega) _
    | letter x =>
      obtain ⟨y, found⟩ := Option.isSome_iff_exists.1 (own : _ = true)
      rw [encode_letter] at enough ⊢
      rw [List.length_cons, List.length_append] at enough
      obtain ⟨fuel, rfl⟩ := Nat.exists_eq_add_of_le' (show 1 ≤ fuel by omega)
      rw [skipStringFrom_letter found]
      exact ih others (by omega) _
    | unit a b c d =>
      rw [encode_unit] at enough ⊢
      rw [List.length_cons, List.length_cons, List.length_append] at enough
      obtain ⟨fuel, rfl⟩ := Nat.exists_eq_add_of_le' (show 1 ≤ fuel by omega)
      rw [skipStringFrom_unit own]
      exact ih others (by omega) _

theorem skipString_pieces {ps : List Piece} (valid : ∀ p ∈ ps, p.IsValid) (n : Nat) (rest : Bytes) :
    Ends (skipString ⟨n, encode (ps.flatMap Piece.chars) ++ 0x22 :: rest⟩) (some ()) rest := by
  unfold skipString
  rw [bind_of_ok (get_eq _)]
  exact skipStringFrom_pieces valid (Nat.le_succ _) n

end

section

variable {cs : List Char} {n : Nat} {c : Cursor}

/-- What has been passed over behind a backslash was a letter or a unit. -/
theorem of_skipStringFrom_backslash {fuel : Nat} {u : Unit}
    (h : skipStringFrom (fuel + 1) ⟨n, 0x5C :: encode cs⟩ = (.ok u, c)) :
    ∃ rest m, GoesOn ('\\' :: cs) rest ∧ skipStringFrom fuel ⟨m, encode rest⟩ = (.ok u, c) := by
  rw [skipStringFrom_backslash] at h
  obtain ⟨e, ⟨m, bytes⟩, letter, h⟩ := of_bind h
  have next := of_nextInString letter
  dsimp only at h
  split at h
  · rename_i isU
    obtain ⟨cs', rfl, rfl⟩ := of_encode_sign next 'u' (by decide) (congrArg UInt8.toNat (eq_of_beq isU))
    obtain ⟨_, ⟨k, _⟩, passed, h⟩ := of_bind h
    obtain ⟨_, four⟩ := of_discard passed
    obtain ⟨x₁, x₂, x₃, x₄, rest, rfl, valid, rfl⟩ := of_fourDigits four
    exact ⟨rest, k, GoesOn.one valid rest, h⟩
  · split at h
    · obtain ⟨_, _, failed, -⟩ := of_bind h
      exact (failHere_ne_ok failed).elim
    · rename_i known
      obtain ⟨rest, goesOn, rfl⟩ := letter_of_shortEscape next (by simpa [Option.isSome_iff_ne_none] using known)
      exact ⟨rest, m, goesOn, h⟩

/-- What has been passed over up to a closing quote were pieces. -/
theorem of_skipStringFrom {fuel : Nat} {u : Unit} (enough : (encode cs).length < fuel)
    (h : skipStringFrom fuel ⟨n, encode cs⟩ = (.ok u, c)) :
    ∃ rest, EndsQuoted cs rest ∧ c.rest = encode rest := by
  -- on the length of the text, as one character may be many bytes
  induction hl : cs.length using Nat.strongRecOn generalizing cs fuel n with
  | _ _ ih =>
  subst hl
  obtain ⟨fuel, rfl⟩ := Nat.exists_eq_add_of_lt enough
  have all := h
  rw [skipStringFrom] at h
  obtain ⟨b, c₁, first, h⟩ := of_bind h
  obtain ⟨rfl, bytes, text⟩ := of_peekInString first
  split at h
  · rename_i quote
    obtain ⟨rest, rfl, rfl⟩ := of_encode_sign text '"' (by decide) (congrArg UInt8.toNat (eq_of_beq quote))
    rw [text, skip_cons] at h
    cases h
    exact ⟨rest, ⟨[], fun _ hp => absurd hp List.not_mem_nil, rfl⟩, rfl⟩
  · rename_i quote
    split at h
    · rename_i backslash
      obtain ⟨cs', rfl, rfl⟩ := of_encode_sign text '\\' (by decide) (congrArg UInt8.toNat (eq_of_beq backslash))
      obtain ⟨rest, k, goesOn, others⟩ := of_skipStringFrom_backslash all
      obtain ⟨shorter, fewer⟩ := goesOn.length_lt
      obtain ⟨rest', quoted, left⟩ := ih _ shorter (by omega) others rfl
      exact ⟨rest', .of_goesOn goesOn quoted, left⟩
    · rename_i backslash
      split at h
      · cases h
      · rename_i printed
        cases cs with
        | nil => cases text
        | cons x cs =>
          have valid := plain_of_bytes text (by simpa using quote) (by simpa using backslash) printed
          -- the bytes of the character are passed over one by one
          have cost : (encodeChar x ++ encode cs).length + fuel + 1 =
              ((encode cs).length + fuel + 1) + (encodeChar x).length := by
            rw [List.length_append]
            omega
          rw [Utf8.encode_cons, cost, skipStringFrom_append (IsPlain.isPlainByte valid)] at all
          obtain ⟨rest', quoted, left⟩ := ih _ (Nat.lt_succ_self _) (by omega) all rfl
          exact ⟨rest', .of_goesOn (GoesOn.one valid cs) quoted, left⟩

theorem of_skipString {bs : Bytes} {u : Unit} (text : IsText bs) (h : skipString ⟨n, bs⟩ = (.ok u, c)) :
    IsText c.rest ∧ ∃ ps : List Piece, (∀ p ∈ ps, p.IsValid) ∧
      bs = encode (ps.flatMap Piece.chars) ++ 0x22 :: c.rest := by
  obtain ⟨cs, rfl⟩ := text
  unfold skipString at h
  rw [bind_of_ok (get_eq _)] at h
  obtain ⟨rest, quoted, left⟩ := of_skipStringFrom (Nat.lt_succ_self _) h
  exact ⟨⟨rest, left⟩, left ▸ quoted.bytes⟩

end

end Reader

end CommitGate.Json
