import CommitGate.Proofs.Json.Reading
import CommitGate.Proofs.Text.Utf8

/-! # JSON strings, written and read

A string in quotes is read as it was written, with all its escapes undone (`string_quoted`).
-/

namespace CommitGate.Json

namespace Reader

open Utf8 (encode encodeChar)

/-! ## One character -/

/-- A character that stands for itself in a string. -/
def IsPlain (c : Char) : Prop := 0x20 ≤ c.toNat ∧ c ≠ '"' ∧ c ≠ '\\'

/-- A byte that stands for itself in a string. -/
def IsPlainByte (b : UInt8) : Prop := ¬ b < 0x20 ∧ b ≠ 0x22 ∧ b ≠ 0x5C

theorem IsPlain.escape {c : Char} (h : IsPlain c) : escape c = [c] := by
  obtain ⟨printed, quote, backslash⟩ := h
  -- the characters with a letter of their own are controls
  have control : ∀ d : Char, d.toNat < 0x20 → c ≠ d := by
    rintro d small rfl
    omega
  simp [Json.escape, quote, backslash, control '\x08' (by decide), control '\x0C' (by decide),
    control '\n' (by decide), control '\r' (by decide), control '\t' (by decide), printed]

theorem IsPlain.isPlainByte {c : Char} (h : IsPlain c) : ∀ b ∈ encodeChar c, IsPlainByte b := by
  intro b hb
  obtain ⟨printed, quote, backslash⟩ := h
  have value : ∀ d : Char, c.toNat = d.toNat → c = d := fun d => Char.toNat_inj.1
  rw [IsPlainByte, UInt8.lt_iff_toNat_lt]
  rcases Utf8.of_mem_encodeChar hb with ⟨-, same⟩ | ⟨-, beyond⟩
  · refine ⟨by rw [same]; exact Nat.not_lt.2 printed, ?_, ?_⟩
    · rintro rfl
      exact quote (value '"' same.symm)
    · rintro rfl
      exact backslash (value '\\' same.symm)
  · refine ⟨Nat.not_lt.2 (Nat.le_trans (by decide) beyond), ?_, ?_⟩
    · rintro rfl
      exact absurd beyond (by decide)
    · rintro rfl
      exact absurd beyond (by decide)

theorem nextInString_cons (n : Nat) (b : UInt8) (rest : Bytes) :
    nextInString ⟨n, b :: rest⟩ = (.ok b, ⟨n + 1, rest⟩) :=
  rfl

/-- A letter after a backslash stands for one byte. -/
theorem escaped_letter {b byte : UInt8} (n : Nat) (rest : Bytes) (h : shortEscape b = some byte) :
    escaped ⟨n, b :: rest⟩ = (.ok [byte], ⟨n + 1, rest⟩) := by
  unfold escaped
  rw [bind_of_ok (nextInString_cons n b rest), h]
  rfl

/-- A control character without a letter is written with two hexadecimal digits. -/
theorem hex_of_control : ∀ n < 32, ∃ d₁ d₂ : UInt8,
    encode (Hex.byte 'a' (UInt8.ofNat n)) = [d₁, d₂] ∧
      [0x30, 0x30, d₁, d₂].mapM (fun d : UInt8 => Hex.value? (Char.ofNat d.toNat)) =
        some [0, 0, n / 16, n % 16] := by
  intro n h
  refine ⟨UInt8.ofNat (Hex.digit 'a' (n / 16)).toNat, UInt8.ofNat (Hex.digit 'a' (n % 16)).toNat, ?_⟩
  revert n
  decide

theorem escaped_hex {m : Nat} {d₁ d₂ : UInt8} (n : Nat) (rest : Bytes) (small : m < 32)
    (digits : [0x30, 0x30, d₁, d₂].mapM (fun d : UInt8 => Hex.value? (Char.ofNat d.toNat)) =
      some [0, 0, m / 16, m % 16]) :
    escaped ⟨n, 0x75 :: 0x30 :: 0x30 :: d₁ :: d₂ :: rest⟩ =
      (.ok (encodeChar (Char.ofNat m)), ⟨n + 5, rest⟩) := by
  have number : [0, 0, m / 16, m % 16].foldl (fun n d => n * 16 + d) 0 = m := by
    simp only [List.foldl_cons, List.foldl_nil]
    omega
  have four : fourDigits ⟨n + 1, 0x30 :: 0x30 :: d₁ :: d₂ :: rest⟩ = (.ok m, ⟨n + 5, rest⟩) := by
    simp only [fourDigits, digits, number]
  have point : codePoint ⟨n + 1, 0x30 :: 0x30 :: d₁ :: d₂ :: rest⟩ =
      (.ok (Char.ofNat m), ⟨n + 5, rest⟩) := by
    have noSurrogate : (decide (0xDC00 ≤ m) && decide (m ≤ 0xDFFF)) = false := by
      simp only [Bool.and_eq_false_iff, decide_eq_false_iff_not]
      omega
    have basic : (decide (m < 0xD800) || decide (0xDBFF < m)) = true := by
      simp only [Bool.or_eq_true, decide_eq_true_eq]
      omega
    unfold codePoint
    rw [bind_of_ok four]
    simp only [noSurrogate, basic]
    rfl
  unfold escaped
  rw [bind_of_ok (nextInString_cons n 0x75 _), show shortEscape 0x75 = none from rfl]
  exact map_of_ok point

/-- A character that does not stand for itself is written after a backslash, and what stands there is read as
the character. -/
theorem escaped_escape {c : Char} (h : ¬ IsPlain c) :
    ∃ text, encode (escape c) = 0x5C :: text ∧
      ∀ n rest, ∃ n', escaped ⟨n, text ++ rest⟩ = (.ok (encodeChar c), ⟨n', rest⟩) := by
  by_cases letter : c ∈ ['"', '\\', '\x08', '\x0C', '\n', '\r', '\t']
  · simp only [List.mem_cons, List.not_mem_nil, or_false] at letter
    rcases letter with rfl | rfl | rfl | rfl | rfl | rfl | rfl
    all_goals exact ⟨_, rfl, fun n rest => ⟨_, escaped_letter n rest rfl⟩⟩
  · simp only [List.mem_cons, List.not_mem_nil, or_false, not_or] at letter
    obtain ⟨h₁, h₂, h₃, h₄, h₅, h₆, h₇⟩ := letter
    have small : c.toNat < 0x20 := Nat.not_le.1 fun printed => h ⟨printed, h₁, h₂⟩
    obtain ⟨d₁, d₂, written, digits⟩ := hex_of_control c.toNat small
    refine ⟨0x75 :: 0x30 :: 0x30 :: [d₁, d₂], ?_, fun n rest => ⟨n + 5, ?_⟩⟩
    · simp only [escape, h₁, h₂, h₃, h₄, h₅, h₆, h₇, decide_false, Bool.or_self, small]
      rw [← written]
      rfl
    · have read := escaped_hex n rest small digits
      rwa [Char.ofNat_toNat] at read

/-! ## Strings -/

theorem stringFrom_plain {b : UInt8} {fuel n : Nat} {before rest : Bytes} (h : IsPlainByte b) :
    stringFrom (fuel + 1) before ⟨n, b :: rest⟩ = stringFrom fuel (b :: before) ⟨n + 1, rest⟩ := by
  obtain ⟨printed, quote, backslash⟩ := h
  rw [stringFrom, bind_of_ok (nextInString_cons n b rest)]
  simp [quote, backslash, printed]

theorem stringFrom_append {text : Bytes} {fuel n : Nat} {before rest : Bytes}
    (h : ∀ b ∈ text, IsPlainByte b) :
    stringFrom (fuel + text.length) before ⟨n, text ++ rest⟩ =
      stringFrom fuel (text.reverse ++ before) ⟨n + text.length, rest⟩ := by
  induction text generalizing n before with
  | nil => rfl
  | cons b text ih =>
    have more : stringFrom (fuel + text.length) (b :: before) ⟨n + 1, text ++ rest⟩ = _ :=
      ih fun b' hb => h b' (List.mem_cons_of_mem _ hb)
    rw [List.length_cons, ← Nat.add_assoc, List.cons_append, stringFrom_plain (h b (List.mem_cons_self ..)),
      more, List.reverse_cons, List.append_assoc]
    congr 2
    omega

theorem stringFrom_escaped {fuel n n' : Nat} {before text rest bytes : Bytes}
    (h : escaped ⟨n + 1, text ++ rest⟩ = (.ok bytes, ⟨n', rest⟩)) :
    stringFrom (fuel + 1) before ⟨n, 0x5C :: (text ++ rest)⟩ =
      stringFrom fuel (bytes.reverse ++ before) ⟨n', rest⟩ := by
  rw [stringFrom, bind_of_ok (nextInString_cons n 0x5C _)]
  exact bind_of_ok h

theorem stringFrom_quote {fuel n : Nat} {before rest : Bytes} :
    stringFrom (fuel + 1) before ⟨n, 0x22 :: rest⟩ = (.ok before.reverse, ⟨n + 1, rest⟩) := by
  rw [stringFrom, bind_of_ok (nextInString_cons n 0x22 _)]
  rfl

/-- A written character costs no more fuel than it has bytes. -/
theorem stringFrom_escape (c : Char) :
    ∃ cost ≤ (encode (escape c)).length, ∀ fuel n before rest, ∃ n',
      stringFrom (fuel + cost) before ⟨n, encode (escape c) ++ rest⟩ =
        stringFrom fuel ((encodeChar c).reverse ++ before) ⟨n', rest⟩ := by
  by_cases h : IsPlain c
  · rw [h.escape, Utf8.encode_cons, Utf8.encode_nil, List.append_nil]
    exact ⟨_, Nat.le_refl _, fun fuel n before rest => ⟨_, stringFrom_append h.isPlainByte⟩⟩
  · obtain ⟨text, written, read⟩ := escaped_escape h
    rw [written]
    refine ⟨1, by simp, fun fuel n before rest => ?_⟩
    obtain ⟨n', hn⟩ := read (n + 1) rest
    exact ⟨n', stringFrom_escaped hn⟩

theorem stringFrom_escapes (s : List Char) {fuel : Nat} (enough : (encode (s.flatMap escape)).length < fuel)
    (n : Nat) (before rest : Bytes) : ∃ n',
      stringFrom fuel before ⟨n, encode (s.flatMap escape) ++ 0x22 :: rest⟩ =
        (.ok (before.reverse ++ encode s), ⟨n', rest⟩) := by
  -- on the characters, each of which has fuel of its own
  induction s generalizing fuel n before with
  | nil =>
    obtain ⟨fuel, rfl⟩ := Nat.exists_eq_add_of_lt enough
    exact ⟨n + 1, by simpa using stringFrom_quote⟩
  | cons c s ih =>
    obtain ⟨cost, le, step⟩ := stringFrom_escape c
    rw [List.flatMap_cons, Utf8.encode_append, List.length_append] at enough
    obtain ⟨left, rfl⟩ := Nat.exists_eq_add_of_le' (show cost ≤ fuel by omega)
    rw [List.flatMap_cons, Utf8.encode_append, List.append_assoc]
    obtain ⟨n₁, first⟩ := step left n before (encode (s.flatMap escape) ++ 0x22 :: rest)
    have leftover : (encode (s.flatMap escape)).length < left := by omega
    obtain ⟨n₂, others⟩ := ih leftover n₁ ((encodeChar c).reverse ++ before)
    refine ⟨n₂, first.trans (others.trans ?_)⟩
    simp

/-- A string is read, up to its closing quote, as it was written. -/
theorem string_quoted (s : String) (n : Nat) (rest : Bytes) : ∃ n',
    string ⟨n, encode (s.toList.flatMap escape) ++ 0x22 :: rest⟩ = (.ok s, ⟨n', rest⟩) := by
  have enough : (encode (s.toList.flatMap escape)).length <
      (encode (s.toList.flatMap escape) ++ 0x22 :: rest).length + 1 := by
    rw [List.length_append]
    omega
  obtain ⟨n', read⟩ := stringFrom_escapes s.toList enough n [] rest
  refine ⟨n', ?_⟩
  unfold string
  rw [bind_of_ok (get_eq _), bind_of_ok read, List.reverse_nil, List.nil_append, Utf8.toStringLossy,
    Utf8.decodeLossy_encode, String.ofList_toList]
  rfl

end Reader

end CommitGate.Json
