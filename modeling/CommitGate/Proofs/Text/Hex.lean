import CommitGate.Proofs.Text.Utf8
import CommitGate.Text.Hex

/-! # Hexadecimal text, written and read

Bytes are written with two digits each, so that leading zeros are kept and the bytes are read back
(`Hex.decode?_byte`). No other text of the same digits is read as these bytes (`Hex.eq_of_decode?`).
-/

namespace CommitGate.Hex

/-- The digits in upper case. -/
def upperDigits : List Char :=
  ['0', '1', '2', '3', '4', '5', '6', '7', '8', '9', 'A', 'B', 'C', 'D', 'E', 'F']

theorem digit_mem {n : Nat} (h : n < 16) : digit 'A' n ∈ upperDigits :=
  (by decide : ∀ n < 16, digit 'A' n ∈ upperDigits) n h

theorem value?_digit {n : Nat} (h : n < 16) : value? (digit 'A' n) = some n :=
  (by decide : ∀ n < 16, value? (digit 'A' n) = some n) n h

/-- Each digit is the one for some value. -/
theorem exists_digit {c : Char} (h : c ∈ upperDigits) : ∃ n < 16, c = digit 'A' n :=
  forall_mem_of_all (p := fun c => ∃ n < 16, c = digit 'A' n) (by decide) c h

/-- The digits of the byte with two given digits. -/
theorem byte_ofNat {high low : Nat} (hh : high < 16) (hl : low < 16) :
    byte 'A' (UInt8.ofNat (high * 16 + low)) = [digit 'A' high, digit 'A' low] := by
  have quotient : (high * 16 + low) / 16 = high := by omega
  have remainder : (high * 16 + low) % 16 = low := by omega
  rw [byte, Utf8.toNat_ofNat_of_lt (by omega), quotient, remainder]

theorem mem_upperDigits_of_mem_byte {b : UInt8} {c : Char} (h : c ∈ byte 'A' b) : c ∈ upperDigits := by
  have bound := b.toNat_lt
  simp only [byte, List.mem_cons, List.not_mem_nil, or_false] at h
  rcases h with rfl | rfl
  · exact digit_mem (by omega)
  · exact digit_mem (by omega)

/-- The digits of bytes are read as these bytes. -/
theorem decode?_byte (bs : Bytes) : decode? (bs.flatMap (byte 'A')) = some bs := by
  induction bs with
  | nil => rfl
  | cons b bs ih =>
    have bound := b.toNat_lt
    have high := value?_digit (show b.toNat / 16 < 16 by omega)
    have low := value?_digit (show b.toNat % 16 < 16 by omega)
    have digits : (b :: bs).flatMap (byte 'A') =
        digit 'A' (b.toNat / 16) :: digit 'A' (b.toNat % 16) :: bs.flatMap (byte 'A') := rfl
    rw [digits, decode?, high, low, ih]
    simp only [Option.bind_eq_bind, Option.bind_some, Option.pure_def]
    rw [Nat.div_add_mod', UInt8.ofNat_toNat]

/-- Digits in upper case that are read as some bytes are the digits of these bytes. -/
theorem eq_of_decode? {cs : List Char} {bs : Bytes} (digits : ∀ c ∈ cs, c ∈ upperDigits)
    (h : decode? cs = some bs) : cs = bs.flatMap (byte 'A') := by
  induction cs using decode?.induct generalizing bs with
  | case1 =>
    cases h
    rfl
  | case2 => cases h
  | case3 c d rest ih =>
    obtain ⟨hc, more⟩ := List.forall_mem_cons.1 digits
    obtain ⟨hd, others⟩ := List.forall_mem_cons.1 more
    obtain ⟨high, hh, rfl⟩ := exists_digit hc
    obtain ⟨low, hl, rfl⟩ := exists_digit hd
    simp only [decode?, value?_digit hh, value?_digit hl, Option.bind_eq_bind, Option.bind_some] at h
    obtain ⟨tail, ht, h⟩ := Option.bind_eq_some_iff.1 h
    cases h
    rw [List.flatMap_cons, byte_ofNat hh hl, ← ih others ht]
    rfl

/-- A text is the digits of some bytes exactly if it has digits in upper case only, which are read as the
bytes. -/
theorem eq_upper_iff {text : String} {bs : Bytes} :
    text = upper bs ↔ (∀ c ∈ text.toList, c ∈ upperDigits) ∧ decode? text.toList = some bs := by
  constructor
  · rintro rfl
    rw [upper, String.toList_ofList]
    refine ⟨fun c hc => ?_, decode?_byte bs⟩
    obtain ⟨b, -, hb⟩ := List.mem_flatMap.1 hc
    exact mem_upperDigits_of_mem_byte hb
  · rintro ⟨digits, read⟩
    rw [upper, ← eq_of_decode? digits read, String.ofList_toList]

/-- There are two digits for each byte. -/
theorem length_upper (bs : Bytes) : (upper bs).length = 2 * bs.length := by
  rw [upper, String.length_ofList, List.length_flatMap]
  have two : (fun b => (byte 'A' b).length) = fun _ => 2 := rfl
  rw [two, List.map_const', List.sum_replicate_nat, Nat.mul_comm]

end CommitGate.Hex
