import CommitGate.Proofs.Text.Lines
import CommitGate.Proofs.Text.Utf8
import CommitGate.Text.Form

/-! # Forms, written and read

Encoding leaves nothing that a reader would cut at: neither `&` nor `=` is in an encoded text, and a plus or a
percent sign only where it stands for something else.

* `Form.decodeText_encodeText`: a text is read back, whatever its characters are;
* `Form.decode_encode`: so pairs are read back, all of them and in their order;
* `Form.isEncoded_of_mem_encode`: the few characters that an encoded form is made of.
-/

namespace CommitGate

/-! ## Cutting -/

/-- Cutting a text is what cutting a list is. -/
theorem Split.on_eq_splitOn (separator : Char) (s : List Char) :
    Split.on separator s = s.splitOn separator := by
  induction s with
  | nil => rfl
  | cons c rest ih =>
    have ne : rest.splitOn separator ≠ [] := List.splitOn_ne_nil _ _
    rw [List.splitOn_cons_eq_if_modifyHead, Split.on, ih]
    cases h : rest.splitOn separator with
    | nil => exact absurd h ne
    | cons part others =>
      simp only [List.modifyHead_cons, beq_iff_eq]

/-- Parts that do not hold the separator are found again. -/
theorem Split.on_intercalate {separator : Char} {parts : List (List Char)} (ne : parts ≠ [])
    (h : ∀ part ∈ parts, separator ∉ part) :
    Split.on separator (List.intercalate [separator] parts) = parts := by
  rw [Split.on_eq_splitOn]
  exact List.splitOn_intercalate separator h ne

/-! ## Percent signs -/

namespace Percent

/-- A hexadecimal digit as it is written. -/
def isDigit (c : Char) : Bool := ('0' ≤ c && c ≤ '9') || ('A' ≤ c && c ≤ 'F')

/-- A statement about digits is checked on the ASCII characters. -/
theorem forall_isDigit {P : Char → Prop} (h : ∀ n < 0x80, isDigit (Char.ofNat n) = true → P (Char.ofNat n)) :
    ∀ c : Char, isDigit c = true → P c := by
  intro c digit
  have bound := digit
  simp only [isDigit, Bool.or_eq_true, Bool.and_eq_true, decide_eq_true_eq, Char.le_def,
    UInt32.le_iff_toNat_le] at bound
  have ascii : c.toNat < 0x80 := by
    rcases bound with bound | bound
    · exact Nat.lt_of_le_of_lt bound.2 (by decide)
    · exact Nat.lt_of_le_of_lt bound.2 (by decide)
  exact forall_ascii (p := fun c => isDigit c = true → P c) h c ascii digit

theorem hexDigit {n : Nat} (h : n < 16) :
    isDigit (Hex.digit 'A' n) = true ∧
      ∃ b : UInt8, Utf8.encodeChar (Hex.digit 'A' n) = [b] ∧ digit? b = some n := by
  have all : ∀ n < 16, isDigit (Hex.digit 'A' n) = true ∧
      Utf8.encodeChar (Hex.digit 'A' n) = [UInt8.ofNat (Hex.digit 'A' n).toNat] ∧
      digit? (UInt8.ofNat (Hex.digit 'A' n).toNat) = some n := by
    decide
  obtain ⟨isDigit, bytes, value⟩ := all n h
  exact ⟨isDigit, _, bytes, value⟩

/-- The two digits of a byte. -/
theorem nibbles_lt (b : UInt8) : b.toNat / 16 < 16 ∧ b.toNat % 16 < 16 := by
  have bound : b.toNat < 256 := b.toNat_lt
  omega

/-- The characters of an escape. -/
theorem of_mem_byte {b : UInt8} {c : Char} (h : c ∈ byte b) : c = '%' ∨ isDigit c = true := by
  obtain ⟨high, low⟩ := nibbles_lt b
  simp only [byte, Hex.byte, List.mem_cons, List.not_mem_nil, or_false] at h
  rcases h with rfl | rfl | rfl
  · exact Or.inl rfl
  · exact Or.inr (hexDigit high).1
  · exact Or.inr (hexDigit low).1

/-- The characters of an encoded character: itself, if it may stand for itself, or those of escapes. -/
theorem of_mem_encodeChar {plain : Char → Bool} {c d : Char} (h : d ∈ encodeChar plain c) :
    (d = c ∧ plain c = true) ∨ d = '%' ∨ isDigit d = true := by
  unfold encodeChar at h
  split at h
  · rename_i stands
    exact Or.inl ⟨List.mem_singleton.1 h, stands⟩
  · obtain ⟨b, -, hb⟩ := List.mem_flatMap.1 h
    exact Or.inr (of_mem_byte hb)

/-- A text of characters that stand for themselves is its own encoded form. -/
theorem encode_eq_self {plain : Char → Bool} {s : List Char} (h : ∀ c ∈ s, plain c = true) :
    encode plain s = s := by
  induction s with
  | nil => rfl
  | cons c s ih =>
    have rest : ∀ d ∈ s, plain d = true := fun d hd => h d (List.mem_cons_of_mem _ hd)
    have first : encodeChar plain c = [c] := if_pos (h c List.mem_cons_self)
    have others : s.flatMap (encodeChar plain) = s := ih rest
    rw [encode, List.flatMap_cons, first, others]
    rfl

/-- A byte that is no percent sign stands for itself. -/
theorem decode_cons {b : UInt8} (h : b ≠ 0x25) (rest : Bytes) : decode (b :: rest) = b :: decode rest := by
  match rest with
  | [] => rfl
  | [_] => rfl
  | _ :: _ :: _ => rw [decode, if_neg h]

/-- An escape stands for its byte. -/
theorem decode_byte (b : UInt8) (rest : Bytes) :
    decode (Utf8.encode (byte b) ++ rest) = b :: decode rest := by
  obtain ⟨high, low⟩ := nibbles_lt b
  obtain ⟨-, h, hbytes, hvalue⟩ := hexDigit high
  obtain ⟨-, l, lbytes, lvalue⟩ := hexDigit low
  have bytes : Utf8.encode (byte b) ++ rest = 0x25 :: h :: l :: rest := by
    simp only [byte, Hex.byte, Utf8.encode_cons, Utf8.encode_nil, hbytes, lbytes]
    rfl
  rw [bytes, decode, if_pos rfl, hvalue, lvalue]
  dsimp only
  rw [Nat.div_add_mod', UInt8.ofNat_toNat]

/-- A row of escapes stands for its bytes. -/
theorem decode_flatMap_byte (bs rest : Bytes) :
    decode (Utf8.encode (bs.flatMap byte) ++ rest) = bs ++ decode rest := by
  induction bs with
  | nil => rfl
  | cons b bs ih =>
    rw [List.flatMap_cons, Utf8.encode_append, List.append_assoc, decode_byte, ih, List.cons_append]

end Percent

namespace Form

/-! ## Texts -/

/-- A character that stands for itself is an ASCII character that means nothing to a reader. -/
theorem isPlain_bounds {c : Char} (h : isPlain c = true) :
    c.toNat < 0x80 ∧ c ≠ '%' ∧ c ≠ '+' ∧ c ≠ '&' ∧ c ≠ '=' := by
  have ascii : c.toNat < 0x80 := by
    simp only [isPlain, Bool.or_eq_true, decide_eq_true_eq, isAlphanum_iff] at h
    rcases h with (((bounds | rfl) | rfl) | rfl) | rfl
    · omega
    all_goals decide
  refine ⟨ascii, ?_, ?_, ?_, ?_⟩ <;> (rintro rfl; exact absurd h (by decide))

/-- What an encoded text is made of. -/
def isEncoded (c : Char) : Bool := isPlain c || c = '+' || c = '%'

theorem isEncoded_of_mem_encodeText {s : String} {c : Char} (h : c ∈ encodeText s) :
    isEncoded c = true := by
  have digit : ∀ d : Char, Percent.isDigit d = true → isPlain d = true :=
    Percent.forall_isDigit (by decide)
  obtain ⟨d, -, hc⟩ := List.mem_flatMap.1 h
  split at hc
  · rw [List.mem_singleton.1 hc]
    rfl
  · simp only [isEncoded, Bool.or_eq_true, decide_eq_true_eq]
    rcases Percent.of_mem_encodeChar hc with ⟨rfl, plain⟩ | rfl | hex
    · exact Or.inl (Or.inl plain)
    · exact Or.inr rfl
    · exact Or.inl (Or.inl (digit c hex))

/-- One character in encoded form, in front of a rest that is still encoded, is read as its bytes. -/
theorem decode_encodeChar (c : Char) (rest : Bytes) :
    Percent.decode (Utf8.encode ((if c = ' ' then ['+'] else Percent.encodeChar isPlain c).map
      fun d => if d = '+' then ' ' else d) ++ rest) = Utf8.encodeChar c ++ Percent.decode rest := by
  by_cases blank : c = ' '
  · -- a blank is written as a plus, which is read as a blank
    subst blank
    exact Percent.decode_cons (by decide) rest
  · rw [if_neg blank, Percent.encodeChar]
    split
    · rename_i plain
      obtain ⟨ascii, percent, plus, -, -⟩ := isPlain_bounds plain
      have one : Utf8.encodeChar c = [UInt8.ofNat c.toNat] := by
        rw [Utf8.encodeChar, if_pos ascii]
      have other : UInt8.ofNat c.toNat ≠ 0x25 := by
        intro same
        have := congrArg UInt8.toNat same
        rw [Utf8.toNat_ofNat_of_lt (by omega)] at this
        exact percent (Char.toNat_inj.1 this)
      rw [List.map_singleton, if_neg plus, Utf8.encode_cons, Utf8.encode_nil, List.append_nil, one]
      exact Percent.decode_cons other rest
    · have kept : ((Utf8.encodeChar c).flatMap Percent.byte).map (fun d => if d = '+' then ' ' else d) =
          (Utf8.encodeChar c).flatMap Percent.byte := by
        refine map_eq_self fun d hd => if_neg ?_
        obtain ⟨b, -, hb⟩ := List.mem_flatMap.1 hd
        rintro rfl
        exact absurd (Percent.of_mem_byte hb) (by decide)
      rw [kept, Percent.decode_flatMap_byte]

/-- A text is read back. -/
theorem decodeText_encodeText (s : String) : decodeText (encodeText s) = s := by
  -- character by character, in front of what is read already
  have bytes : ∀ cs : List Char,
      Percent.decode (Utf8.encode ((cs.flatMap fun c =>
        if c = ' ' then ['+'] else Percent.encodeChar isPlain c).map fun d => if d = '+' then ' ' else d)) =
      Utf8.encode cs := by
    intro cs
    induction cs with
    | nil => rfl
    | cons c cs ih =>
      rw [List.flatMap_cons, List.map_append, Utf8.encode_append, decode_encodeChar, ih,
        Utf8.encode_cons]
  rw [decodeText, encodeText, bytes, Utf8.toStringLossy, Utf8.decodeLossy_encode, String.ofList_toList]

/-! ## Pairs -/

/-- A sign that a reader cuts at is not in an encoded text. -/
theorem not_mem_encodeText {c : Char} (h : isEncoded c = false) (s : String) : c ∉ encodeText s := by
  intro hc
  rw [isEncoded_of_mem_encodeText hc] at h
  cases h

theorem decodePair_encodePair (p : String × String) : decodePair (encodePair p) = p := by
  have name : '=' ∉ encodeText p.1 := not_mem_encodeText (by decide) p.1
  have front : (encodePair p).takeWhile (· != '=') = encodeText p.1 := takeWhile_ne name
  have back : ((encodePair p).dropWhile (· != '=')).drop 1 = encodeText p.2 := by
    rw [← drop_length_takeWhile, front, encodePair, List.drop_left]
    rfl
  rw [decodePair, front, back, decodeText_encodeText, decodeText_encodeText]

/-- The characters of an encoded form. -/
theorem isEncoded_of_mem_encode {pairs : List (String × String)} {c : Char} (h : c ∈ encode pairs) :
    isEncoded c = true ∨ c = '=' ∨ c = '&' := by
  rcases of_mem_intercalate h with rfl | ⟨part, hpart, hc⟩
  · exact Or.inr (Or.inr rfl)
  · obtain ⟨p, -, rfl⟩ := List.mem_map.1 hpart
    rw [encodePair, List.mem_append, List.mem_cons] at hc
    rcases hc with hc | rfl | hc
    · exact Or.inl (isEncoded_of_mem_encodeText hc)
    · exact Or.inr (Or.inl rfl)
    · exact Or.inl (isEncoded_of_mem_encodeText hc)

/-- Pairs are read back. -/
theorem decode_encode (pairs : List (String × String)) : decode (encode pairs) = pairs := by
  cases pairs with
  | nil => rfl
  | cons p pairs =>
    have separate : ∀ part ∈ (p :: pairs).map encodePair, '&' ∉ part := by
      intro part hpart hmem
      obtain ⟨q, -, rfl⟩ := List.mem_map.1 hpart
      rw [encodePair, List.mem_append, List.mem_cons] at hmem
      rcases hmem with h | h | h
      · exact not_mem_encodeText (by decide) q.1 h
      · exact absurd h (by decide)
      · exact not_mem_encodeText (by decide) q.2 h
    have parts : ((p :: pairs).map encodePair).filter (fun part => !part.isEmpty) =
        (p :: pairs).map encodePair := by
      refine List.filter_eq_self.2 fun part hpart => ?_
      obtain ⟨q, -, rfl⟩ := List.mem_map.1 hpart
      simp [encodePair]
    have read : decodePair ∘ encodePair = id := funext decodePair_encodePair
    rw [decode, encode, Split.on_intercalate (by simp) separate, parts, List.map_map, read, List.map_id]

end Form

end CommitGate
