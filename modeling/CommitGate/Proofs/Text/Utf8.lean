import CommitGate.Text.Utf8

/-! # UTF-8, written and read

What `Utf8.encode` writes is read back (`decodeLossy_encode`), as it has no bad sequences for which
U+FFFD would stand, and strict decoding accepts nothing else (`decode_eq_ok_iff`). A byte below 128 stands
for itself, and a character has such a byte only if it is that byte (`of_mem_encodeChar`).

Before that, statements about ASCII characters are brought down to their numbers (`forall_ascii`,
`isAlphanum_iff`).
-/

namespace CommitGate

/-- What holds of every character of a text is checked on the text, not on all characters there are. -/
theorem forall_mem_of_all {p : Char → Prop} [DecidablePred p] {cs : List Char}
    (h : cs.all (fun c => decide (p c)) = true) : ∀ c ∈ cs, p c :=
  fun c hc => of_decide_eq_true (List.all_eq_true.1 h c hc)

/-- What holds of every ASCII character is checked on the numbers of these. -/
theorem forall_ascii {p : Char → Prop} (h : ∀ n < 0x80, p (Char.ofNat n)) :
    ∀ c : Char, c.toNat < 0x80 → p c := by
  intro c ascii
  have checked := h c.toNat ascii
  rwa [Char.ofNat_toNat] at checked

/-- What holds of every byte is checked on the numbers of bytes. -/
theorem forall_byte {p : UInt8 → Prop} (h : ∀ n < 256, p (UInt8.ofNat n)) (b : UInt8) : p b := by
  have checked := h b.toNat b.toNat_lt
  rwa [UInt8.ofNat_toNat] at checked

/-- Letters and digits by their numbers. -/
theorem isAlphanum_iff {c : Char} :
    c.isAlphanum = true ↔ (0x41 ≤ c.toNat ∧ c.toNat ≤ 0x5A) ∨ (0x61 ≤ c.toNat ∧ c.toNat ≤ 0x7A) ∨
      (0x30 ≤ c.toNat ∧ c.toNat ≤ 0x39) := by
  have within : ∀ first last : Char, (decide (first.val ≤ c.val) && decide (c.val ≤ last.val)) = true ↔
      first.toNat ≤ c.toNat ∧ c.toNat ≤ last.toNat := by
    intro first last
    rw [Bool.and_eq_true, decide_eq_true_iff, decide_eq_true_iff]
    exact and_congr UInt32.le_iff_toNat_le UInt32.le_iff_toNat_le
  have upper : c.isUpper = true ↔ 0x41 ≤ c.toNat ∧ c.toNat ≤ 0x5A :=
    decide_eq_true_iff.trans (and_congr UInt32.le_iff_toNat_le UInt32.le_iff_toNat_le)
  have lower : c.isLower = true ↔ 0x61 ≤ c.toNat ∧ c.toNat ≤ 0x7A := within 'a' 'z'
  have digit : c.isDigit = true ↔ 0x30 ≤ c.toNat ∧ c.toNat ≤ 0x39 := within '0' '9'
  have kinds : c.isAlphanum = (c.isUpper || c.isLower || c.isDigit) := rfl
  rw [kinds, Bool.or_eq_true, Bool.or_eq_true, upper, lower, digit, or_assoc]

namespace Utf8

/-! ## Reading one character -/

theorem step_one {b : UInt8} {rest : Bytes} (h : b.toNat < 0x80) :
    step b rest = .char (Char.ofNat b.toNat) rest :=
  if_pos (UInt8.lt_iff_toNat_lt.2 h)

theorem isContinuation_iff {b : UInt8} : isContinuation b = true ↔ 0x80 ≤ b.toNat ∧ b.toNat ≤ 0xBF := by
  simp [isContinuation, UInt8.le_iff_toNat_le]

theorem step_two {b₁ b₂ : UInt8} {rest : Bytes} (h₁ : 0xC2 ≤ b₁.toNat ∧ b₁.toNat ≤ 0xDF)
    (h₂ : isContinuation b₂ = true) :
    step b₁ (b₂ :: rest) = .char (Char.ofNat (b₁.toNat % 32 * 64 + payload b₂)) rest := by
  have notOne : ¬ b₁ < 0x80 := by
    rw [UInt8.lt_iff_toNat_lt]
    exact fun h => absurd h₁.1 (Nat.not_le.2 (Nat.lt_trans h (by decide)))
  simp [step, notOne, UInt8.le_iff_toNat_le, h₁, h₂, assemble]

theorem step_three {b₁ b₂ b₃ : UInt8} {rest : Bytes} (h₁ : 0xE0 ≤ b₁.toNat ∧ b₁.toNat ≤ 0xEF)
    (h₂ : secondOfThree b₁ b₂ = true) (h₃ : isContinuation b₃ = true) :
    step b₁ (b₂ :: b₃ :: rest) =
      .char (Char.ofNat ((b₁.toNat % 16 * 64 + payload b₂) * 64 + payload b₃)) rest := by
  have notOne : ¬ b₁ < 0x80 := by
    rw [UInt8.lt_iff_toNat_lt]
    exact fun h => absurd h₁.1 (Nat.not_le.2 (Nat.lt_trans h (by decide)))
  have notTwo : ¬ b₁.toNat ≤ 0xDF := by omega
  simp [step, notOne, notTwo, UInt8.le_iff_toNat_le, h₁, h₂, h₃, assemble]

theorem step_four {b₁ b₂ b₃ b₄ : UInt8} {rest : Bytes} (h₁ : 0xF0 ≤ b₁.toNat ∧ b₁.toNat ≤ 0xF4)
    (h₂ : secondOfFour b₁ b₂ = true) (h₃ : isContinuation b₃ = true)
    (h₄ : isContinuation b₄ = true) :
    step b₁ (b₂ :: b₃ :: b₄ :: rest) =
      .char (Char.ofNat (((b₁.toNat % 8 * 64 + payload b₂) * 64 + payload b₃) * 64 + payload b₄))
        rest := by
  have notOne : ¬ b₁ < 0x80 := by
    rw [UInt8.lt_iff_toNat_lt]
    exact fun h => absurd h₁.1 (Nat.not_le.2 (Nat.lt_trans h (by decide)))
  have notTwo : ¬ b₁.toNat ≤ 0xDF := by omega
  have notThree : ¬ b₁.toNat ≤ 0xEF := by omega
  simp [step, notOne, notTwo, notThree, UInt8.le_iff_toNat_le, h₁, h₂, h₃, h₄, assemble]

theorem secondOfThree_of (b₁ : UInt8) {b₂ : UInt8} (h : isContinuation b₂ = true)
    (low : b₁.toNat = 0xE0 → 0xA0 ≤ b₂.toNat) (high : b₁.toNat = 0xED → b₂.toNat ≤ 0x9F) :
    secondOfThree b₁ b₂ = true := by
  have bounds := isContinuation_iff.1 h
  unfold secondOfThree
  split
  · rename_i h'
    obtain rfl := beq_iff_eq.1 h'
    simp [UInt8.le_iff_toNat_le, low rfl, bounds.2]
  split
  · rename_i h'
    obtain rfl := beq_iff_eq.1 h'
    simp [UInt8.le_iff_toNat_le, high rfl, bounds.1]
  · exact h

theorem secondOfFour_of (b₁ : UInt8) {b₂ : UInt8} (h : isContinuation b₂ = true)
    (low : b₁.toNat = 0xF0 → 0x90 ≤ b₂.toNat) (high : b₁.toNat = 0xF4 → b₂.toNat ≤ 0x8F) :
    secondOfFour b₁ b₂ = true := by
  have bounds := isContinuation_iff.1 h
  unfold secondOfFour
  split
  · rename_i h'
    obtain rfl := beq_iff_eq.1 h'
    simp [UInt8.le_iff_toNat_le, low rfl, bounds.2]
  split
  · rename_i h'
    obtain rfl := beq_iff_eq.1 h'
    simp [UInt8.le_iff_toNat_le, high rfl, bounds.1]
  · exact h

/-! ## Writing one character -/

theorem toNat_ofNat_of_lt {n : Nat} (h : n < 256) : (UInt8.ofNat n).toNat = n := by
  rw [UInt8.toNat_ofNat', Nat.mod_eq_of_lt h]

/-- A continuation byte carries six bits. -/
theorem isContinuation_ofNat {n : Nat} (h : n < 64) :
    isContinuation (UInt8.ofNat (0x80 + n)) = true ∧ payload (UInt8.ofNat (0x80 + n)) = n := by
  have value := toNat_ofNat_of_lt (show 0x80 + n < 256 by omega)
  rw [isContinuation_iff, payload, value]
  omega

/-- A code point is no surrogate, and the last one is U+10FFFF. -/
theorem toNat_bounds (c : Char) : c.toNat < 0xD800 ∨ (0xDFFF < c.toNat ∧ c.toNat < 0x110000) := by
  rcases c.valid with h | ⟨h, h'⟩
  · exact .inl h
  · exact .inr ⟨h, h'⟩

/-- The bytes of a character are read as that character, whatever stands behind them. -/
theorem step_encodeChar (c : Char) (rest : Bytes) :
    ∃ first tail, encodeChar c = first :: tail ∧ step first (tail ++ rest) = .char c rest := by
  have bounds := toNat_bounds c
  have named := c.ofNat_toNat
  unfold encodeChar
  generalize c.toNat = n at bounds named
  subst named
  -- one case for each number of bytes
  dsimp only
  split
  · rename_i h
    have value := toNat_ofNat_of_lt (show n < 256 by omega)
    refine ⟨_, _, rfl, (step_one (by rwa [value])).trans ?_⟩
    rw [value]
    rfl
  split
  · rename_i h
    have first := toNat_ofNat_of_lt (show 0xC0 + n / 64 < 256 by omega)
    obtain ⟨second, low⟩ := isContinuation_ofNat (show n % 64 < 64 by omega)
    refine ⟨_, _, rfl, (step_two (by rw [first]; omega) second).trans ?_⟩
    rw [first, low]
    congr 2
    omega
  split
  · rename_i h
    have first := toNat_ofNat_of_lt (show 0xE0 + n / 4096 < 256 by omega)
    have value := toNat_ofNat_of_lt (show 0x80 + n / 64 % 64 < 256 by omega)
    obtain ⟨second, middle⟩ := isContinuation_ofNat (show n / 64 % 64 < 64 by omega)
    obtain ⟨third, low⟩ := isContinuation_ofNat (show n % 64 < 64 by omega)
    have fits := secondOfThree_of (UInt8.ofNat (0xE0 + n / 4096)) second
      (by rw [first, value]; omega) (by rw [first, value]; omega)
    refine ⟨_, _, rfl, (step_three (by rw [first]; omega) fits third).trans ?_⟩
    rw [first, middle, low]
    congr 2
    omega
  · have first := toNat_ofNat_of_lt (show 0xF0 + n / 262144 < 256 by omega)
    have value := toNat_ofNat_of_lt (show 0x80 + n / 4096 % 64 < 256 by omega)
    obtain ⟨second, high⟩ := isContinuation_ofNat (show n / 4096 % 64 < 64 by omega)
    obtain ⟨third, middle⟩ := isContinuation_ofNat (show n / 64 % 64 < 64 by omega)
    obtain ⟨fourth, low⟩ := isContinuation_ofNat (show n % 64 < 64 by omega)
    have fits := secondOfFour_of (UInt8.ofNat (0xF0 + n / 262144)) second
      (by rw [first, value]; omega) (by rw [first, value]; omega)
    refine ⟨_, _, rfl, (step_four (by rw [first]; omega) fits third fourth).trans ?_⟩
    rw [first, high, middle, low]
    congr 2
    omega

/-- A character beyond ASCII has no byte of ASCII, and one of ASCII has no other byte. -/
theorem of_mem_encodeChar {c : Char} {b : UInt8} (h : b ∈ encodeChar c) :
    (c.toNat < 0x80 ∧ b.toNat = c.toNat) ∨ (0x80 ≤ c.toNat ∧ 0x80 ≤ b.toNat) := by
  have bounds := toNat_bounds c
  unfold encodeChar at h
  generalize c.toNat = n at bounds h
  -- a byte whose value is known, and at least 128 beyond ASCII
  have beyond : ∀ m, 0x80 ≤ m → m < 256 → 0x80 ≤ (UInt8.ofNat m).toNat := by
    intro m low high
    rwa [toNat_ofNat_of_lt high]
  dsimp only at h
  split at h
  · rename_i small
    rw [List.mem_singleton] at h
    subst h
    exact .inl ⟨small, toNat_ofNat_of_lt (by omega)⟩
  · rename_i large
    refine .inr ⟨Nat.not_lt.1 large, ?_⟩
    split at h
    · simp only [List.mem_cons, List.not_mem_nil, or_false] at h
      rcases h with rfl | rfl <;> exact beyond _ (by omega) (by omega)
    split at h
    · simp only [List.mem_cons, List.not_mem_nil, or_false] at h
      rcases h with rfl | rfl | rfl <;> exact beyond _ (by omega) (by omega)
    · simp only [List.mem_cons, List.not_mem_nil, or_false] at h
      rcases h with rfl | rfl | rfl | rfl <;> exact beyond _ (by omega) (by omega)

/-! ## Texts -/

@[simp] theorem encode_nil : encode [] = [] := rfl

@[simp] theorem encode_cons (c : Char) (s : List Char) : encode (c :: s) = encodeChar c ++ encode s :=
  List.flatMap_cons

@[simp] theorem encode_append (s t : List Char) : encode (s ++ t) = encode s ++ encode t :=
  List.flatMap_append

/-- A character of an ASCII text is one byte. -/
theorem encode_of_ascii {s : List Char} (h : ∀ c ∈ s, c.toNat < 0x80) :
    encode s = s.map fun c => UInt8.ofNat c.toNat := by
  induction s with
  | nil => rfl
  | cons c rest ih =>
    obtain ⟨hc, hr⟩ := List.forall_mem_cons.1 h
    rw [encode_cons, ih hr, encodeChar, if_pos hc]
    rfl

theorem length_encodeChar (c : Char) : (encodeChar c).length = c.utf8Size := by
  have size : c.utf8Size =
      if c.toNat < 0x80 then 1 else if c.toNat < 0x800 then 2 else if c.toNat < 0x10000 then 3 else 4 := by
    simp only [Char.utf8Size, UInt32.le_iff_toNat_le, ← Nat.lt_succ_iff]
    rfl
  rw [size, encodeChar]
  repeat' split
  all_goals rfl

/-- The form of a string has as many bytes as the string. -/
theorem length_ofString (s : String) : (ofString s).length = s.utf8ByteSize := by
  have sizes : ∀ cs : List Char, (encode cs).length = (cs.flatMap String.utf8EncodeChar).length := by
    intro cs
    induction cs with
    | nil => rfl
    | cons c cs ih =>
      rw [encode_cons, List.flatMap_cons, List.length_append, List.length_append, ih,
        length_encodeChar, String.length_utf8EncodeChar]
  calc (ofString s).length
      = (s.toList.flatMap String.utf8EncodeChar).length := sizes s.toList
    _ = (String.ofList s.toList).utf8ByteSize := by
      rw [String.utf8ByteSize, String.toByteArray_ofList, List.utf8Encode, List.size_toByteArray]
    _ = s.utf8ByteSize := by rw [String.ofList_toList]

theorem decodeLossy_encodeChar (c : Char) (rest : Bytes) :
    decodeLossy (encodeChar c ++ rest) = c :: decodeLossy rest := by
  obtain ⟨first, tail, bytes, read⟩ := step_encodeChar c rest
  rw [bytes, List.cons_append, decodeLossy]
  split <;> rename_i heq <;> rw [read] at heq <;> cases heq
  rfl

/-- What is written is read back. -/
theorem decodeLossy_encode (s : List Char) : decodeLossy (encode s) = s := by
  induction s with
  | nil => rw [encode_nil, decodeLossy]
  | cons c s ih => rw [encode_cons, decodeLossy_encodeChar, ih]

/-! ## Only what is written is read -/

theorem toNat_ofNat_of_valid {n : Nat} (h : n < 0xD800 ∨ 0xE000 ≤ n ∧ n < 0x110000) :
    (Char.ofNat n).toNat = n := by
  have valid : n.isValidChar := by
    unfold Nat.isValidChar
    omega
  rw [Char.ofNat, dif_pos valid]
  rfl

theorem ofNat_eq_of_toNat {b : UInt8} {n : Nat} (h : b.toNat = n) : UInt8.ofNat n = b := by
  rw [← h, UInt8.ofNat_toNat]

/-- The second of three bytes leaves out overlong forms and surrogates. -/
theorem of_secondOfThree {b₁ b₂ : UInt8} (h : secondOfThree b₁ b₂ = true) :
    (0x80 ≤ b₂.toNat ∧ b₂.toNat ≤ 0xBF) ∧ (b₁.toNat = 0xE0 → 0xA0 ≤ b₂.toNat) ∧
      (b₁.toNat = 0xED → b₂.toNat ≤ 0x9F) := by
  unfold secondOfThree at h
  simp only [beq_iff_eq, ← UInt8.toNat_inj, UInt8.reduceToNat] at h
  split at h
  · simp only [Bool.and_eq_true, decide_eq_true_eq, UInt8.le_iff_toNat_le, UInt8.reduceToNat] at h
    omega
  split at h
  · simp only [Bool.and_eq_true, decide_eq_true_eq, UInt8.le_iff_toNat_le, UInt8.reduceToNat] at h
    omega
  · have bounds := isContinuation_iff.1 h
    omega

/-- The second of four bytes leaves out overlong forms and what lies beyond U+10FFFF. -/
theorem of_secondOfFour {b₁ b₂ : UInt8} (h : secondOfFour b₁ b₂ = true) :
    (0x80 ≤ b₂.toNat ∧ b₂.toNat ≤ 0xBF) ∧ (b₁.toNat = 0xF0 → 0x90 ≤ b₂.toNat) ∧
      (b₁.toNat = 0xF4 → b₂.toNat ≤ 0x8F) := by
  unfold secondOfFour at h
  simp only [beq_iff_eq, ← UInt8.toNat_inj, UInt8.reduceToNat] at h
  split at h
  · simp only [Bool.and_eq_true, decide_eq_true_eq, UInt8.le_iff_toNat_le, UInt8.reduceToNat] at h
    omega
  split at h
  · simp only [Bool.and_eq_true, decide_eq_true_eq, UInt8.le_iff_toNat_le, UInt8.reduceToNat] at h
    omega
  · have bounds := isContinuation_iff.1 h
    omega

/-- Bytes that begin with those of a character, and what follows these: one case for each number of bytes. -/
inductive Front : Bytes → Char → Bytes → Prop
  | one {b : UInt8} {rest : Bytes} (h : b.toNat < 0x80) : Front (b :: rest) (Char.ofNat b.toNat) rest
  | two {b₁ b₂ : UInt8} {rest : Bytes} (h₁ : 0xC2 ≤ b₁.toNat ∧ b₁.toNat ≤ 0xDF)
      (h₂ : isContinuation b₂ = true) : Front (b₁ :: b₂ :: rest) (assemble (b₁.toNat % 32) [b₂]) rest
  | three {b₁ b₂ b₃ : UInt8} {rest : Bytes} (h₁ : 0xE0 ≤ b₁.toNat ∧ b₁.toNat ≤ 0xEF)
      (h₂ : secondOfThree b₁ b₂ = true) (h₃ : isContinuation b₃ = true) :
    Front (b₁ :: b₂ :: b₃ :: rest) (assemble (b₁.toNat % 16) [b₂, b₃]) rest
  | four {b₁ b₂ b₃ b₄ : UInt8} {rest : Bytes} (h₁ : 0xF0 ≤ b₁.toNat ∧ b₁.toNat ≤ 0xF4)
      (h₂ : secondOfFour b₁ b₂ = true) (h₃ : isContinuation b₃ = true) (h₄ : isContinuation b₄ = true) :
    Front (b₁ :: b₂ :: b₃ :: b₄ :: rest) (assemble (b₁.toNat % 8) [b₂, b₃, b₄]) rest

/-- A step that reads a character reads it in one of these ways. -/
theorem front_of_step {first : UInt8} {rest rest' : Bytes} {c : Char}
    (h : step first rest = .char c rest') : Front (first :: rest) c rest' := by
  -- one split for each length, and within it one for each byte that follows
  unfold step at h
  simp only [UInt8.lt_iff_toNat_lt, UInt8.le_iff_toNat_le, UInt8.reduceToNat, Bool.and_eq_true,
    decide_eq_true_eq] at h
  split at h
  · rename_i small
    cases h
    exact .one small
  split at h
  · rename_i range
    split at h
    · cases h
    · split at h
      · rename_i second
        cases h
        exact .two range second
      · cases h
  split at h
  · rename_i range
    split at h
    · cases h
    · split at h
      · rename_i second
        split at h
        · cases h
        · split at h
          · rename_i third
            cases h
            exact .three range second third
          · cases h
      · cases h
  split at h
  · rename_i range
    split at h
    · cases h
    · split at h
      · rename_i second
        split at h
        · cases h
        · split at h
          · rename_i third
            split at h
            · cases h
            · split at h
              · rename_i fourth
                cases h
                exact .four range second third fourth
              · cases h
          · cases h
      · cases h
  · cases h

/-- The bytes in front are those of the character. -/
theorem Front.eq_encodeChar {bs rest : Bytes} {c : Char} (h : Front bs c rest) :
    bs = encodeChar c ++ rest := by
  cases h with
  | @one b _ small =>
    rw [encodeChar, toNat_ofNat_of_valid (by omega), if_pos small, UInt8.ofNat_toNat]
    rfl
  | @two b₁ b₂ _ range second =>
    have range₂ := isContinuation_iff.1 second
    simp only [assemble, List.foldl, payload]
    rw [encodeChar, toNat_ofNat_of_valid (by omega), if_neg (by omega), if_pos (by omega),
      ofNat_eq_of_toNat (b := b₁) (by omega), ofNat_eq_of_toNat (b := b₂) (by omega)]
    rfl
  | @three b₁ b₂ b₃ _ range second third =>
    have range₂ := of_secondOfThree second
    have range₃ := isContinuation_iff.1 third
    simp only [assemble, List.foldl, payload]
    rw [encodeChar, toNat_ofNat_of_valid (by omega), if_neg (by omega), if_neg (by omega),
      if_pos (by omega), ofNat_eq_of_toNat (b := b₁) (by omega), ofNat_eq_of_toNat (b := b₂) (by omega),
      ofNat_eq_of_toNat (b := b₃) (by omega)]
    rfl
  | @four b₁ b₂ b₃ b₄ _ range second third fourth =>
    have range₂ := of_secondOfFour second
    have range₃ := isContinuation_iff.1 third
    have range₄ := isContinuation_iff.1 fourth
    simp only [assemble, List.foldl, payload]
    rw [encodeChar, toNat_ofNat_of_valid (by omega), if_neg (by omega), if_neg (by omega),
      if_neg (by omega), ofNat_eq_of_toNat (b := b₁) (by omega), ofNat_eq_of_toNat (b := b₂) (by omega),
      ofNat_eq_of_toNat (b := b₃) (by omega), ofNat_eq_of_toNat (b := b₄) (by omega)]
    rfl

/-- Decoding takes one step after the other, up to the first that reads no character. -/
theorem decodeFrom_cons (good : Nat) (first : UInt8) (rest : Bytes) :
    decodeFrom good (first :: rest) =
      match step first rest with
      | .char c rest' => (decodeFrom (good + (rest.length + 1 - rest'.length)) rest').map (c :: ·)
      | .bad n _ => .error ⟨good, some n⟩
      | .cut => .error ⟨good, none⟩ := by
  rw [decodeFrom]
  split <;> rename_i read <;> simp only [read]

/-- Lossy decoding takes one step after the other. -/
theorem decodeLossy_cons (first : UInt8) (rest : Bytes) :
    decodeLossy (first :: rest) =
      match step first rest with
      | .char c rest' => c :: decodeLossy rest'
      | .bad _ rest' => '\uFFFD' :: decodeLossy rest'
      | .cut => ['\uFFFD'] := by
  rw [decodeLossy]
  split <;> rename_i read <;> simp only [read]

theorem decodeFrom_eq_ok_iff {good : Nat} {bs : Bytes} {s : List Char} :
    decodeFrom good bs = .ok s ↔ bs = encode s := by
  constructor
  · intro h
    fun_induction decodeFrom good bs generalizing s with
    | case1 =>
      cases h
      rfl
    | case2 good first rest c rest' read short ih =>
      cases later : decodeFrom (good + (rest.length + 1 - rest'.length)) rest' with
      | error e =>
        rw [later] at h
        cases h
      | ok t =>
        rw [later] at h
        cases h
        rw [(front_of_step read).eq_encodeChar, ih later, encode_cons]
    | case3 => cases h
    | case4 => cases h
  · rintro rfl
    induction s generalizing good with
    | nil => rw [encode_nil, decodeFrom]
    | cons c s ih =>
      obtain ⟨first, tail, bytes, read⟩ := step_encodeChar c (encode s)
      rw [encode_cons, bytes, List.cons_append, decodeFrom_cons]
      simp only [read, ih]
      rfl

/-- Decoding accepts exactly what is written for some text. -/
theorem decode_eq_ok_iff {bs : Bytes} {s : List Char} : decode bs = .ok s ↔ bs = encode s :=
  decodeFrom_eq_ok_iff

/-- Bytes that are no text leave a mark in what lossy decoding makes of them. -/
theorem replacement_mem_of_decodeFrom {good : Nat} {bs : Bytes} {e : Error}
    (h : decodeFrom good bs = .error e) : '\uFFFD' ∈ decodeLossy bs := by
  fun_induction decodeFrom good bs with
  | case1 => cases h
  | case2 good first rest c rest' read short ih =>
    simp only [decodeLossy_cons, read]
    cases later : decodeFrom (good + (rest.length + 1 - rest'.length)) rest' with
    | ok s =>
      rw [later] at h
      cases h
    | error e' =>
      rw [later] at h
      cases h
      exact List.mem_cons_of_mem _ (ih later)
  | case3 good first rest n rest' read =>
    simp only [decodeLossy_cons, read]
    exact List.mem_cons_self
  | case4 good first rest read =>
    simp only [decodeLossy_cons, read]
    exact List.mem_cons_self

end Utf8

end CommitGate
