import CommitGate.Proofs.Json.Spelling

/-! # The grammar of JSON

`Json.Doc` is a document as it is written: strings keep their escapes, numbers their digits, and objects all
their members, of whatever name. `Doc.IsSpelled` holds of a document and of each of its texts in UTF-8, and
`Doc.IsWritten` of a document and of a text that holds it with spaces around.

* `Piece.text?` is what the pieces of a string stand for, if every half of a surrogate pair has the other half;
* `Doc.valuesOf` are the values that an object has under a name.

No reader is mentioned here.
-/

namespace CommitGate.Json

open Reader (Blank isSpace)
open Utf8 (encode encodeChar)

/-! ## Strings -/

/-- A piece of a string: a character that stands for itself, a letter after a backslash, or a unit of UTF-16 in
four hexadecimal digits. -/
inductive Piece where
  | plain (c : Char)
  | letter (c : Char)
  | unit (a b c d : Char)
deriving DecidableEq, Repr

namespace Piece

/-- The letters that may follow a backslash, and what they stand for. -/
def letters : List (Char × Char) :=
  [('"', '"'), ('\\', '\\'), ('/', '/'), ('b', '\x08'), ('f', '\x0C'), ('n', '\n'), ('r', '\r'), ('t', '\t')]

/-- A piece as it is written. -/
def chars : Piece → List Char
  | plain c => [c]
  | letter c => ['\\', c]
  | unit a b c d => ['\\', 'u', a, b, c, d]

/-- The piece may stand in a string. -/
def IsValid : Piece → Prop
  | plain c => 0x20 ≤ c.toNat ∧ c ≠ '"' ∧ c ≠ '\\'
  | letter c => (letters.lookup c).isSome = true
  | unit a b c d => ∀ x ∈ [a, b, c, d], (Hex.value? x).isSome = true

instance : (p : Piece) → Decidable p.IsValid
  | plain c => inferInstanceAs (Decidable (0x20 ≤ c.toNat ∧ c ≠ '"' ∧ c ≠ '\\'))
  | letter c => inferInstanceAs (Decidable ((letters.lookup c).isSome = true))
  | unit a b c d => List.decidableBAll (fun x => (Hex.value? x).isSome = true) [a, b, c, d]

/-- The number of four hexadecimal digits. -/
def number (a b c d : Char) : Nat :=
  [a, b, c, d].foldl (fun n x => n * 16 + (Hex.value? x).getD 0) 0

/-- The first half of a surrogate pair. -/
def IsHigh (n : Nat) : Prop := 0xD800 ≤ n ∧ n ≤ 0xDBFF

/-- The second half of a surrogate pair. -/
def IsLow (n : Nat) : Prop := 0xDC00 ≤ n ∧ n ≤ 0xDFFF

instance (n : Nat) : Decidable (IsHigh n) := inferInstanceAs (Decidable (_ ∧ _))

instance (n : Nat) : Decidable (IsLow n) := inferInstanceAs (Decidable (_ ∧ _))

/-- The character of a surrogate pair. -/
def pair (high low : Nat) : Char := Char.ofNat ((high - 0xD800) * 1024 + (low - 0xDC00) + 0x10000)

/-- What the pieces of a string stand for. -/
def text? : List Piece → Option (List Char)
  | [] => some []
  | plain c :: ps => (text? ps).map (c :: ·)
  | letter c :: ps => (letters.lookup c).bind fun x => (text? ps).map (x :: ·)
  | unit a b c d :: ps =>
    if IsHigh (number a b c d) then
      match ps with
      | unit a' b' c' d' :: ps' =>
        if IsLow (number a' b' c' d') then
          (text? ps').map (pair (number a b c d) (number a' b' c' d') :: ·)
        else none
      | _ => none
    else if IsLow (number a b c d) then none
    else (text? ps).map (Char.ofNat (number a b c d) :: ·)

end Piece

/-! ## Numbers -/

/-- One digit or more. -/
def IsDigits (text : Bytes) : Prop := text ≠ [] ∧ ∀ b ∈ text, Bytes.isDigit b = true

/-- Digits of which the first is no zero, or a zero alone. -/
def IsWhole (text : Bytes) : Prop := IsDigits text ∧ (text.head? = some 0x30 → text = [0x30])

/-- Nothing, or a point with digits. -/
def IsFraction (text : Bytes) : Prop := text = [] ∨ ∃ ds, IsDigits ds ∧ text = 0x2E :: ds

/-- Nothing, or a letter for the exponent with a sign or none and digits. -/
def IsExponent (text : Bytes) : Prop :=
  text = [] ∨ ∃ e sign ds, (e = 0x65 ∨ e = 0x45) ∧ (sign = [] ∨ sign = [0x2B] ∨ sign = [0x2D]) ∧ IsDigits ds ∧
    text = e :: (sign ++ ds)

/-- A number without its sign. -/
def IsUnsigned (text : Bytes) : Prop :=
  ∃ whole fraction exponent, IsWhole whole ∧ IsFraction fraction ∧ IsExponent exponent ∧
    text = whole ++ (fraction ++ exponent)

/-- A number. -/
def IsNumber (text : Bytes) : Prop := IsUnsigned text ∨ ∃ own, IsUnsigned own ∧ text = 0x2D :: own

theorem IsDigits.ascii {text : Bytes} (h : IsDigits text) : ∀ b ∈ text, b.toNat < 0x80 := by
  have all : ∀ b, Bytes.isDigit b = true → b.toNat < 0x80 := forall_byte (by decide +kernel)
  exact fun b hb => all b (h.2 b hb)

theorem IsFraction.ascii {text : Bytes} (h : IsFraction text) : ∀ b ∈ text, b.toNat < 0x80 := by
  rcases h with rfl | ⟨ds, digits, rfl⟩
  · exact fun _ hb => absurd hb List.not_mem_nil
  · exact List.forall_mem_cons.2 ⟨by decide, digits.ascii⟩

theorem IsExponent.ascii {text : Bytes} (h : IsExponent text) : ∀ b ∈ text, b.toNat < 0x80 := by
  rcases h with rfl | ⟨e, sign, ds, letter, signed, digits, rfl⟩
  · exact fun _ hb => absurd hb List.not_mem_nil
  · refine List.forall_mem_cons.2 ⟨by rcases letter with rfl | rfl <;> decide, fun b hb => ?_⟩
    rcases List.mem_append.1 hb with hb | hb
    · rcases signed with rfl | rfl | rfl
      · exact absurd hb List.not_mem_nil
      · rw [List.mem_singleton.1 hb]
        decide
      · rw [List.mem_singleton.1 hb]
        decide
    · exact digits.ascii b hb

/-- A number has bytes of ASCII only. -/
theorem IsUnsigned.ascii {text : Bytes} (h : IsUnsigned text) : ∀ b ∈ text, b.toNat < 0x80 := by
  obtain ⟨whole, fraction, exponent, hw, hf, he, rfl⟩ := h
  intro b hb
  simp only [List.mem_append] at hb
  rcases hb with hb | hb | hb
  · exact hw.1.ascii b hb
  · exact hf.ascii b hb
  · exact he.ascii b hb

/-! ## Documents -/

/-- A JSON document as it is written, but for the spaces between its signs. -/
inductive Doc where
  | null
  | bool (b : Bool)
  | number (text : Bytes)
  | string (ps : List Piece)
  | array (items : List Doc)
  | object (members : List (List Piece × Doc))

namespace Doc

/-- Pieces between quotes. -/
def quoted (ps : List Piece) : List Char := '"' :: (ps.flatMap Piece.chars ++ ['"'])

theorem encode_quoted (ps : List Piece) (rest : Bytes) :
    encode (quoted ps) ++ rest = 0x22 :: (encode (ps.flatMap Piece.chars) ++ 0x22 :: rest) := by
  simp [quoted, encodeChar]

mutual

/-- A text is the document, without spaces around it. -/
def IsSpelled : Doc → Bytes → Prop
  | .null, text => text = Bytes.ofAscii "null"
  | .bool b, text => text = Bytes.ofAscii (if b then "true" else "false")
  | .number own, text => IsNumber own ∧ text = own
  | .string ps, text => (∀ p ∈ ps, p.IsValid) ∧ text = encode (quoted ps)
  | .array items, text => ∃ inner, AreSpelled true items inner ∧ text = 0x5B :: (inner ++ [0x5D])
  | .object members, text => ∃ inner, MembersAreSpelled true members inner ∧ text = 0x7B :: (inner ++ [0x7D])

/-- A text is the items of an array, up to the bracket that closes it. -/
def AreSpelled (first : Bool) : List Doc → Bytes → Prop
  | [], text => Blank text
  | d :: items, text => ∃ lead own rest, Leads first lead ∧ IsSpelled d own ∧ AreSpelled false items rest ∧
      text = lead ++ (own ++ rest)

/-- A text is the members of an object, up to the brace that closes it. -/
def MembersAreSpelled (first : Bool) : List (List Piece × Doc) → Bytes → Prop
  | [], text => Blank text
  | (ps, d) :: members, text => ∃ lead a b own rest, Leads first lead ∧ (∀ p ∈ ps, p.IsValid) ∧ Blank a ∧
      Blank b ∧ IsSpelled d own ∧ MembersAreSpelled false members rest ∧
      text = lead ++ (encode (quoted ps) ++ (a ++ 0x3A :: (b ++ (own ++ rest))))

end

/-- The text holds the document, with spaces around it or not. -/
def IsWritten (d : Doc) (text : List Char) : Prop :=
  ∃ before own after, Blank before ∧ Blank after ∧ d.IsSpelled own ∧ encode text = before ++ (own ++ after)

/-- The values of an object under a name. -/
def valuesOf (name : String) (members : List (List Piece × Doc)) : List Doc :=
  (members.filter fun m => Piece.text? m.1 = some name.toList).map Prod.snd

/-- The text of a string. -/
def text? : Doc → Option String
  | .string ps => (Piece.text? ps).map String.ofList
  | _ => none

/-- The truth value of a literal. -/
def bool? : Doc → Option Bool
  | .bool b => some b
  | _ => none

/-- How the text of a document begins. -/
def Begins : Doc → UInt8 → Prop
  | .null, b => b = 0x6E
  | .bool truth, b => b = if truth then 0x74 else 0x66
  | .number _, b => b = 0x2D ∨ Bytes.isDigit b = true
  | .string _, b => b = 0x22
  | .array _, b => b = 0x5B
  | .object _, b => b = 0x7B

theorem IsSpelled.exists_sign {d : Doc} {own : Bytes} (h : d.IsSpelled own) :
    ∃ b more, own = b :: more ∧ d.Begins b := by
  cases d with
  | null => exact ⟨_, _, h, rfl⟩
  | bool truth => cases truth <;> exact ⟨_, _, h, rfl⟩
  | number text =>
    obtain ⟨number, rfl⟩ := h
    rcases number with ⟨whole, fraction, exponent, ⟨⟨some, digits⟩, -⟩, -, -, rfl⟩ | ⟨rest, -, rfl⟩
    · obtain ⟨b, more, rfl⟩ := List.exists_cons_of_ne_nil some
      exact ⟨b, _, rfl, .inr (digits b (List.mem_cons_self ..))⟩
    · exact ⟨_, _, rfl, .inl rfl⟩
  | string ps => exact ⟨_, _, h.2, rfl⟩
  | array items =>
    obtain ⟨inner, -, rfl⟩ := h
    exact ⟨_, _, rfl, rfl⟩
  | object members =>
    obtain ⟨inner, -, rfl⟩ := h
    exact ⟨_, _, rfl, rfl⟩

/-- A digit is no other sign that a document may begin with. -/
theorem sign_of_isDigit {b : UInt8} (h : Bytes.isDigit b = true) :
    isSpace b = false ∧ b ≠ 0x5D ∧ b ≠ 0x5B ∧ b ≠ 0x7B ∧ b ≠ 0x22 ∧ b ≠ 0x2D ∧ b ≠ 0x74 ∧ b ≠ 0x66 := by
  have all : ∀ b, Bytes.isDigit b = true →
      isSpace b = false ∧ b ≠ 0x5D ∧ b ≠ 0x5B ∧ b ≠ 0x7B ∧ b ≠ 0x22 ∧ b ≠ 0x2D ∧ b ≠ 0x74 ∧ b ≠ 0x66 :=
    forall_byte (by decide +kernel)
  exact all b h

/-- No document begins with a space or with the end of an array. -/
theorem Begins.sign {d : Doc} {b : UInt8} (h : d.Begins b) : isSpace b = false ∧ b ≠ 0x5D := by
  cases d with
  | null => cases h; decide
  | bool truth => cases truth <;> cases h <;> decide
  | number text =>
    rcases h with rfl | digit
    · decide
    · obtain ⟨space, bracket, -⟩ := sign_of_isDigit digit
      exact ⟨space, bracket⟩
  | string ps => cases h; decide
  | array items => cases h; decide
  | object members => cases h; decide

end Doc

end CommitGate.Json
