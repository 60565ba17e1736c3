import CommitGate.Bytes

/-! # UTF-8

Characters to bytes and back. The decoder works in steps: a step reads one character, or names the
longest start of a character that stands where none continues it.

* `Utf8.decode` accepts well-formed sequences only and says where the first bad one stands.
* `Utf8.decodeLossy` puts U+FFFD in the place of each bad sequence.

Scope limit: overlong forms, surrogates and values beyond U+10FFFF are bad sequences; there is no
byte order mark here.
-/

namespace CommitGate.Utf8

/-- The UTF-8 form of one character. -/
def encodeChar (c : Char) : Bytes :=
  let n := c.toNat
  if n < 0x80 then [UInt8.ofNat n]
  else if n < 0x800 then [UInt8.ofNat (0xC0 + n / 64), UInt8.ofNat (0x80 + n % 64)]
  else if n < 0x10000 then
    [UInt8.ofNat (0xE0 + n / 4096), UInt8.ofNat (0x80 + n / 64 % 64), UInt8.ofNat (0x80 + n % 64)]
  else
    [UInt8.ofNat (0xF0 + n / 262144), UInt8.ofNat (0x80 + n / 4096 % 64),
      UInt8.ofNat (0x80 + n / 64 % 64), UInt8.ofNat (0x80 + n % 64)]

/-- The UTF-8 form of a text. -/
def encode (s : List Char) : Bytes := s.flatMap encodeChar

/-- The UTF-8 form of a string. -/
def ofString (s : String) : Bytes := encode s.toList

/-! ## Reading one character -/

/-- What stands at the front of a non-empty byte sequence. -/
inductive Step where
  /-- A well-formed character. -/
  | char (c : Char) (rest : Bytes)
  /-- `length` bytes that start a character which the next byte does not continue. -/
  | bad (length : Nat) (rest : Bytes)
  /-- The start of a character that the end of the bytes cuts off. -/
  | cut
deriving DecidableEq, Repr

/-- Whether `b` can continue a character. -/
def isContinuation (b : UInt8) : Bool := 0x80 ≤ b && b ≤ 0xBF

/-- Whether `b` can follow `first`, the first byte of a character of three bytes. -/
def secondOfThree (first b : UInt8) : Bool :=
  if first == 0xE0 then 0xA0 ≤ b && b ≤ 0xBF
  else if first == 0xED then 0x80 ≤ b && b ≤ 0x9F
  else isContinuation b

/-- Whether `b` can follow `first`, the first byte of a character of four bytes. -/
def secondOfFour (first b : UInt8) : Bool :=
  if first == 0xF0 then 0x90 ≤ b && b ≤ 0xBF
  else if first == 0xF4 then 0x80 ≤ b && b ≤ 0x8F
  else isContinuation b

/-- The six payload bits of a continuation byte. -/
def payload (b : UInt8) : Nat := b.toNat % 64

/-- The character of a first byte's payload bits and the continuation bytes after it. -/
def assemble (high : Nat) (tail : Bytes) : Char :=
  Char.ofNat (tail.foldl (fun n b => n * 64 + payload b) high)

/-- Read the character whose first byte is `first`. -/
def step (first : UInt8) (rest : Bytes) : Step :=
  if first < 0x80 then .char (Char.ofNat first.toNat) rest
  else if 0xC2 ≤ first && first ≤ 0xDF then
    match rest with
    | [] => .cut
    | b :: rest' =>
      if isContinuation b then .char (assemble (first.toNat % 32) [b]) rest' else .bad 1 rest
  else if 0xE0 ≤ first && first ≤ 0xEF then
    match rest with
    | [] => .cut
    | b :: rest' =>
      if secondOfThree first b then
        match rest' with
        | [] => .cut
        | c :: rest'' =>
          if isContinuation c then .char (assemble (first.toNat % 16) [b, c]) rest''
          else .bad 2 rest'
      else .bad 1 rest
  else if 0xF0 ≤ first && first ≤ 0xF4 then
    match rest with
    | [] => .cut
    | b :: rest' =>
      if secondOfFour first b then
        match rest' with
        | [] => .cut
        | c :: rest'' =>
          if isContinuation c then
            match rest'' with
            | [] => .cut
            | d :: rest''' =>
              if isContinuation d then .char (assemble (first.toNat % 8) [b, c, d]) rest'''
              else .bad 3 rest''
          else .bad 2 rest'
      else .bad 1 rest
  else .bad 1 rest

/-- What a step leaves to be read. -/
def Step.rest : Step → Bytes
  | .char _ rest | .bad _ rest => rest
  | .cut => []

/-- A step never gives back more than it was given after the first byte. -/
theorem length_rest_step_le (first : UInt8) (rest : Bytes) :
    (step first rest).rest.length ≤ rest.length := by
  unfold step
  repeat' split
  all_goals simp only [Step.rest, List.length_cons, List.length_nil]
  all_goals omega

/-! ## Reading a text -/

/-- Where decoding stopped: after `validUpTo` good bytes, at `badLength` bad ones, or at the start of
a character that the end cuts off. -/
structure Error where
  validUpTo : Nat
  badLength : Option Nat
deriving DecidableEq, Repr

/-- The text of a decoding error. -/
def Error.message (e : Error) : String :=
  match e.badLength with
  | some n => s!"invalid utf-8 sequence of {n} bytes from index {e.validUpTo}"
  | none => s!"incomplete utf-8 byte sequence from index {e.validUpTo}"

/-- Decode, with `good` the number of bytes read so far. -/
def decodeFrom (good : Nat) : Bytes → Except Error (List Char)
  | [] => .ok []
  | first :: rest =>
    match h : step first rest with
    | .char c rest' =>
      have : rest'.length ≤ rest.length := by simpa [h, Step.rest] using length_rest_step_le first rest
      (decodeFrom (good + (rest.length + 1 - rest'.length)) rest').map (c :: ·)
    | .bad n _ => .error ⟨good, some n⟩
    | .cut => .error ⟨good, none⟩
termination_by bs => bs.length

/-- The text that a well-formed byte sequence encodes. -/
def decode (bs : Bytes) : Except Error (List Char) := decodeFrom 0 bs

/-- The text of a byte sequence, with U+FFFD for each bad sequence. -/
def decodeLossy : Bytes → List Char
  | [] => []
  | first :: rest =>
    match h : step first rest with
    | .char c rest' =>
      have : rest'.length ≤ rest.length := by simpa [h, Step.rest] using length_rest_step_le first rest
      c :: decodeLossy rest'
    | .bad _ rest' =>
      have : rest'.length ≤ rest.length := by simpa [h, Step.rest] using length_rest_step_le first rest
      '\uFFFD' :: decodeLossy rest'
    | .cut => ['\uFFFD']
termination_by bs => bs.length

/-- `decodeLossy` as a string. -/
def toStringLossy (bs : Bytes) : String := String.ofList (decodeLossy bs)

end CommitGate.Utf8
