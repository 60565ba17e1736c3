import CommitGate.OpenPgp.ReadFault
import CommitGate.Text.Blank
import CommitGate.Text.Utf8

/-! # ASCII armor

Binary data in Base64 between a header line and a footer line. Reading is tolerant: text before the
header and after the footer, quotation marks in front of each line, key–value lines, a checksum that is
missing or wrong, and dashes of any number and kind are all accepted.

* `Armor.find?` looks for a header line.
* `Armor.read` reads the data behind it. A fault belongs to the end of the data that come before it.

Scope limit: cleartext-signed messages are skipped like other text, and checksums are not compared.
-/

namespace CommitGate.OpenPgp.Armor

/-- What an armor says that it holds. -/
inductive Kind where
  | message
  | publicKey
  | privateKey
  | signature
  | file
deriving DecidableEq, Repr

namespace Kind

/-- All kinds. -/
def all : List Kind := [.message, .publicKey, .privateKey, .signature, .file]

/-- The words in the header and footer lines. -/
def label : Kind → Bytes
  | .message => Bytes.ofAscii "MESSAGE"
  | .publicKey => Bytes.ofAscii "PUBLIC KEY BLOCK"
  | .privateKey => Bytes.ofAscii "PRIVATE KEY BLOCK"
  | .signature => Bytes.ofAscii "SIGNATURE"
  | .file => Bytes.ofAscii "ARMORED FILE"

end Kind

/-! ## Header and footer lines -/

/-- Whether `c` is a dash. -/
def isDash (c : Char) : Bool :=
  c ∈ ['-', '\u058A', '\u05BE', '\u1400', '\u1806', '\u2010', '\u2011', '\u2012', '\u2013', '\u2014',
    '\u2015', '\u2E17', '\u2E1A', '\u2E3A', '\u2E3B', '\u2E40', '\u301C', '\u3030', '\u30A0', '\uFE31',
    '\uFE32', '\uFE58', '\uFE63', '\uFF0D']

/-- The bytes without the dashes at their front. -/
def dropDashes : Bytes → Bytes
  | [] => []
  | first :: rest =>
    match h : Utf8.step first rest with
    | .char c rest' =>
      have : rest'.length ≤ rest.length := by
        simpa [h, Utf8.Step.rest] using Utf8.length_rest_step_le first rest
      if isDash c then dropDashes rest' else first :: rest
    | _ => first :: rest
termination_by bs => bs.length

/-- What follows `start` at the front of `bs`. -/
def after? (start bs : Bytes) : Option Bytes :=
  if start.isPrefixOf bs then some (bs.drop start.length) else none

/-- What follows a header line of some kind. -/
def header? (bs : Bytes) : Option (Kind × Bytes) := do
  let rest ← after? (Bytes.ofAscii "BEGIN PGP ") (dropDashes bs)
  Kind.all.findSome? fun kind => (after? kind.label rest).map fun r => (kind, dropDashes r)

/-- What follows the footer line of a kind. -/
def footer? (kind : Kind) (bs : Bytes) : Option Bytes := do
  let rest ← after? (Bytes.ofAscii "END PGP ") (dropDashes bs)
  (after? kind.label rest).map dropDashes

/-! ## The search for a header -/

/-- The line feed. -/
def newline : UInt8 := 0x0A

/-- Whether `b` may stand in front of a header: a blank or a quotation mark. -/
def isLeading (b : UInt8) : Bool :=
  b ∈ [0x20, 0x09, 0x0D, 0x3E, 0x7C, 0x5D, 0x7D]

/-- Skip blanks, line ends and quotation marks. The first part is what was skipped on the last line. -/
def skipLeading (quote : Bytes) : Bytes → Bytes × Bytes
  | [] => (quote, [])
  | b :: rest =>
    if b == newline then skipLeading [] rest
    else if isLeading b then skipLeading (quote ++ [b]) rest
    else (quote, b :: rest)

/-- Skipping never adds. -/
theorem length_skipLeading_le (quote bs : Bytes) :
    (skipLeading quote bs).2.length ≤ bs.length := by
  induction bs generalizing quote with
  | nil => simp [skipLeading]
  | cons b rest ih =>
    unfold skipLeading
    split
    · exact Nat.le_succ_of_le (ih _)
    · split
      · exact Nat.le_succ_of_le (ih _)
      · simp

/-- What follows the first line. -/
def dropLine (bs : Bytes) : Bytes := (bs.dropWhile (· != newline)).drop 1

/-- A line takes at least one byte off. -/
theorem length_dropLine_lt (b : UInt8) (bs : Bytes) : (dropLine (b :: bs)).length < bs.length + 1 := by
  have h := (List.dropWhile_sublist (fun c => c != newline) (l := b :: bs)).length_le
  simp only [dropLine, List.length_drop, List.length_cons] at h ⊢
  omega

/-- A header line: the quotation mark in front of it, its kind and what follows it. -/
structure Opening where
  quote : Bytes
  kind : Kind
  rest : Bytes
deriving DecidableEq, Repr

/-- The first header line, of the wanted kind if there is one. -/
def find? (wanted : Option Kind) (bs : Bytes) : Option Opening :=
  match h : skipLeading [] bs with
  | (_, []) => none
  | (quote, b :: rest) =>
    let opening := if b == 0x2D then header? (b :: rest) else none
    match opening.filter fun o => wanted.all (· == o.1) with
    | some (kind, after) => some ⟨quote, kind, after⟩
    | none =>
      have : (b :: rest).length ≤ bs.length := by
        simpa [h] using length_skipLeading_le [] bs
      find? wanted (dropLine (b :: rest))
termination_by bs.length
decreasing_by
  have := length_dropLine_lt b rest
  simp only [List.length_cons] at *
  omega

/-! ## Key–value lines -/

/-- Drop blanks up to the end of the line. -/
def dropBlanks : Bytes → Bytes
  | [] => []
  | b :: rest =>
    if b == newline then rest else if Bytes.isAsciiBlank b then dropBlanks rest else b :: rest

/-- The first line, without its end, and what follows it. -/
def splitLine (bs : Bytes) : Bytes × Bytes :=
  let line := bs.takeWhile (· != newline)
  (if line.getLast? = some 0x0D then line.dropLast else line, dropLine bs)

/-- Whether a line holds `: `. -/
def hasColon : Bytes → Bool
  | a :: b :: rest => (a == 0x3A && b == 0x20) || hasColon (b :: rest)
  | _ => false

/-- What a line before the data is. -/
inductive Line where
  | keyValue
  | blank
  | other
  /-- The line is not UTF-8. -/
  | unreadable
deriving DecidableEq, Repr

/-- The sort of a line. -/
def Line.of (line : Bytes) : Line :=
  match Utf8.decode line with
  | .error _ => .unreadable
  | .ok text =>
    if hasColon line then .keyValue else if Blank.isAllBlank text then .blank else .other

/-- The length of the quotation mark that `bs` starts with: all of `quote`, or a part of it from which
only blanks are missing. -/
def quoteLength (quote bs : Bytes) : Except ReadFault Nat :=
  if bs.length < quote.length then .error .endOfInput
  else
    let shared := ((quote.zip bs).takeWhile fun p => p.1 == p.2).length
    if (quote.drop shared).all Bytes.isAsciiBlank then .ok shared else .error .quoting

/-- The data after the key–value lines, and the length of the quotation mark still in front of them.
`skip` is the length of the mark in front of `bs`. A first line that is neither a pair nor blank
belongs to the data already. -/
def dropPairs (quote : Bytes) (first : Bool) : Nat → (fuel : Nat) → Bytes →
    Except ReadFault (Bytes × Nat)
  | _, 0, bs => .ok (bs, 0)
  | skip, fuel + 1, bs => do
    let (line, rest) := splitLine (bs.drop skip)
    match Line.of line with
    | .unreadable => dropPairs quote false quote.length fuel rest
    | .blank => pure (rest, quote.length)
    | .keyValue => dropPairs quote false (← quoteLength quote rest) fuel rest
    | .other =>
      if first then pure (bs.drop skip, 0)
      else dropPairs quote false (← quoteLength quote rest) fuel rest

/-! ## The data -/

/-- Groups of four symbols, what follows them, and how much of a quotation mark is still to come. -/
structure Groups where
  symbols : Bytes
  rest : Bytes
  skip : Nat
deriving DecidableEq, Repr

/-- Collect full groups of symbols up to the first padded one. Blanks do not count, and after a line
end `width` bytes are skipped. `mark` is what follows the last full group. -/
def groups (width : Nat) : (skip : Nat) → (group : Bytes) → (padding : Nat) → (full : Bytes) →
    (mark : Bytes) → Bytes → Groups
  | skip, _, _, full, mark, [] => ⟨full.reverse, mark, skip⟩
  | skip, group, padding, full, mark, b :: rest =>
    let stop : Groups := ⟨full.reverse, mark, skip⟩
    let mark' := if full.isEmpty && group.isEmpty then rest else mark
    let push (padding : Nat) :=
      if group.length = 3 then groups width 0 [] padding (b :: group ++ full) rest rest
      else groups width 0 (b :: group) padding full mark rest
    if padding > 0 && group.isEmpty then stop
    else if skip > 0 then groups width (skip - 1) group padding full mark' rest
    else if Bytes.isAsciiBlank b then
      groups width (if b == newline then width else 0) group padding full mark' rest
    else if b == Base64.pad then
      if padding = 2 || group.isEmpty then stop else push (padding + 1)
    else if padding > 0 then stop
    else if Base64.isSymbol b then push 0
    else stop

/-- Drop blanks, and after each line end the quotation mark. -/
def dropQuoted (width : Nat) : (skip : Nat) → Bytes → Bytes
  | _, [] => []
  | 0, b :: rest =>
    if b == newline then dropQuoted width width rest
    else if Bytes.isAsciiBlank b then dropQuoted width 0 rest
    else b :: rest
  | skip + 1, _ :: rest => dropQuoted width skip rest

/-- Drop a checksum. -/
def dropChecksum (bs : Bytes) : Bytes :=
  match bs with
  | b :: rest =>
    if b == Base64.pad && (rest.take 4).length = 4 && (rest.take 4).all Base64.isSymbol
    then rest.drop 4 else bs
  | [] => []

/-- What follows the checksum and the footer. -/
def close (kind : Kind) (width skip : Nat) (bs : Bytes) : Except ReadFault Bytes :=
  match footer? kind (dropQuoted width 0 (dropChecksum (dropQuoted width skip bs))) with
  | some rest => .ok rest
  | none => .error .armorEnd

/-! ## Reading -/

/-- What an armor holds: the data, the fault that ends them, if any, and what follows the footer. -/
structure Contents where
  data : Bytes
  fault : Option ReadFault
  rest : Bytes
deriving DecidableEq, Repr

/-- Read runs of groups until one is empty, then the footer. -/
def body (kind : Kind) (width : Nat) : (skip fuel : Nat) → Bytes → Contents
  | skip, fuel, bs =>
    let g := groups width skip [] 0 [] bs bs
    if g.symbols.isEmpty then
      match close kind width g.skip g.rest with
      | .ok rest => ⟨[], none, rest⟩
      | .error fault => ⟨[], some fault, []⟩
    else
      match Base64.decode g.symbols, fuel with
      | .error e, _ => ⟨[], some (.base64 e), []⟩
      | .ok data, 0 => ⟨data, some .armorEnd, []⟩
      | .ok data, fuel + 1 =>
        let tail := body kind width g.skip fuel g.rest
        { tail with data := data ++ tail.data }

/-- The quotation mark in front of each line: what stands in front of the header, or nothing if that
is blank and the next line, with which `start` begins, lacks it. -/
def Opening.mark (o : Opening) (start : Bytes) : Except ReadFault Bytes :=
  if start.length < o.quote.length then .error .endOfInput
  else if o.quote.isPrefixOf start then .ok o.quote
  else if o.quote.all Bytes.isAsciiBlank then .ok []
  else .error .quoting

/-- The data behind a header line. -/
def Opening.contents (o : Opening) : Contents :=
  let start := dropBlanks o.rest
  let found : Except ReadFault Contents := do
    let quote ← o.mark start
    let (data, skip) ← dropPairs quote true quote.length (start.length + 1) start
    pure (body o.kind quote.length skip data.length data)
  match found with
  | .ok contents => contents
  | .error fault => ⟨[], some fault, []⟩

/-- The data of the first armor, of the wanted kind if there is one. Without an armor the input ends
where a header is needed. -/
def read (wanted : Option Kind) (bs : Bytes) : Contents :=
  match find? wanted bs with
  | some opening => opening.contents
  | none => ⟨[], some .endOfInput, []⟩

end CommitGate.OpenPgp.Armor
