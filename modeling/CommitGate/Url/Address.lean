import CommitGate.Text.Decimal
import CommitGate.Text.Hex
import CommitGate.Text.Split

/-! # Internet addresses

Addresses of 32 and of 128 bits, in the notations that a URL may hold them in.

* `Ipv4.read?` reads one to four numbers in decimal, octal or hexadecimal notation; `Ipv4.text` writes
  four decimal ones.
* `Ipv6.read?` reads eight groups of hexadecimal digits, of which `::` stands for the missing ones;
  `Ipv6.text` shortens the longest run of zeros.
-/

namespace CommitGate

/-! ## Thirty-two bits -/

namespace Ipv4

/-- The number that digits of a base denote. -/
def digits? (base : Nat) (s : List Char) : Option Nat :=
  s.foldlM (fun n c => (Hex.value? c).bind fun d => if d < base then some (n * base + d) else none) 0

/-- The number that a part denotes: hexadecimal after `0x`, octal after `0`, otherwise decimal. -/
def number? : List Char → Option Nat
  | [] => none
  | '0' :: 'x' :: rest | '0' :: 'X' :: rest => digits? 16 rest
  | '0' :: c :: rest => digits? 8 (c :: rest)
  | s => digits? 10 s

/-- Whether a host is taken for an address: its last part that is not empty is a number. -/
def looksLike (host : List Char) : Bool :=
  let backwards := (Split.on '.' host).reverse
  let last := match backwards with
    | [] :: last :: _ => last
    | last :: _ => last
    | [] => []
  (!last.isEmpty && last.all Char.isDigit) || (number? last).isSome

/-- The address that numbers denote: all but the last are bytes, and the last fills what is left. -/
def ofNumbers? (numbers : List Nat) : Option Nat :=
  match numbers.reverse with
  | [] => none
  | last :: bytesBackwards =>
    let bytes := bytesBackwards.reverse
    if bytes.length ≤ 3 ∧ last < Nat.pow 256 (4 - bytes.length) ∧ bytes.all (· < 256) then
      some (bytes.foldl (fun n b => n * 256 + b) 0 * Nat.pow 256 (4 - bytes.length) + last)
    else none

/-- The address that a host denotes. A dot at the end does not count. -/
def read? (host : List Char) : Option Nat := do
  let parts := Split.on '.' host
  let parts := if parts.getLast? = some [] then parts.dropLast else parts
  ofNumbers? (← parts.mapM number?)

/-- The four bytes of an address. -/
def bytes (address : Nat) : List Nat :=
  [address / Nat.pow 256 3 % 256, address / Nat.pow 256 2 % 256, address / 256 % 256, address % 256]

/-- An address in decimal notation. -/
def text (address : Nat) : List Char := List.intercalate ['.'] ((bytes address).map Decimal.digits)

end Ipv4

/-! ## One hundred and twenty-eight bits -/

namespace Ipv6

/-- The value of one to four hexadecimal digits. -/
def group? (s : List Char) : Option Nat :=
  if s.isEmpty || s.length > 4 then none else Ipv4.digits? 16 s

/-- A byte in decimal notation without leading zeros. -/
def byte? (s : List Char) : Option Nat :=
  match s with
  | [] => none
  | '0' :: _ :: _ => none
  | s => (Ipv4.digits? 10 s).filter (· < 256)

/-- The two groups that four decimal bytes denote. -/
def tail? (s : List Char) : Option (List Nat) :=
  match (Split.on '.' s).map byte? with
  | [some a, some b, some c, some d] => some [a * 256 + b, c * 256 + d]
  | _ => none

/-- The groups that some parts denote. The last part may be four decimal bytes if `endsWithBytes` is
set. -/
def parts? (endsWithBytes : Bool) : List (List Char) → Option (List Nat)
  | [] => some []
  | [part] => if endsWithBytes && part.contains '.' then tail? part else (group? part).map ([·])
  | part :: rest => do
    let group ← group? part
    let groups ← parts? endsWithBytes rest
    pure (group :: groups)

/-- The groups of a text in which they are separated by colons. -/
def groups? (endsWithBytes : Bool) (s : List Char) : Option (List Nat) :=
  if s.isEmpty then some [] else parts? endsWithBytes (Split.on ':' s)

/-- The parts before and after the first `::`. -/
def splitGap : List Char → Option (List Char × List Char)
  | ':' :: ':' :: rest => some ([], rest)
  | c :: rest => (splitGap rest).map fun (before, after) => (c :: before, after)
  | [] => none

/-- The eight groups of an address. A gap stands for at least one group. -/
def read? (s : List Char) : Option (List Nat) :=
  match splitGap s with
  | none => (groups? true s).filter fun gs => gs.length = 8
  | some (before, after) => do
    let front ← groups? false before
    let back ← groups? true after
    let missing := 8 - (front.length + back.length)
    if missing = 0 then none else some (front ++ List.replicate missing 0 ++ back)

/-- The length of the run of zeros at the front. -/
def zeros (groups : List Nat) : Nat := (groups.takeWhile (· == 0)).length

/-- Where the longest run of zeros begins and how long it is; the first one of several. A single zero
is no run. -/
def longestGap (groups : List Nat) : Option (Nat × Nat) :=
  let runs := (List.range groups.length).map fun i => (i, zeros (groups.drop i))
  let best := runs.foldl (fun best r => if best.2 < r.2 then r else best) (0, 0)
  if best.2 < 2 then none else some best

/-- Groups in lower-case digits, separated by colons. -/
def join (groups : List Nat) : List Char := List.intercalate [':'] (groups.map Hex.ofNat)

/-- An address in its shortest notation. -/
def text (groups : List Nat) : List Char :=
  match longestGap groups with
  | none => join groups
  | some (start, length) =>
    join (groups.take start) ++ [':', ':'] ++ join (groups.drop (start + length))

end Ipv6

end CommitGate
