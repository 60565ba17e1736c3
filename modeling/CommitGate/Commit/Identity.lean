import CommitGate.Bytes
import CommitGate.Text.Decimal
import CommitGate.Text.Utf8

/-! # Author and committer lines

A commit names two people, each with a moment and the time zone of the moment:
`Name <email> seconds ±HHMM`.

* `Identity.read` reads one such line as tolerantly as tools that meet old history have to.
* `Identity.write` writes it in its one canonical spelling.

Scope limit: names and addresses are bytes; nothing here asks for UTF-8.
-/

namespace CommitGate.Commit

/-- Why a commit has no written form. -/
inductive WriteError where
  /-- A name or an email address holds `<`, `>` or a line feed. -/
  | reservedCharacter
  /-- A time zone is 100 hours or more away from UTC. -/
  | zoneTooLarge
deriving DecidableEq, Repr

/-- The text of a writing error. -/
def WriteError.message : WriteError → String
  | .reservedCharacter => "Signature name or email must not contain '<', '>' or \\n"
  | .zoneTooLarge => "Cannot represent offsets larger than +-9900"

/-- A time zone: its sign, which also UTC has, and its distance from UTC in minutes. -/
structure Zone where
  negative : Bool
  minutes : Nat
deriving DecidableEq, Repr

/-- The seconds by which local time is ahead of UTC. -/
def Zone.offset (z : Zone) : Int :=
  if z.negative then -((z.minutes * 60 : Nat) : Int) else ((z.minutes * 60 : Nat) : Int)

/-- A person, a moment in seconds since 1970, and the time zone of the moment. -/
structure Identity where
  name : Bytes
  email : Bytes
  seconds : Int
  zone : Zone
deriving DecidableEq, Repr

/-! ## Reading

A reader takes bytes from the front and gives back the others. -/

/-- Take the bytes `expected` from the front. -/
def literal (expected : Bytes) (bs : Bytes) : Option Bytes :=
  if expected.isPrefixOf bs then some (bs.drop expected.length) else none

/-- The characters of a list of ASCII bytes. -/
def asciiChars (bs : Bytes) : List Char := bs.map fun b => Char.ofNat b.toNat

namespace Identity

/-- Name and email address, up to the last `>` of the line. The name ends before the first `<` and
loses one space there; the email address loses the blanks and further brackets around it. -/
def readPerson (bs : Bytes) : Option ((Bytes × Bytes) × Bytes) := do
  let line := bs.takeWhile (· != 0x0A)
  let afterLast := (line.reverse.takeWhile (· != 0x3E)).length
  guard (afterLast < line.length)
  let body := line.take (line.length - afterLast - 1)
  let name := body.takeWhile (· != 0x3C)
  let bracketed := body.drop name.length
  guard !bracketed.isEmpty
  let inner := bracketed.dropWhile fun b => Bytes.isAsciiBlank b || b == 0x3C
  let tail := (body.reverse.takeWhile fun b => Bytes.isAsciiBlank b || b == 0x3E).length
  guard (tail ≤ inner.length)
  let name := if name.getLast? = some 0x20 then name.dropLast else name
  some ((name, inner.take (inner.length - tail)), bs.drop (body.length + 1))

/-- A signed number of seconds, up to the next space and with it. -/
def readSeconds (bs : Bytes) : Option (Int × Bytes) := do
  let digits := bs.takeWhile (· != 0x20)
  guard (digits.length < bs.length)
  let n ← Decimal.int? (asciiChars digits)
  guard (-(Nat.pow 2 63 : Int) ≤ n && n < Nat.pow 2 63)
  some (n, bs.drop (digits.length + 1))

/-- One or more signs of a kind, two digits of hours, one or two of minutes, and with any further
digits the offset of UTC. -/
def readZone (bs : Bytes) : Option (Zone × Bytes) := do
  let sign ← bs.head?
  guard (sign == 0x2B || sign == 0x2D)
  let rest := bs.dropWhile (· == sign)
  let digits := rest.takeWhile Bytes.isDigit
  guard (3 ≤ digits.length)
  let value (ds : Bytes) := Decimal.ofDigits (asciiChars ds)
  let minutes :=
    if digits.length ≤ 4 then value (digits.take 2) * 60 + value (digits.drop 2) else 0
  some (⟨sign == 0x2D, minutes⟩, rest.drop digits.length)

/-- A person with a moment and a time zone. -/
def read (bs : Bytes) : Option (Identity × Bytes) := do
  let ((name, email), bs) ← readPerson bs
  let bs ← literal [0x20] bs
  let (seconds, bs) ← readSeconds bs
  let (zone, bs) ← readZone bs
  some (⟨name, email, seconds, zone⟩, bs)

/-! ## Writing -/

/-- Whether a name or an email address can be written. -/
def isPlain (bs : Bytes) : Bool := bs.all fun b => b != 0x3C && b != 0x3E && b != 0x0A

/-- A time zone as sign, hours and minutes. -/
def writeZone (z : Zone) : Except WriteError Bytes :=
  if z.minutes / 60 > 99 then .error .zoneTooLarge
  else
    .ok <| Utf8.encode <| (if z.negative then '-' else '+') ::
      (Decimal.padded 2 (z.minutes / 60) ++ Decimal.padded 2 (z.minutes % 60))

/-- The canonical spelling of an identity. -/
def write (i : Identity) : Except WriteError Bytes := do
  if !isPlain i.name || !isPlain i.email then throw .reservedCharacter
  let zone ← writeZone i.zone
  pure <| i.name ++ [0x20, 0x3C] ++ i.email ++ [0x3E, 0x20] ++ Utf8.encode (Decimal.ofInt i.seconds)
    ++ 0x20 :: zone

end Identity

end CommitGate.Commit
