import CommitGate.Calendar
import CommitGate.Text.Blank
import CommitGate.Text.Decimal

/-! # Timestamps

A moment together with the offset from UTC at which it was noted, and its RFC 3339 text.

* `Timestamp.text` writes the offset of UTC as `+00:00`, `Timestamp.zuluText` writes it as `Z`.
* `Timestamp.isWritable`: a moment is published only if its local time has one of these years too.
* `Timestamp.parse` reads both, and spellings with blanks or other separators between the parts.

Scope limit: years −262143 to 262142 in UTC. A leap second is the 60th second of any minute; it is
kept as a fraction of 10⁹ nanoseconds or more in the second before it.
-/

namespace CommitGate

/-- A moment: seconds since 1970-01-01T00:00:00 UTC, nanoseconds after that second, and the seconds
by which local time is ahead of UTC. -/
structure Timestamp where
  seconds : Int
  nanos : Nat
  offset : Int
deriving DecidableEq, Repr

namespace Timestamp

/-- The seconds of a day. -/
def secondsPerDay : Int := 86400

/-- The first and the last second that have a timestamp. -/
def firstSecond : Int := (Date.toDays ⟨-262143, 1, 1⟩) * secondsPerDay

@[inherit_doc firstSecond]
def lastSecond : Int := (Date.toDays ⟨262143, 1, 1⟩) * secondsPerDay - 1

/-- Whether there is a timestamp for the second. -/
def inRange (seconds : Int) : Bool := firstSecond ≤ seconds && seconds ≤ lastSecond

/-- Whether local time may be ahead of UTC by `offset` seconds: less than a day. -/
def isOffset (offset : Int) : Bool := -secondsPerDay < offset && offset < secondsPerDay

/-! ## Writing -/

/-- Four digits for the years 0 to 9999, else a sign and at least four digits. -/
def yearText (year : Int) : List Char :=
  if 0 ≤ year && year ≤ 9999 then Decimal.padded 4 year.toNat
  else (if year < 0 then '-' else '+') :: Decimal.padded 4 year.natAbs

/-- A fraction of a second in 3, 6 or 9 digits, as few as it needs, and none at all for zero. -/
def fractionText (nanos : Nat) : List Char :=
  if nanos = 0 then []
  else if nanos % 1000000 = 0 then '.' :: Decimal.padded 3 (nanos / 1000000)
  else if nanos % 1000 = 0 then '.' :: Decimal.padded 6 (nanos / 1000)
  else '.' :: Decimal.padded 9 nanos

/-- An offset as sign, hours and minutes, to the nearest minute. -/
def offsetText (offset : Int) : List Char :=
  let minutes := (offset.natAbs + 30) / 60
  (if offset < 0 then '-' else '+') ::
    (Decimal.padded 2 (minutes / 60) ++ ':' :: Decimal.padded 2 (minutes % 60))

/-- The local date and time of day, up to the fraction of the second. -/
def localText (t : Timestamp) : List Char :=
  let here := t.seconds + t.offset
  let date := Date.ofDays (here / secondsPerDay)
  let second := (here % secondsPerDay).toNat
  let leap := t.nanos / 1000000000
  yearText date.year ++ '-' :: Decimal.padded 2 date.month ++ '-' :: Decimal.padded 2 date.day
    ++ 'T' :: Decimal.padded 2 (second / 3600) ++ ':' :: Decimal.padded 2 (second / 60 % 60)
    ++ ':' :: Decimal.padded 2 (second % 60 + leap) ++ fractionText (t.nanos % 1000000000)

/-- The RFC 3339 text, with `+00:00` for UTC. -/
def text (t : Timestamp) : String := String.ofList (t.localText ++ offsetText t.offset)

/-- The RFC 3339 text, with `Z` for UTC. -/
def zuluText (t : Timestamp) : String :=
  String.ofList (t.localText ++ if t.offset = 0 then ['Z'] else offsetText t.offset)

/-- Whether the moment can be published: its local time is a second that has a timestamp. The calendar has dates
beyond these, but they are not written. -/
def isWritable (t : Timestamp) : Bool := inRange (t.seconds + t.offset)

/-! ## Reading -/

/-- Why a text is not a timestamp. -/
inductive ReadError where
  | tooShort
  | tooLong
  | invalid
  | outOfRange
  | impossible
deriving DecidableEq, Repr

/-- The text of a reading error. -/
def ReadError.message : ReadError → String
  | .tooShort => "premature end of input"
  | .tooLong => "trailing input"
  | .invalid => "input contains invalid characters"
  | .outOfRange => "input is out of range"
  | .impossible => "no possible date and time matching input"

/-- A reader of the front of a text. -/
abbrev Reader (α : Type) := List Char → Except ReadError (α × List Char)

/-- The number of 1 to `width` digits at the front of a text. -/
def number (width : Nat) : Reader Nat := fun s =>
  let ds := (s.take width).takeWhile Decimal.isDigit
  if s.isEmpty then .error .tooShort
  else if ds.isEmpty then .error .invalid
  else if Decimal.ofDigits ds ≥ Nat.pow 2 63 then .error .outOfRange
  else .ok (Decimal.ofDigits ds, s.drop ds.length)

/-- A number within bounds, after blanks. -/
def field (low high : Nat) : Reader Nat := fun s => do
  let (n, rest) ← number 2 (Blank.trimStart s)
  if low ≤ n && n ≤ high then .ok (n, rest) else .error .outOfRange

/-- The year: up to four digits, or any number of them after a sign. -/
def year : Reader Int := fun s => do
  let (n, rest) ← match Blank.trimStart s with
    | '-' :: s' => (number s'.length s').map fun (n, rest) => (-(n : Int), rest)
    | '+' :: s' => (number s'.length s').map fun (n, rest) => ((n : Int), rest)
    | s' => (number 4 s').map fun (n, rest) => ((n : Int), rest)
  if -(Nat.pow 2 31 : Int) ≤ n && n < Nat.pow 2 31 then .ok (n, rest) else .error .outOfRange

/-- A separator, after blanks. -/
def separator (c : Char) (s : List Char) : Except ReadError (List Char) :=
  match Blank.trimStart s with
  | [] => .error .tooShort
  | d :: rest => if d = c then .ok rest else .error .invalid

/-- A fraction of a second in nanoseconds; digits after the ninth count for nothing. -/
def fraction : Reader Nat
  | '.' :: s => do
    let (n, rest) ← number 9 s
    .ok (n * Nat.pow 10 (9 - (s.length - rest.length)), rest.dropWhile Decimal.isDigit)
  | s => .ok (0, s)

/-- Two digits, the first of which lies below `limit`. -/
def twoDigits (limit : Nat) : Reader Nat
  | a :: b :: rest =>
    if Decimal.isDigit a && Decimal.isDigit b then
      if Decimal.digitValue a < limit then .ok (Decimal.ofDigits [a, b], rest)
      else .error .outOfRange
    else .error .invalid
  | _ => .error .tooShort

/-- Text whose UTF-8 form is shorter than two bytes cannot hold two digits. -/
def offsetDigits (limit : Nat) : Reader Nat
  | [c] => if c.toNat < 0x80 then .error .tooShort else .error .invalid
  | s => twoDigits limit s

/-- The offset from UTC in seconds: `Z`, `UTC`, or a sign with hours and minutes. -/
def zone : Reader Int := fun s =>
  match s with
  | 'Z' :: rest | 'z' :: rest => .ok (0, rest)
  | u :: t :: c :: rest' =>
    if [u, t, c].map Char.toLower = ['u', 't', 'c'] then .ok (0, rest') else signed s
  | _ => signed s
where
  /-- A sign with hours and minutes. -/
  signed : Reader Int
    | [] => .error .tooShort
    | sign :: s => do
      let negative ←
        if sign = '+' then .ok false
        else if sign = '-' || sign = '\u2212' then .ok true
        else .error .invalid
      let (hours, rest) ← offsetDigits 10 s
      let (minutes, rest) ← offsetDigits 6
        (rest.dropWhile fun c => c = ':' || Blank.isBlank c)
      let offset : Int := (hours * 3600 + minutes * 60 : Nat)
      .ok (if negative then -offset else offset, rest)

/-- The timestamp that a text denotes. -/
def parse (s : List Char) : Except ReadError Timestamp := do
  let (year, s) ← year s
  let s ← separator '-' s
  let (month, s) ← field 1 12 s
  let s ← separator '-' s
  let (day, s) ← field 1 31 s
  let s ← match s with
    | [] => .error .tooShort
    | c :: rest => if c = 't' || c = 'T' || c = ' ' then .ok rest else .error .invalid
  let (hour, s) ← field 0 23 s
  let s ← separator ':' s
  let (minute, s) ← field 0 59 s
  let s ← separator ':' s
  let (second, s) ← field 0 60 s
  let (nanos, s) ← fraction s
  let (offset, s) ← zone (Blank.trimStart s)
  if !(Blank.trimStart s).isEmpty then .error .tooLong
  else
    let date : Date := ⟨year, month, day⟩
    if year < -262143 || 262142 < year || !decide date.IsReal || !isOffset offset then
      .error .outOfRange
    else
      let leap := second / 60
      let seconds := date.toDays * secondsPerDay + (hour * 3600 + minute * 60 + second - leap : Nat)
        - offset
      if inRange seconds then .ok ⟨seconds, nanos + leap * 1000000000, offset⟩
      else .error .impossible

end Timestamp

end CommitGate
