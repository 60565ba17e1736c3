/-! # Dates of the proleptic Gregorian calendar

Days are counted from 1970-01-01, which is day 0.

* `Date.toDays` and `Date.ofDays` go from dates to days and back.
* `Date.IsReal` is the rule for the length of months and years.

Scope limit: no time of day and no time zone; see `CommitGate.Timestamp`.
-/

namespace CommitGate

/-- A year, a month from 1 to 12 and a day from 1. Year 0 is the one before year 1. -/
structure Date where
  year : Int
  month : Nat
  day : Nat
deriving DecidableEq, Repr

namespace Date

/-- Whether the year has a 29th of February. -/
def isLeap (year : Int) : Bool := year % 4 = 0 && (year % 100 ≠ 0 || year % 400 = 0)

/-- How many days a month has. -/
def monthLength (year : Int) (month : Nat) : Nat :=
  if month = 2 then if isLeap year then 29 else 28
  else if month = 4 || month = 6 || month = 9 || month = 11 then 30
  else 31

/-- Whether the calendar has the date. -/
def IsReal (d : Date) : Prop :=
  1 ≤ d.month ∧ d.month ≤ 12 ∧ 1 ≤ d.day ∧ d.day ≤ monthLength d.year d.month

instance (d : Date) : Decidable d.IsReal := inferInstanceAs (Decidable (_ ∧ _))

/-! ## Counting days

A year is taken to start in March, so that the leap day is its last. Four centuries have the same
146097 days always; the first of them starts 719468 days before day 0. -/

/-- The days before the first of a month, for the months from March (0) to February (11). -/
def daysBeforeMonth (month : Nat) : Nat := (153 * month + 2) / 5

/-- The day on which a date falls. -/
def toDays (d : Date) : Int :=
  let year := if d.month ≤ 2 then d.year - 1 else d.year
  let cycle := year / 400
  let yearOfCycle := year % 400
  let dayOfYear : Int := (daysBeforeMonth ((d.month + 9) % 12) + d.day : Nat) - 1
  cycle * 146097 + (yearOfCycle * 365 + yearOfCycle / 4 - yearOfCycle / 100 + dayOfYear) - 719468

/-- The date of a day. -/
def ofDays (days : Int) : Date :=
  let cycle := (days + 719468) / 146097
  let dayOfCycle := ((days + 719468) % 146097).toNat
  let yearOfCycle :=
    (dayOfCycle - dayOfCycle / 1460 + dayOfCycle / 36524 - dayOfCycle / 146096) / 365
  let dayOfYear := dayOfCycle - (365 * yearOfCycle + yearOfCycle / 4 - yearOfCycle / 100)
  let month := (5 * dayOfYear + 2) / 153
  { year := cycle * 400 + yearOfCycle + if month < 10 then 0 else 1
    month := if month < 10 then month + 3 else month - 9
    day := dayOfYear - daysBeforeMonth month + 1 }

end Date

end CommitGate
