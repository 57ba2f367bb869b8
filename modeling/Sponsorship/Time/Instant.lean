/-!
# Instants

A point in time with nanosecond precision, and the proleptic Gregorian calendar.

* `Instant`: whole seconds from 1970 and nanoseconds; a leap second is a second of its own, kept
  as nanoseconds past the full second.
* `Date`: a civil date; `Date.toDays` and `Date.ofDays` count days from 1970.
* `Instant.cutToMicroseconds`: the instant as a microsecond column keeps it.
* `Instant.floorToMicroseconds`: the instant that such a column gives back for a text.
-/

namespace Sponsorship.Time

structure Instant where
  seconds : Int
  nanos : Nat
  deriving DecidableEq, Repr, Inhabited

namespace Instant

/-- The order of instants, by seconds and then by nanoseconds. -/
def before (a b : Instant) : Bool :=
  a.seconds < b.seconds || (a.seconds = b.seconds && a.nanos < b.nanos)

/-- Not after. -/
def upTo (a b : Instant) : Bool := !b.before a

/-- Seconds from 1970 to 2000, where microsecond columns count from. -/
def columnEpoch : Int := 946684800

/-- The instant in whole microseconds, cut towards the epoch of the column. -/
def cutToMicroseconds (t : Instant) : Instant :=
  let nanos := (t.seconds - columnEpoch) * 1000000000 + t.nanos
  let micros := Int.tdiv nanos 1000
  { seconds := columnEpoch + Int.fdiv micros 1000000
    nanos := (Int.fmod micros 1000000).toNat * 1000 }

/-- The last whole microsecond up to an instant. -/
def floorToMicroseconds (t : Instant) : Instant :=
  { seconds := t.seconds + t.nanos / 1000000000
    nanos := t.nanos % 1000000000 / 1000 * 1000 }

end Instant

structure Date where
  year : Int
  month : Nat
  day : Nat
  deriving DecidableEq, Repr

namespace Date

def isLeapYear (year : Int) : Bool :=
  Int.fmod year 4 = 0 && (Int.fmod year 100 ≠ 0 || Int.fmod year 400 = 0)

/-- The number of days of a month, which counts from 1. -/
def daysInMonth (year : Int) (month : Nat) : Nat :=
  if month = 2 then (if isLeapYear year then 29 else 28)
  else if month = 4 ∨ month = 6 ∨ month = 9 ∨ month = 11 then 30
  else 31

def isValid (d : Date) : Bool :=
  1 ≤ d.month && d.month ≤ 12 && 1 ≤ d.day && d.day ≤ daysInMonth d.year d.month

/-- Days from 1 January 1970. Years are counted from March, in eras of 400 years. -/
def toDays (d : Date) : Int :=
  let year := if d.month ≤ 2 then d.year - 1 else d.year
  let era := Int.fdiv year 400
  let yearOfEra := year - era * 400
  let monthFromMarch : Int := (d.month + 9) % 12
  let dayOfYear := (153 * monthFromMarch + 2) / 5 + (d.day - 1)
  let dayOfEra := yearOfEra * 365 + yearOfEra / 4 - yearOfEra / 100 + dayOfYear
  era * 146097 + dayOfEra - 719468

/-- The date that lies `days` days after 1 January 1970. -/
def ofDays (days : Int) : Date :=
  let shifted := days + 719468
  let era := Int.fdiv shifted 146097
  let dayOfEra := shifted - era * 146097
  let yearOfEra := (dayOfEra - dayOfEra / 1460 + dayOfEra / 36524 - dayOfEra / 146096) / 365
  let dayOfYear := dayOfEra - (365 * yearOfEra + yearOfEra / 4 - yearOfEra / 100)
  let monthFromMarch := (5 * dayOfYear + 2) / 153
  let day := dayOfYear - (153 * monthFromMarch + 2) / 5 + 1
  let month := if monthFromMarch < 10 then monthFromMarch + 3 else monthFromMarch - 9
  let year := yearOfEra + era * 400
  { year := if month ≤ 2 then year + 1 else year, month := month.toNat, day := day.toNat }

end Date

end Sponsorship.Time
