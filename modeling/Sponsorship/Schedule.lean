import Sponsorship.Fault
import Sponsorship.Keyed
import Sponsorship.Time.Instant

/-!
# Schedules

The dates of a campaign, one schedule for each kind of date.

* `Schedule`: a kind with a first and a last date.
* `Schedule.checkDates`: which dates a kind takes.
* `Schedule.checkSet`: which schedules a campaign has.
-/

namespace Sponsorship

open Time

/-- The dates of one kind. -/
structure Schedule where
  id : ScheduleId
  kind : ScheduleKind
  opens : Option Instant
  closes : Option Instant
  deriving DecidableEq, Repr

namespace Schedule

/-- Whether both dates are there and the last comes before the first. -/
def reversed (opens closes : Option Instant) : Bool :=
  match opens, closes with
  | some first, some last => last.before first
  | _, _ => false

/-- Whether a kind takes these dates: a payment only a last one, invitation and article posting
both, any other kind both or none. -/
def suits (kind : ScheduleKind) (opens closes : Option Instant) : Bool :=
  match kind with
  | .payment => opens.isNone && closes.isSome
  | .invitation | .articlePosting => opens.isSome && closes.isSome
  | _ => opens.isSome == closes.isSome

/-- The rules for the dates of a schedule. -/
def checkDates (kind : ScheduleKind) (opens closes : Option Instant) : Except Violation Unit := do
  demand (!reversed opens closes) (.datesReversed kind)
  demand (suits kind opens closes) (.datesUnsuited kind)

def create (id : ScheduleId) (kind : ScheduleKind) (opens closes : Option Instant) :
    Except Violation Schedule := do
  checkDates kind opens closes
  return { id, kind, opens, closes }

def setDates (s : Schedule) (opens closes : Option Instant) : Except Violation Schedule := do
  checkDates s.kind opens closes
  return { s with opens, closes }

/-- The rules for the schedules of a campaign: no kind twice, the obligatory kinds, and no more
schedules than there are kinds. -/
def checkSet (ss : List Schedule) : Except Violation Unit := do
  let kinds := ss.map kind
  match firstRepeat? [] kinds with
  | some kind => throw (.scheduleRepeated kind)
  | none => pure ()
  match ScheduleKind.obligatory.find? fun kind => !kinds.contains kind with
  | some kind => throw (.scheduleLacking kind)
  | none => pure ()
  demand (ScheduleKind.obligatory.length ≤ ss.length &&
    ss.length ≤ (words (α := ScheduleKind)).length) .scheduleCount

end Schedule

end Sponsorship
