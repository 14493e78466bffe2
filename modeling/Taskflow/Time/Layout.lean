import Taskflow.Time.Iso
/-!
The clock faces the task tools print: a compact stamp for identifiers, a UTC line, and a
twelve-hour reading. Years are written without padding, as the C library's `%Y` does.
-/

namespace Taskflow.Time

/-- Offset of Philippine time from UTC, in microseconds: eight hours. -/
def manilaOffset : Int := 8 * 3600000000

namespace Civil

def compact (c : Civil) : String :=
  s!"{c.year}{pad 2 c.month}{pad 2 c.day}T{pad 2 c.hour}{pad 2 c.minute}{pad 2 c.second}"

def dateOnly (c : Civil) : String := s!"{c.year}-{pad 2 c.month}-{pad 2 c.day}"

def spaced (c : Civil) : String :=
  s!"{c.year}-{pad 2 c.month}-{pad 2 c.day} {pad 2 c.hour}:{pad 2 c.minute}:{pad 2 c.second}"

/-- The reading on a twelve-hour face: hour 0 shows as 12, and `AM` or `PM` follows. -/
def twelveHour (c : Civil) : String :=
  let h := if c.hour % 12 == 0 then 12 else c.hour % 12
  let half := if c.hour < 12 then "AM" else "PM"
  s!"{c.year}-{pad 2 c.month}-{pad 2 c.day} {pad 2 h}:{pad 2 c.minute}:{pad 2 c.second} {half}"

end Civil

def manila (utc : Civil) : Stamp := { civil := utc.shift manilaOffset, offset := some manilaOffset }

/-- Why a reading has no Philippine time. -/
inductive ViewError where
  /-- A reading without an offset on 0001-01-01: its offset from UTC is found by also looking
  at the day before, which lies before year 1. -/
  | beforeYearOne
  /-- The reading in UTC, or in Philippine time, falls outside years 1 to 9999. -/
  | outOfRange
  deriving DecidableEq, Repr

/-- The message of a failed view. -/
def ViewError.message : ViewError → String
  | .beforeYearOne => "year 0 is out of range"
  | .outOfRange => "date value out of range"

/-- A reading as Philippine time, on the twelve-hour face and in ISO form; a reading without an
offset is taken as UTC. The reading is moved to UTC and then to Philippine time, and each of
the two must stay within the calendar. -/
def manilaViews (t : Stamp) : Except ViewError (String × String) := do
  if t.offset.isNone && t.civil.year == 1 && t.civil.month == 1 && t.civil.day == 1 then
    throw .beforeYearOne
  let u := t.civil.micros - t.offset.getD 0
  if !Civil.inCalendar u then throw .outOfRange
  let m := u + manilaOffset
  if !Civil.inCalendar m then throw .outOfRange
  let shown : Stamp := { civil := Civil.ofMicros m, offset := some manilaOffset }
  return (shown.civil.twelveHour, shown.iso)

end Taskflow.Time
