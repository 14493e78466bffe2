/-!
Dates and times of day on the proleptic Gregorian calendar.
-/

namespace Taskflow.Time

/-- A year is a leap year when 4 divides it, except centuries that 400 does not divide. -/
def isLeap (y : Nat) : Bool := y % 4 == 0 && (y % 100 != 0 || y % 400 == 0)

/-- Days in month `m` of year `y`. -/
def monthDays (y m : Nat) : Nat :=
  match m with
  | 2 => if isLeap y then 29 else 28
  | 4 | 6 | 9 | 11 => 30
  | _ => 31

/-- Days of the years before year `y`, from year 1. -/
def daysBeforeYear (y : Nat) : Nat :=
  let p := y - 1
  p * 365 + p / 4 - p / 100 + p / 400

def daysBeforeMonth (y m : Nat) : Nat :=
  (List.range (m - 1)).foldl (fun acc i => acc + monthDays y (i + 1)) 0

def ordinal (y m d : Nat) : Nat := daysBeforeYear y + daysBeforeMonth y m + d

def weekday (n : Int) : Nat := ((n + 6) % 7).toNat

/-- The month of day `n` (counted from 0) of a year, and the day within that month. -/
def monthOf (y : Nat) : Nat → Nat → Nat × Nat
  | 0, n => (12, n + 1)
  | k + 1, n =>
    let m := 12 - k
    let len := monthDays y m
    if n < len then (m, n + 1) else monthOf y k (n - len)

/-- The date of day number `n` (at least 1). -/
def ofOrdinal (n : Nat) : Nat × Nat × Nat :=
  let n := n - 1
  let n400 := n / 146097
  let r := n % 146097
  let n100 := r / 36524
  let r := r % 36524
  let n4 := r / 1461
  let r := r % 1461
  let n1 := r / 365
  let r := r % 365
  let y := n400 * 400 + 1 + n100 * 100 + n4 * 4 + n1
  if n1 == 4 || n100 == 4 then (y - 1, 12, 31)
  else
    let (m, d) := monthOf y 12 r
    (y, m, d)

/-- A wall-clock reading: a date and a time of day to the microsecond. -/
structure Civil where
  year : Nat
  month : Nat
  day : Nat
  hour : Nat := 0
  minute : Nat := 0
  second : Nat := 0
  micro : Nat := 0
  deriving DecidableEq, Repr

def dayMicros : Int := 86400000000

namespace Civil

/-- Microseconds from 0001-01-01 00:00 to the reading. -/
def micros (c : Civil) : Int :=
  ((ordinal c.year c.month c.day : Int) - 1) * dayMicros +
    (((c.hour * 60 + c.minute) * 60 + c.second) * 1000000 + c.micro : Nat)

/-- The reading that lies `t` microseconds after 0001-01-01 00:00. -/
def ofMicros (t : Int) : Civil :=
  let days := t / dayMicros
  let rest := (t % dayMicros).toNat
  let (y, m, d) := ofOrdinal (days + 1).toNat
  { year := y, month := m, day := d,
    hour := rest / 3600000000, minute := rest / 60000000 % 60,
    second := rest / 1000000 % 60, micro := rest % 1000000 }

/-- Microseconds from 0001-01-01 00:00 to 10000-01-01 00:00, where the calendar ends. -/
def calendarEnd : Int := 3652059 * dayMicros

def inCalendar (t : Int) : Bool := 0 ≤ t && t < calendarEnd

def shift (c : Civil) (t : Int) : Civil := ofMicros (c.micros + t)

def daysBetween (a b : Civil) : Int := (a.micros - b.micros) / dayMicros

end Civil

end Taskflow.Time
