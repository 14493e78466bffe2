import Taskflow.Time.Civil
import Taskflow.Json.Show
/-!
ISO 8601 timestamps: reading and writing.
-/

namespace Taskflow.Time

/-- A wall-clock reading, and its offset from UTC in microseconds when it has one. -/
structure Stamp where
  civil : Civil
  offset : Option Int := none
  deriving DecidableEq, Repr

/-- Why a text is not a timestamp. -/
inductive IsoError where
  /-- The text does not have one of the accepted forms. -/
  | malformed (text : String)
  /-- A field is outside its range; the message names the field. -/
  | outOfRange (message : String)
  deriving DecidableEq, Repr

/-- The message of a reading failure. -/
def IsoError.message : IsoError → String
  | .malformed s => "Invalid isoformat string: " ++ Json.quoteShown s
  | .outOfRange m => m

def byteAt (bs : List Nat) (i : Nat) : Nat := bs.getD i 0

def isDigitByte (b : Nat) : Bool := 48 ≤ b && b ≤ 57

/-- The number written by the `n` digits from position `i`. -/
def digitsAt (bs : List Nat) (i : Nat) : Nat → Option Nat
  | 0 => some 0
  | n + 1 =>
    let b := byteAt bs (i + n)
    if isDigitByte b then (digitsAt bs i n).map (· * 10 + (b - 48)) else none

/-- Position of the character between date and time, decided by the shape of the date. -/
def separatorAt (bs : List Nat) : Nat :=
  let len := bs.length
  let dash := 45
  let week := 87
  if len == 7 then 7
  else if byteAt bs 4 == dash then
    if byteAt bs 5 == week then
      if len > 8 && byteAt bs 8 == dash then
        if len == 9 then len + 1
        else if len > 10 && isDigitByte (byteAt bs 10) then 8
        else 10
      else 8
    else 10
  else if byteAt bs 4 == week then
    let run := ((bs.drop 7).takeWhile isDigitByte).length + 7
    if run < 9 then run else if run % 2 == 0 then 7 else 8
  else 8

/-- Day number of the Monday of week 1 of year `y`. -/
def weekOneMonday (y : Nat) : Nat :=
  let first := ordinal y 1 1
  let wd := weekday first
  if wd > 3 then first - wd + 7 else first - wd

/-- The date of day `d` of week `w` of year `y`, if the week and day exist. Every week of year 0
lies before the first day of the calendar; its days are read as month 0 of year 1, which the
range checks refuse. -/
def weekDate (y w d : Nat) : Option (Nat × Nat × Nat) :=
  let longYear := y != 0 &&
    (weekday (ordinal y 1 1) == 3 || (weekday (ordinal y 1 1) == 2 && isLeap y))
  if w == 0 || w > 53 || (w == 53 && !longYear) || d == 0 || d > 7 then none
  else if y == 0 then some (1, 0, 1)
  else some (ofOrdinal (weekOneMonday y + (w - 1) * 7 + d - 1))

/-- Reads the date part, which ends before position `stop`. -/
def readDate (bs : List Nat) (stop : Nat) : Option (Nat × Nat × Nat) := do
  let y ← digitsAt bs 0 4
  let sep := byteAt bs 4 == 45
  let p := if sep then 5 else 4
  if byteAt bs p == 87 then
    let w ← digitsAt bs (p + 1) 2
    let q := p + 3
    if q < stop then
      if sep && byteAt bs q != 45 then none
      else
        let q := if sep then q + 1 else q
        let d ← digitsAt bs q 1
        weekDate y w d
    else weekDate y w 1
  else
    let m ← digitsAt bs p 2
    let q := p + 2
    if sep && byteAt bs q != 45 then none
    else
      let q := if sep then q + 1 else q
      let d ← digitsAt bs q 2
      some (y, m, d)

/-- A time of day as read: hours, minutes, seconds, microseconds, and whether text
follows it. -/
structure Clock where
  hour : Nat := 0
  minute : Nat := 0
  second : Nat := 0
  micro : Nat := 0
  more : Bool := false

/-- Reads the fraction from position `p`, which ends before `stop`. -/
def readFraction (bs : List Nat) (p stop : Nat) (c : Clock) : Option Clock := do
  let n := min (stop - p) 6
  let f ← digitsAt bs p n
  let us := f * Nat.pow 10 (6 - n)
  let q := p + n + ((bs.drop (p + n)).takeWhile isDigitByte).length
  some { c with micro := us, more := byteAt bs q != 0 }

/-- Reads up to three two-digit fields from position `p`, the time ending before `stop`. -/
def readFields (bs : List Nat) (stop : Nat) : Nat → Nat → Bool → List Nat → Option Clock
  | 0, p, _, vals => readFraction bs p stop (clockOf vals)
  | k + 1, p, sep, vals => do
    let v ← digitsAt bs p 2
    let c := byteAt bs (p + 2)
    let p := p + 3
    let sep := if vals.isEmpty then c == 58 else sep
    let vals := vals ++ [v]
    if p ≥ stop then some { clockOf vals with more := c != 0 }
    else if sep && c == 58 then readFields bs stop k p sep vals
    else if c == 46 || c == 44 then readFraction bs p stop (clockOf vals)
    else if !sep then readFields bs stop k (p - 1) sep vals
    else none
where
  /-- The clock whose leading fields are `vals`. -/
  clockOf (vals : List Nat) : Clock :=
    { hour := vals.getD 0 0, minute := vals.getD 1 0, second := vals.getD 2 0 }

/-- Reads the time part and its offset; the bytes are those after the separator. -/
def readTime (bs : List Nat) : Option (Clock × Option Int) := do
  let len := bs.length
  let tz := (bs.findIdx? fun b => b == 90 || b == 43 || b == 45).getD (max len 1)
  let c ← readFields bs tz 3 0 false []
  if tz ≥ len then
    if c.more then none else some (c, none)
  else if byteAt bs tz == 90 then
    if byteAt bs (tz + 1) != 0 then none else some (c, some 0)
  else
    let sign : Int := if byteAt bs tz == 45 then -1 else 1
    let o ← readFields bs len 3 (tz + 1) false []
    if o.more then none
    else
      let secs : Int := sign * ((o.hour * 3600 + o.minute * 60 + o.second : Nat) : Int)
      if secs == 0 then some (c, some 0)
      else some (c, some (secs * 1000000 + sign * (o.micro : Int)))

def charWidth (b : Nat) : Nat :=
  if b < 0x80 then 1 else if b / 16 == 0xE then 3 else if b / 16 == 0xF then 4 else 2

/-- The checks a reading's fields must pass, first failure first. -/
def checkFields (y m d : Nat) (c : Clock) : Except IsoError Unit :=
  if y == 0 || y > 9999 then .error (.outOfRange s!"year {y} is out of range")
  else if m == 0 || m > 12 then .error (.outOfRange "month must be in 1..12")
  else if d == 0 || d > monthDays y m then .error (.outOfRange "day is out of range for month")
  else if c.hour > 23 then .error (.outOfRange "hour must be in 0..23")
  else if c.minute > 59 then .error (.outOfRange "minute must be in 0..59")
  else if c.second > 59 then .error (.outOfRange "second must be in 0..59")
  else .ok ()

def offsetFits (o : Int) : Bool := -dayMicros < o && o < dayMicros

/-- The text of an offset that does not fit, as the error shows it. -/
def spanText (o : Int) : String :=
  let days := o / dayMicros
  let rest := o % dayMicros
  let secs := rest / 1000000
  let us := rest % 1000000
  let parts := (if days != 0 then [s!"days={days}"] else []) ++
    (if secs != 0 then [s!"seconds={secs}"] else []) ++
    (if us != 0 then [s!"microseconds={us}"] else [])
  "datetime.timedelta(" ++ (if parts.isEmpty then "0" else ", ".intercalate parts) ++ ")"

/-- Reads an ISO 8601 timestamp. -/
def readIso (s : String) : Except IsoError Stamp := do
  let bs := s.toUTF8.toList.map (·.toNat)
  let stop := separatorAt bs
  let some (y, m, d) := readDate bs stop | .error (.malformed s)
  let (c, off) ← if bs.length > stop then
      let rest := bs.drop (stop + charWidth (byteAt bs stop))
      match readTime rest with
      | some r => pure r
      | none => .error (.malformed s)
    else pure ({}, none)
  if let some o := off then
    if !offsetFits o then
      .error (.outOfRange
        s!"offset must be a timedelta strictly between -timedelta(hours=24) and timedelta(hours=24), not {spanText o}.")
  checkFields y m d c
  pure { civil := { year := y, month := m, day := d, hour := c.hour, minute := c.minute,
                    second := c.second, micro := c.micro },
         offset := off }

/-- Digits of `n`, padded with zeros to width `w`. -/
def pad (w n : Nat) : String :=
  let ds := toString n
  String.ofList (List.replicate (w - ds.length) '0') ++ ds

/-- The reading in ISO 8601 form, with the fraction only when it is not zero. -/
def Civil.iso (c : Civil) : String :=
  s!"{pad 4 c.year}-{pad 2 c.month}-{pad 2 c.day}T{pad 2 c.hour}:{pad 2 c.minute}:{pad 2 c.second}" ++
    (if c.micro == 0 then "" else "." ++ pad 6 c.micro)

/-- An offset as `+HH:MM`, with seconds and a fraction only when they are not zero. -/
def offsetText (o : Int) : String :=
  let sign := if o < 0 then "-" else "+"
  let a := o.natAbs
  let h := a / 3600000000
  let m := a / 60000000 % 60
  let sec := a / 1000000 % 60
  let us := a % 1000000
  s!"{sign}{pad 2 h}:{pad 2 m}" ++
    (if sec == 0 && us == 0 then "" else ":" ++ pad 2 sec) ++
    (if us == 0 then "" else "." ++ pad 6 us)

/-- The timestamp in ISO 8601 form. -/
def Stamp.iso (t : Stamp) : String :=
  t.civil.iso ++ match t.offset with
    | some o => offsetText o
    | none => ""

/-- The reading in UTC; a reading without offset is taken as UTC already. -/
def Stamp.utc (t : Stamp) : Civil :=
  match t.offset with
  | some o => t.civil.shift (-o)
  | none => t.civil

def Stamp.at (t : Stamp) (o : Int) : Stamp := { civil := t.utc.shift o, offset := some o }

end Taskflow.Time
