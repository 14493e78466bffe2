import Taskflow.Text.Case
import Taskflow.Json.Show
/-!
Numbers written as text, read the way the tools' command lines and fields read them.
-/

namespace Taskflow.Text

/-- The blanks trimmed from a numeral: space, tab, line feed, vertical tab, form feed and
carriage return. -/
def isTrimBlank (c : Char) : Bool := c = ' ' || ('\t' ≤ c && c ≤ '\r')

/-- The characters of a numeral made ASCII, then trimmed; a character that is neither ASCII, a
blank nor a decimal digit makes the text no numeral. -/
def asciiNumeral (s : String) : Option (List Char) := do
  let cs ← s.toList.mapM fun c =>
    if c.toNat < 127 then some c
    else if isBlank c then some ' '
    else if isDecimal c then some (Char.ofNat (48 + decimalValue c))
    else none
  pure (((cs.dropWhile isTrimBlank).reverse.dropWhile isTrimBlank).reverse)

/-- Digits with single underscores between them, without the underscores; `none` when an
underscore stands at an end or next to another. -/
def joinedDigits (cs : List Char) : Option (List Char) :=
  if cs.isEmpty || cs.head? == some '_' || cs.getLast? == some '_' then none
  else if (cs.zip cs.tail).any (fun p => p.1 == '_' && p.2 == '_') then none
  else if cs.all (fun c => c.isDigit || c == '_') then some (cs.filter (· != '_'))
  else none

def digitsValue (ds : List Char) : Nat := ds.foldl (fun n c => n * 10 + (c.toNat - 48)) 0

/-- Why a text is not a number. -/
inductive NumeralError where
  /-- The text is not an integer. -/
  | notInteger (text : String)
  /-- The integer has more digits than are read. -/
  | tooLong (digits : Nat)
  /-- The text is not a float. -/
  | notFloat (text : String)
  deriving DecidableEq, Repr

/-- The message of a numeral failure. -/
def NumeralError.message : NumeralError → String
  | .notInteger s => "invalid literal for int() with base 10: " ++ Json.quoteShown s
  | .tooLong n => s!"Exceeds the limit (4300 digits) for integer string conversion: value has {n} digits; use sys.set_int_max_str_digits() to increase the limit"
  | .notFloat s => "could not convert string to float: " ++ Json.quoteShown s

/-- Reads an integer. -/
def readInt (s : String) : Except NumeralError Int := do
  let some cs := asciiNumeral s | .error (.notInteger s)
  let (neg, body) := match cs with
    | '-' :: r => (true, r)
    | '+' :: r => (false, r)
    | r => (false, r)
  let some ds := joinedDigits body | .error (.notInteger s)
  if ds.length > 4300 then .error (.tooLong ds.length)
  let n := (digitsValue ds : Int)
  pure (if neg then -n else n)

/-- The binary64 value nearest `m * 10^e`. -/
def scaled (m : Nat) (e : Int) : Float :=
  let width := (toString m).length
  if m == 0 then 0
  else if e + width > 311 then Float.ofScientific 1 false 400
  else if e + width < -330 then 0
  else if e ≥ 0 then Float.ofScientific m false e.toNat
  else Float.ofScientific m true (-e).toNat

/-- Reads the decimal form of a float without its sign: digits, an optional point with
digits, an optional exponent. -/
def readDecimal (cs : List Char) : Option Float := do
  let (intPart, rest) := (cs.takeWhile (fun c => c.isDigit || c == '_'), cs.dropWhile (fun c => c.isDigit || c == '_'))
  let (fracPart, rest) := match rest with
    | '.' :: r => (some (r.takeWhile (fun c => c.isDigit || c == '_')), r.dropWhile (fun c => c.isDigit || c == '_'))
    | r => (none, r)
  let ip ← if intPart.isEmpty then some [] else joinedDigits intPart
  let fp ← match fracPart with
    | none => some []
    | some [] => some []
    | some f => joinedDigits f
  if ip.isEmpty && fp.isEmpty then none
  let e ← match rest with
    | [] => some (0 : Int)
    | c :: r =>
      if c == 'e' || c == 'E' then
        let (neg, body) := match r with
          | '-' :: b => (true, b)
          | '+' :: b => (false, b)
          | b => (false, b)
        let ds ← joinedDigits body
        let v := (digitsValue ds : Int)
        some (if neg then -v else v)
      else none
  pure (scaled (digitsValue (ip ++ fp)) (e - fp.length))

/-- Reads a float. -/
def readFloat (s : String) : Except NumeralError Float := do
  let some cs := asciiNumeral s | .error (.notFloat s)
  let (neg, body) := match cs with
    | '-' :: r => (true, r)
    | '+' :: r => (false, r)
    | r => (false, r)
  let word := String.ofList (body.map Char.toLower)
  let x ← if word == "inf" || word == "infinity" then pure (Float.ofScientific 1 false 400)
    else if word == "nan" then pure (0.0 / 0.0)
    else match readDecimal body with
      | some x => pure x
      | none => .error (.notFloat s)
  pure (if neg then -x else x)

end Taskflow.Text
