import Taskflow.Decimal.Shortest
/-!
Writing and reading binary64 values as decimal text.
-/

namespace Taskflow.Decimal

/-- The decisions of one way of writing numbers. -/
structure FloatFormat where
  /-- Leading-digit exponents `e` with `plainFrom ≤ e < plainBelow` are written positionally. -/
  plainFrom : Int
  plainBelow : Int
  /-- An integral value written positionally keeps `.0`. -/
  pointZero : Bool
  /-- Least number of exponent digits. -/
  expWidth : Nat
  nan : String
  inf : String

/-- Numbers as the stored files and displayed values show them: positional for leading-digit
exponents from -4 to 15, `.0` kept, exponents signed with at least two digits, `nan` and
`inf` for the special values. -/
def shownFloat : FloatFormat where
  plainFrom := -4
  plainBelow := 16
  pointZero := true
  expWidth := 2
  nan := "nan"
  inf := "inf"

/-- Numbers as JSON documents show them: as `shownFloat`, with `NaN` and `Infinity`. -/
def jsonFloat : FloatFormat where
  plainFrom := -4
  plainBelow := 16
  pointZero := true
  expWidth := 2
  nan := "NaN"
  inf := "Infinity"

def natDigits (n : Nat) : String := toString n

/-- Lays out a nonzero decimal with the digits in `ds` and the point after `pos` of them. -/
def FloatFormat.layout (f : FloatFormat) (ds : String) (pos : Int) : String :=
  let e := pos - 1
  let n := ds.length
  if f.plainFrom ≤ e ∧ e < f.plainBelow then
    if pos ≤ 0 then "0." ++ String.ofList (List.replicate (-pos).toNat '0') ++ ds
    else if pos.toNat < n then
      String.ofList (ds.toList.take pos.toNat) ++ "." ++ String.ofList (ds.toList.drop pos.toNat)
    else ds ++ String.ofList (List.replicate (pos.toNat - n) '0') ++ (if f.pointZero then ".0" else "")
  else
    let mant := match ds.toList with
      | [] => "0"
      | [c] => String.singleton c
      | c :: cs => String.singleton c ++ "." ++ String.ofList cs
    let sign := if e < 0 then "-" else "+"
    let digits := toString e.natAbs
    mant ++ "e" ++ sign ++ String.ofList (List.replicate (f.expWidth - digits.length) '0') ++ digits

/-- The text of a value in this format. -/
def FloatFormat.render (f : FloatFormat) (x : Float) : String :=
  if x.isNaN then f.nan
  else
    let neg := x.toBits >>> 63 == 1
    let sign := if neg then "-" else ""
    if x.isInf then sign ++ f.inf
    else
      let b := Binary.ofBits x.toBits
      if b.m = 0 then sign ++ (if f.pointZero then "0.0" else "0")
      else
        let d := b.shortest
        let ds := natDigits d.digits
        sign ++ f.layout ds (d.exp + ds.length)

/-- Rounds a natural fraction to the nearest natural, a half going to the even one. -/
def roundDivEven (num den : Nat) : Nat :=
  let q := num / den
  let r := num % den
  if 2 * r > den then q + 1
  else if 2 * r < den then q
  else if q % 2 = 0 then q else q + 1

/-- The value rounded to `n` decimal places: the exact binary value is rounded, a half going to
the even neighbour, and the decimal so found is read back. -/
def roundPlaces (x : Float) (n : Nat) : Float :=
  if x.isNaN || x.isInf then x
  else
    let neg := x.toBits >>> 63 == 1
    let b := Binary.ofBits x.toBits
    let (num, den) := b.fraction
    let k := roundDivEven (num * Nat.pow 10 n) den
    let r := Float.ofScientific k true n
    if neg then -r else r

/-- The value written with `n` places after the point: the exact binary value rounded, a half
going to the even neighbour, and the sign kept for negative values, zero included. -/
def fixed (x : Float) (n : Nat) : String :=
  if x.isNaN then "nan"
  else
    let neg := x.toBits >>> 63 == 1
    let sign := if neg then "-" else ""
    if x.isInf then sign ++ "inf"
    else
      let (num, den) := (Binary.ofBits x.toBits).fraction
      let k := roundDivEven (num * Nat.pow 10 n) den
      let ds := natDigits k
      let ds := String.ofList (List.replicate (n + 1 - ds.length) '0') ++ ds
      let whole := ds.length - n
      let body := String.ofList (ds.toList.take whole) ++
        (if n = 0 then "" else "." ++ String.ofList (ds.toList.drop whole))
      sign ++ body

def ofNat (n : Nat) : Float := Float.ofScientific n false 0

/-- Square root of a natural number, rounded once from the nearest value of the number. -/
def sqrtNat (n : Nat) : Float := (ofNat n).sqrt

end Taskflow.Decimal
