/-!
The shortest decimal that reads back as a given binary64 value.
-/

namespace Taskflow.Decimal

/-- A finite non-negative binary64 value `m * 2^q`. -/
structure Binary where
  m : Nat
  q : Int
  /-- The gap to the value below is half the gap to the value above. -/
  narrowBelow : Bool

/-- The magnitude of a finite value, read from its bits. -/
def Binary.ofBits (b : UInt64) : Binary :=
  let e := ((b >>> 52) &&& 0x7FF).toNat
  let f := (b &&& 0xFFFFFFFFFFFFF).toNat
  if e == 0 then ⟨f, -1074, false⟩ else ⟨Nat.pow 2 52 + f, (e : Int) - 1075, f == 0 && e > 1⟩

/-- `digits * 10^exp`. -/
structure Dec where
  digits : Nat
  exp : Int
  deriving Repr, DecidableEq

def cmpScaled (a : Nat) (i : Int) (n : Nat) (j : Int) : Ordering :=
  compare (a * Nat.pow 10 i.toNat * Nat.pow 2 (-j).toNat) (n * Nat.pow 2 j.toNat * Nat.pow 10 (-i).toNat)

/-- The decimal lies among the reals that round to the value, ties going to even. -/
def Binary.readsBack (x : Binary) (d : Dec) : Bool :=
  let lo := if x.narrowBelow then 4 * x.m - 1 else 4 * x.m - 2
  let hi := 4 * x.m + 2
  let incl := x.m % 2 == 0
  let cl := cmpScaled d.digits d.exp lo (x.q - 2)
  let ch := cmpScaled d.digits d.exp hi (x.q - 2)
  (cl == .gt || (incl && cl == .eq)) && (ch == .lt || (incl && ch == .eq))

def Binary.fraction (x : Binary) : Nat × Nat :=
  (x.m * Nat.pow 2 x.q.toNat, Nat.pow 2 (-x.q).toNat)

/-- The least `k` with `num / den < 10^k`, searched upward from `k` within `fuel` steps. -/
def scaleUp (num den : Nat) : Nat → Int → Int
  | 0, k => k
  | fuel + 1, k =>
    if num * Nat.pow 10 (-k).toNat < den * Nat.pow 10 k.toNat then k else scaleUp num den fuel (k + 1)

/-- The least `k` with `num / den < 10^k` for a nonzero value; between -400 and 400 for every
finite binary64 value. -/
def Binary.scale (x : Binary) : Int :=
  let (num, den) := x.fraction
  scaleUp num den 800 (-400)

/-- The value's lower neighbour on the grid `10^e`: `⌊value / 10^e⌋`. -/
def Binary.floorOn (x : Binary) (e : Int) : Nat :=
  let (num, den) := x.fraction
  (num * Nat.pow 10 (-e).toNat) / (den * Nat.pow 10 e.toNat)

/-- The sum of two grid points `(a + b) * 10^e` against twice the value. -/
def Binary.cmpMid (x : Binary) (a b : Nat) (e : Int) : Ordering :=
  cmpScaled (a + b) e (2 * x.m) x.q

/-- Removes trailing zeros of the digits into the exponent. -/
def Dec.strip (d : Dec) : Dec :=
  go d.digits d.exp 20
where
  go (a : Nat) (e : Int) : Nat → Dec
    | 0 => ⟨a, e⟩
    | fuel + 1 => if a ≠ 0 ∧ a % 10 = 0 then go (a / 10) (e + 1) fuel else ⟨a, e⟩

/-- The decimal chosen on the grid of `n` digits, if one of the value's neighbours reads back. -/
def Binary.onGrid (x : Binary) (n : Nat) : Option Dec :=
  let e := x.scale - n
  let a := x.floorOn e
  let lo : Dec := ⟨a, e⟩
  let hi : Dec := ⟨a + 1, e⟩
  match x.readsBack lo, x.readsBack hi with
  | true, true =>
    match x.cmpMid a (a + 1) e with
    | .gt => some lo
    | .lt => some hi
    | .eq => if a % 2 = 0 then some lo else some hi
  | true, false => some lo
  | false, true => some hi
  | false, false => none

/-- The shortest decimal that reads back; the exact value if no grid of up to seventeen digits
has one. -/
def Binary.shortest (x : Binary) : Dec :=
  match (List.range 17).findSome? (fun i => x.onGrid (i + 1)) with
  | some d => d.strip
  | none =>
    let (num, den) := x.fraction
    (Dec.mk (num * Nat.pow 10 1100 / den) (-1100)).strip

end Taskflow.Decimal
