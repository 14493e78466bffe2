import Taskflow.Decimal.Layout
/-!
Bags of words: how often each word occurs, words kept in the order they first occur, and the
cosine of the angle between two bags.
-/

namespace Taskflow.Review

/-- Counts of words, each word once, in the order the words first came. -/
abbrev Bag := List (String × Int)

/-- Counts one more of a word. -/
def Bag.add (b : Bag) (w : String) : Bag :=
  match b with
  | [] => [(w, 1)]
  | (v, n) :: rest => if v == w then (v, n + 1) :: rest else (v, n) :: Bag.add rest w

def Bag.ofWords (ws : List String) : Bag := ws.foldl Bag.add []

def Bag.count (b : Bag) (w : String) : Int := ((b.find? (·.1 == w)).map (·.2)).getD 0

def Bag.dot (a b : Bag) : Int := (a.map fun (w, n) => n * b.count w).foldl (· + ·) 0

def Bag.squares (a : Bag) : Int := (a.map fun (_, n) => n * n).foldl (· + ·) 0

def floatOfInt (n : Int) : Float :=
  if n < 0 then -(Decimal.ofNat n.natAbs) else Decimal.ofNat n.natAbs

/-- The cosine of the angle between two bags. -/
def Bag.cosine (a b : Bag) : Float :=
  if a.isEmpty || b.isEmpty then 0.0
  else
    let da := (floatOfInt a.squares).sqrt
    let db := (floatOfInt b.squares).sqrt
    if da == 0.0 || db == 0.0 then 0.0 else floatOfInt (a.dot b) / (da * db)

end Taskflow.Review
