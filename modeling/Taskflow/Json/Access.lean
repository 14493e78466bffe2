import Taskflow.Fault
import Taskflow.Decimal.Shortest
import Taskflow.Text.Basic
/-!
Reading and changing JSON values the way the task tools treat their data: as dynamic values
whose kind is known only when they are used.
-/

namespace Taskflow.Json

namespace Value

/-- The member `k` of an object; other kinds cannot be indexed by a text. -/
def item (v : Value) (k : String) : Except Fault Value :=
  match v with
  | obj kvs => match kvs.find? (·.1 == k) with
    | some kv => .ok kv.2
    | none => .error (.missingKey (.str k))
  | arr _ => .error (.badKind "list indices must be integers or slices, not str")
  | str _ => .error (.badKind "string indices must be integers, not 'str'")
  | v => .error (.badKind s!"'{v.kindName}' object is not subscriptable")

/-- A position from the front, or from the end when negative, within a length. -/
def position (i : Int) (len : Nat) : Option Nat :=
  let j := if i < 0 then i + len else i
  if 0 ≤ j ∧ j < len then some j.toNat else none

/-- Item `i` of an array or character `i` of a text; an object is looked up by the number. -/
def atIndex (v : Value) (i : Int) : Except Fault Value :=
  match v with
  | arr xs => match position i xs.length with
    | some j => .ok (xs.getD j .null)
    | none => .error (.indexOutOfRange "list")
  | str s => match position i s.length with
    | some j => .ok (.str (String.singleton (s.toList.getD j ' ')))
    | none => .error (.indexOutOfRange "string")
  | obj _ => .error (.missingKey (.int i))
  | v => .error (.badKind s!"'{v.kindName}' object is not subscriptable")

/-- The member `k` of an object, or `d` when it is absent; only objects answer. -/
def lookup (v : Value) (k : String) (d : Value) : Except Fault Value :=
  match v with
  | obj _ => .ok (v.getD k d)
  | v => .error (.noMethod v.kindName "get")

/-- The number of items, members or characters. -/
def count (v : Value) : Except Fault Nat :=
  match v with
  | arr xs => .ok xs.length
  | obj kvs => .ok kvs.length
  | str s => .ok s.length
  | v => .error (.badKind s!"object of type '{v.kindName}' has no len()")

/-- What a loop over the value visits: items, keys, or characters. -/
def elems (v : Value) : Except Fault (List Value) :=
  match v with
  | arr xs => .ok xs
  | obj kvs => .ok (kvs.map fun kv => .str kv.1)
  | str s => .ok (s.toList.map fun c => .str (String.singleton c))
  | v => .error (.badKind s!"'{v.kindName}' object is not iterable")

/-- The object with member `k` set to `x`. -/
def setItem (v : Value) (k : String) (x : Value) : Except Fault Value :=
  match v with
  | obj kvs => .ok (obj (setMember kvs k x))
  | arr _ => .error (.badKind "list indices must be integers or slices, not str")
  | v => .error (.badKind s!"'{v.kindName}' object does not support item assignment")

/-- The array with item `i` replaced by `x`. -/
def setIndex (v : Value) (i : Int) (x : Value) : Except Fault Value :=
  match v with
  | arr xs => match position i xs.length with
    | some j => .ok (arr (xs.set j x))
    | none => .error (.indexOutOfRange "list assignment")
  | v => .error (.badKind s!"'{v.kindName}' object does not support item assignment")

/-- The array without item `i`. -/
def removeAt (v : Value) (i : Int) : Except Fault Value :=
  match v with
  | arr xs => match position i xs.length with
    | some j => .ok (arr (xs.eraseIdx j))
    | none => .error (.indexOutOfRange "pop")
  | v => .error (.noMethod v.kindName "pop")

/-- The array with `x` added at the end. -/
def push (v : Value) (x : Value) : Except Fault Value :=
  match v with
  | arr xs => .ok (arr (xs ++ [x]))
  | v => .error (.noMethod v.kindName "append")

/-- A number as a sign and a fraction of naturals, when the value is a number and not NaN
or infinite. -/
def ratio? : Value → Option (Bool × Nat × Nat)
  | bool b => some (false, if b then 1 else 0, 1)
  | int n => some (n < 0, n.natAbs, 1)
  | float x =>
    if x.isNaN || x.isInf then none
    else
      let (num, den) := (Decimal.Binary.ofBits x.toBits).fraction
      some (x.toBits >>> 63 == 1 && num != 0, num, den)
  | _ => none

/-- Compares two finite numbers exactly. -/
def cmpRatio (a b : Bool × Nat × Nat) : Ordering :=
  let (sa, na, da) := a
  let (sb, nb, db) := b
  let x : Int := (if sa then -1 else 1) * ((na * db : Nat) : Int)
  let y : Int := (if sb then -1 else 1) * ((nb * da : Nat) : Int)
  compare x y

/-- The value is a number: an integer, a float or a truth value. -/
def isNumber : Value → Bool
  | bool _ | int _ | float _ => true
  | _ => false

/-- Compares two numbers; `none` when either is NaN. Infinities lie beyond every finite
number. -/
def cmpNumber (a b : Value) : Option Ordering :=
  let rank : Value → Option Int := fun v => match v with
    | float x => if x.isNaN then none else if x.isInf then some (if x > 0 then 1 else -1) else some 0
    | _ => some 0
  match rank a, rank b with
  | some ra, some rb =>
    if ra != 0 || rb != 0 then some (compare ra rb)
    else match ratio? a, ratio? b with
      | some x, some y => some (cmpRatio x y)
      | _, _ => none
  | _, _ => none

/-- Equality of dynamic values. -/
def same : Value → Value → Bool
  | null, null => true
  | str a, str b => a == b
  | arr xs, arr ys => xs.length == ys.length && sameAll xs ys
  | obj xs, obj ys => xs.length == ys.length && sameMembers xs ys
  | a, b => a.isNumber && b.isNumber && cmpNumber a b == some .eq
where
  /-- Items pairwise equal. -/
  sameAll : List Value → List Value → Bool
    | x :: xs, y :: ys => same x y && sameAll xs ys
    | _, _ => true
  /-- Every member of the first list has an equal member under its key in `ys`. -/
  sameMembers : List (String × Value) → List (String × Value) → Bool
    | (k, x) :: xs, ys => (match ys.find? (·.1 == k) with
        | some (_, y) => same x y
        | none => false) && sameMembers xs ys
    | [], _ => true

/-- `a < b` for dynamic values: numbers by value, texts by code point, arrays by their first
unequal items and then by length; other pairs have no order. -/
def less (a b : Value) : Except Fault Bool :=
  match a, b with
  | str x, str y => .ok (decide (x < y))
  | arr xs, arr ys => lessItems xs ys
  | a, b =>
    if a.isNumber && b.isNumber then .ok (cmpNumber a b == some .lt)
    else .error (.badKind s!"'<' not supported between instances of '{a.kindName}' and '{b.kindName}'")
where
  /-- Compares two arrays at their first unequal items. -/
  lessItems : List Value → List Value → Except Fault Bool
    | x :: xs, y :: ys => if same x y then lessItems xs ys else less x y
    | [], _ :: _ => .ok true
    | _, [] => .ok false

def among (x : Value) (xs : List Value) : Bool := xs.any (same x)

/-- Whether `x` is in the container: a part of a text, an item of an array, a key of an
object. -/
def holds (container x : Value) : Except Fault Bool :=
  match container, x with
  | str s, str p => .ok (Text.has s p)
  | str _, v => .error (.badKind s!"'in <string>' requires string as left operand, not {v.kindName}")
  | arr xs, x => .ok (among x xs)
  | obj kvs, str k => .ok (kvs.any (·.1 == k))
  | obj _, arr _ => .error (.badKind "unhashable type: 'list'")
  | obj _, obj _ => .error (.badKind "unhashable type: 'dict'")
  | obj _, _ => .ok false
  | v, _ => .error (.badKind s!"argument of type '{v.kindName}' is not iterable")

end Value

end Taskflow.Json
