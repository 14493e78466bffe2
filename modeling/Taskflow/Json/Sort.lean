import Taskflow.Json.Access
/-!
Sorting lists by keys that are dynamic values, stably, with a comparison that can fail.
-/

namespace Taskflow.Json

/-- A sort's result: the arrangement reached, and the fault that stopped it, if one did. -/
structure Sorting (α : Type) where
  items : List α
  fault : Option Fault := none

section Runs

variable {α : Type} (lt : α → α → Except Fault Bool)

/-- Length of the run that continues while no item is less than the one before it. -/
def ascRun : α → List α → Nat → Except Fault Nat
  | _, [], n => .ok n
  | p, x :: rest, n => do if (← lt x p) then pure n else ascRun x rest (n + 1)

/-- Length of the run that continues while each item is less than the one before it. -/
def descRun : α → List α → Nat → Except Fault Nat
  | _, [], n => .ok n
  | p, x :: rest, n => do if (← lt x p) then descRun x rest (n + 1) else pure n

/-- The run at the front: its length, and whether it descends. -/
def frontRun : List α → Except Fault (Nat × Bool)
  | [] => .ok (0, false)
  | [_] => .ok (1, false)
  | a :: b :: rest => do
    if (← lt b a) then pure ((← descRun lt b rest 2), true)
    else pure ((← ascRun lt b rest 2), false)

/-- The slot for `x` among the sorted items `xs[l:r]`: after every item it is not less than. -/
def slotIn (xs : List α) (x : α) (l r : Nat) : Except Fault Nat :=
  if l < r then
    let p := l + (r - l) / 2
    match xs[p]? with
    | some y => do
      if (← lt x y) then slotIn xs x l p else slotIn xs x (p + 1) r
    | none => .ok l
  else .ok l
termination_by r - l

/-- Inserts the items from position `k` to `stop` into the sorted front `xs[0:k]`, one by one;
`fuel` counts the items left. -/
def insertFrom (stop : Nat) : Nat → List α → Nat → Sorting α
  | 0, xs, _ => { items := xs }
  | fuel + 1, xs, k =>
    if k < stop then
      match xs[k]? with
      | some x =>
        match slotIn lt xs x 0 k with
        | .ok j => insertFrom stop fuel ((xs.take k).insertIdx j x ++ xs.drop (k + 1)) (k + 1)
        | .error e => { items := xs, fault := some e }
      | none => { items := xs }
    else { items := xs }

/-- Sorts a block: its front run, turned round if it descends, then insertion of the rest. -/
def sortBlock (xs : List α) : Sorting α :=
  if xs.length < 2 then { items := xs }
  else match frontRun lt xs with
    | .error e => { items := xs, fault := some e }
    | .ok (n, desc) =>
      let ys := if desc then (xs.take n).reverse ++ xs.drop n else xs
      insertFrom lt xs.length xs.length ys n

/-- Merges two sorted lists, taking from the right only when its item is less. -/
def mergeRuns : List α → List α → Except Fault (List α)
  | [], ys => .ok ys
  | xs, [] => .ok xs
  | x :: xs, y :: ys => do
    if (← lt y x) then pure (y :: (← mergeRuns (x :: xs) ys))
    else pure (x :: (← mergeRuns xs (y :: ys)))

/-- The least block length for a list of `n` items: `n` below 64, else between 32 and 64. -/
def minBlock (n : Nat) : Nat :=
  if n < 64 then n else minBlock (n / 2) + (if n % 2 == 1 then 1 else 0)
termination_by n
decreasing_by omega

/-- Cuts a list into sorted blocks of at least `size` items (the last may be shorter), each a
natural run extended by insertion. -/
def blocks (size : Nat) : Nat → List α → List (List α) × Option Fault
  | 0, xs => ([xs], none)
  | fuel + 1, xs =>
    if xs.isEmpty then ([], none)
    else match frontRun lt xs with
      | .error e => ([xs], some e)
      | .ok (n, desc) =>
        let ys := if desc then (xs.take n).reverse ++ xs.drop n else xs
        let len := max n (min size xs.length)
        let b := insertFrom lt len len (ys.take len) n
        match b.fault with
        | some e => ([b.items ++ ys.drop len], some e)
        | none =>
          let (rest, f) := blocks size fuel (ys.drop len)
          (b.items :: rest, f)

/-- Merges sorted blocks from the left. -/
def mergeAll : List (List α) → Sorting α
  | [] => { items := [] }
  | b :: bs => go b bs
where
  /-- Merges `acc` with each block in turn. -/
  go (acc : List α) : List (List α) → Sorting α
    | [] => { items := acc }
    | b :: bs => match mergeRuns lt acc b with
      | .ok m => go m bs
      | .error e => { items := acc ++ (b :: bs).flatten, fault := some e }

/-- Sorts ascending, stably. -/
def sortAsc (xs : List α) : Sorting α :=
  if xs.length < 64 then sortBlock lt xs
  else
    let (bs, f) := blocks lt (minBlock xs.length) xs.length xs
    match f with
    | some e => { items := bs.flatten, fault := some e }
    | none => mergeAll lt bs

end Runs

/-- Sorts by a key, descending when `desc`, stably. Keys are all taken first; a key that
cannot be taken leaves the list as it was. -/
def sortByKey {α : Type} (key : α → Except Fault Value) (desc : Bool) (xs : List α) : Sorting α :=
  match xs.mapM key with
  | .error e => { items := xs, fault := some e }
  | .ok ks =>
    let pairs := (ks.zip xs)
    let pairs := if desc then pairs.reverse else pairs
    let r := sortAsc (fun a b => Value.less a.1 b.1) pairs
    let items := if desc then r.items.reverse else r.items
    { items := items.map (·.2), fault := r.fault }

end Taskflow.Json
