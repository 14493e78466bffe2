/-!
Sets and maps of code points kept as compact tables.
-/

namespace Taskflow.Text

/-- Value of one hexadecimal digit; anything else counts as zero. -/
def hexDigitValue (c : Char) : Nat :=
  if '0' ≤ c ∧ c ≤ '9' then c.toNat - '0'.toNat
  else if 'A' ≤ c ∧ c ≤ 'F' then c.toNat - 'A'.toNat + 10
  else if 'a' ≤ c ∧ c ≤ 'f' then c.toNat - 'a'.toNat + 10
  else 0

def hexValue (s : String) : Nat := s.foldl (fun n c => n*16 + hexDigitValue c) 0

def tableWords (s : String) : List String := (s.splitOn " ").filter (· ≠ "")

/-- Index of the last key at most `n` in a sorted array of keys, searching `[lo, hi)`;
`best` is the answer found so far. -/
def lastAtMost (keys : Array Nat) (n lo hi : Nat) (best : Option Nat) : Option Nat :=
  if lo < hi then
    let mid := (lo + hi) / 2
    if keys.getD mid 0 ≤ n then lastAtMost keys n (mid + 1) hi (some mid)
    else lastAtMost keys n lo mid best
  else best
termination_by hi - lo

/-- Sorted, disjoint, inclusive ranges of code points. -/
structure CodeSet where
  starts : Array Nat
  stops : Array Nat

/-- Reads `A-B` as a range and `A` as a single code point. -/
def CodeSet.ofTable (s : String) : CodeSet :=
  let rs := (tableWords s).toArray.map fun w =>
    match w.splitOn "-" with
    | [a, b] => (hexValue a, hexValue b)
    | _ => (hexValue w, hexValue w)
  ⟨rs.map (·.1), rs.map (·.2)⟩

/-- A code point is in the set when the last range starting at or below it reaches it. -/
def CodeSet.contains (t : CodeSet) (n : Nat) : Bool :=
  match lastAtMost t.starts n 0 t.starts.size none with
  | some i => n ≤ t.stops.getD i 0
  | none => false

/-- A case table: runs of code points `start, start+step, …` (`count` of them) that all move by
the same offset, and code points whose image is more than one character. -/
structure CaseRuns where
  starts : Array Nat
  runs : Array (Nat × Nat × Int)
  multiKeys : Array Nat
  multiImages : Array (List Char)

/-- Reads runs written `S+N/2=D` (`N` points of step two, offset `+D`), `S+N~D` (step one,
offset `-D`) or `S=D`, and images written `S:A.B.C`. -/
def CaseRuns.ofTables (runs multi : String) : CaseRuns :=
  let rs := (tableWords runs).toArray.map fun w =>
    let (head, off) := match w.splitOn "=" with
      | [h, d] => (h, (hexValue d : Int))
      | _ => match w.splitOn "~" with
        | [h, d] => (h, -(hexValue d : Int))
        | _ => (w, 0)
    match head.splitOn "+" with
    | [s, n] =>
      match n.splitOn "/" with
      | [k, _] => (hexValue s, (k.toNat?.getD 1, 2, off))
      | _ => (hexValue s, (n.toNat?.getD 1, 1, off))
    | _ => (hexValue head, (1, 1, off))
  let ms := (tableWords multi).toArray.map fun w =>
    match w.splitOn ":" with
    | [k, v] => (hexValue k, (v.splitOn ".").map fun x => Char.ofNat (hexValue x))
    | _ => (0, [])
  ⟨rs.map (·.1), rs.map (·.2), ms.map (·.1), ms.map (·.2)⟩

/-- The image of a code point, when the table moves it. -/
def CaseRuns.image? (t : CaseRuns) (c : Char) : Option (List Char) :=
  let n := c.toNat
  match lastAtMost t.multiKeys n 0 t.multiKeys.size none with
  | some i =>
    if t.multiKeys.getD i 0 = n then some (t.multiImages.getD i [c])
    else runImage
  | none => runImage
where
  runImage : Option (List Char) :=
    let n := c.toNat
    match lastAtMost t.starts n 0 t.starts.size none with
    | some i =>
      let s := t.starts.getD i 0
      let (count, step, off) := t.runs.getD i (0, 1, 0)
      if n < s + step*count ∧ (n - s) % step = 0 then some [Char.ofNat (n + off).toNat]
      else none
    | none => none

end Taskflow.Text
