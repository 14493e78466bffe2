import Taskflow.Text.Case
/-!
Searching, cutting and joining text.
-/

namespace Taskflow.Text

/-- `p` occurs in `s` as a contiguous piece. -/
def occursIn (p : List Char) : List Char → Bool
  | [] => p.isEmpty
  | c :: cs => p.isPrefixOf (c :: cs) || occursIn p cs

def has (s p : String) : Bool := occursIn p.toList s.toList

/-- Position of the leftmost occurrence of `p`, counted from `i`. -/
def findFrom (p : List Char) : List Char → Nat → Option Nat
  | [], i => if p.isEmpty then some i else none
  | c :: cs, i => if p.isPrefixOf (c :: cs) then some i else findFrom p cs (i + 1)

def find? (s p : String) : Option Nat := findFrom p.toList s.toList 0

theorem length_drop_cons_lt {p : List Char} (hp : p ≠ []) (c : Char) (cs : List Char) :
    cs.length + 1 - p.length < cs.length + 1 := by
  have : 0 < p.length := List.length_pos_iff.mpr hp
  omega

/-- Replaces every occurrence of a nonempty piece, left to right, without overlap. -/
def replaceList (old new : List Char) : List Char → List Char
  | [] => []
  | c :: cs =>
    if h : old ≠ [] ∧ old.isPrefixOf (c :: cs) then
      new ++ replaceList old new ((c :: cs).drop old.length)
    else c :: replaceList old new cs
termination_by cs => cs.length
decreasing_by
  all_goals try simp only [List.length_drop, List.length_cons]
  all_goals first | omega | exact length_drop_cons_lt h.1 c cs

/-- Text with every occurrence of `old` replaced by `new`; an empty `old` changes nothing. -/
def replace (s old new : String) : String := String.ofList (replaceList old.toList new.toList s.toList)

/-- Number of occurrences of a nonempty piece, taken left to right without overlap. -/
def countList (p : List Char) : List Char → Nat
  | [] => 0
  | c :: cs =>
    if h : p ≠ [] ∧ p.isPrefixOf (c :: cs) then 1 + countList p ((c :: cs).drop p.length)
    else countList p cs
termination_by cs => cs.length
decreasing_by
  all_goals try simp only [List.length_drop, List.length_cons]
  all_goals first | omega | exact length_drop_cons_lt h.1 c cs

/-- Pieces of a text between occurrences of a nonempty separator; `[s]` when it does not occur. -/
def splitList (sep : List Char) (cs : List Char) : List (List Char) :=
  go cs []
where
  go : List Char → List Char → List (List Char)
    | [], acc => [acc.reverse]
    | c :: cs, acc =>
      if h : sep ≠ [] ∧ sep.isPrefixOf (c :: cs) then acc.reverse :: go ((c :: cs).drop sep.length) []
      else go cs (c :: acc)
  termination_by cs => cs.length
  decreasing_by
    all_goals try simp only [List.length_drop, List.length_cons]
    all_goals first | omega | exact length_drop_cons_lt h.1 c cs

/-- Pieces of a text between occurrences of a nonempty separator. -/
def splitOn (s sep : String) : List String := (splitList sep.toList s.toList).map String.ofList

def dropFront (p : Char → Bool) (cs : List Char) : List Char := cs.dropWhile p

def dropBack (p : Char → Bool) (cs : List Char) : List Char := (cs.reverse.dropWhile p).reverse

def strip (s : String) : String := String.ofList (dropBack isBlank (dropFront isBlank s.toList))

def stripStart (s : String) : String := String.ofList (dropFront isBlank s.toList)

def stripEnd (s : String) : String := String.ofList (dropBack isBlank s.toList)

def stripOf (cs : List Char) (s : String) : String :=
  String.ofList (dropBack (· ∈ cs) (dropFront (· ∈ cs) s.toList))

def stripEndOf (cs : List Char) (s : String) : String :=
  String.ofList (dropBack (· ∈ cs) s.toList)

def stripStartOf (cs : List Char) (s : String) : String :=
  String.ofList (dropFront (· ∈ cs) s.toList)

theorem length_dropWhile_le (q : Char → Bool) (cs : List Char) :
    (cs.dropWhile q).length ≤ cs.length := (List.dropWhile_suffix q).length_le

/-- Runs of non-blank characters, in order. -/
def wordsList : List Char → List (List Char)
  | [] => []
  | c :: cs =>
    if isBlank c then wordsList cs
    else (c :: cs.takeWhile (fun d => !isBlank d)) :: wordsList (cs.dropWhile (fun d => !isBlank d))
termination_by cs => cs.length
decreasing_by
  all_goals try simp only [List.length_cons]
  all_goals first | omega | exact Nat.lt_succ_of_le (length_dropWhile_le _ cs)

def words (s : String) : List String := (wordsList s.toList).map String.ofList

/-- Characters that end a line. -/
def isLineBreak (c : Char) : Bool :=
  c = '\n' ∨ c = '\r' ∨ c = '\x0b' ∨ c = '\x0c' ∨ c = '\x1c' ∨ c = '\x1d' ∨ c = '\x1e' ∨
  c = '\x85' ∨ c = ' ' ∨ c = ' '

/-- Lines of a text without their ends; `\r\n` ends one line, and a final end opens no line. -/
def linesList (cs : List Char) : List (List Char) := go cs []
where
  go : List Char → List Char → List (List Char)
    | [], [] => []
    | [], acc => [acc.reverse]
    | '\r' :: '\n' :: cs, acc => acc.reverse :: go cs []
    | c :: cs, acc => if isLineBreak c then acc.reverse :: go cs [] else go cs (c :: acc)

def lines (s : String) : List String := (linesList s.toList).map String.ofList

def take (s : String) (n : Nat) : String := String.ofList (s.toList.take n)

def drop (s : String) (n : Nat) : String := String.ofList (s.toList.drop n)

/-- The characters from position `i` up to, not including, position `j`. -/
def slice (s : String) (i j : Nat) : String := String.ofList ((s.toList.drop i).take (j - i))

def startsWith (s p : String) : Bool := p.toList.isPrefixOf s.toList

def endsWith (s p : String) : Bool := p.toList.reverse.isPrefixOf s.toList.reverse

def join (sep : String) (xs : List String) : String := String.intercalate sep xs

end Taskflow.Text
