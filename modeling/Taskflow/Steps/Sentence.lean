import Taskflow.Text.Basic
/-!
Cutting a task text into sentences.
-/

namespace Taskflow.Steps

open Text

def isStop (c : Char) : Bool := c = '.' ∨ c = '!' ∨ c = '?'

/-- The text after a stop starts a marker. -/
def startsMarker (after : List Char) : Bool :=
  let w := lower (strip (String.ofList (after.take 9)))
  startsWith w "[seq_" || startsWith w "kung" || startsWith w "[if]"

/-- A stop followed by `after` ends a sentence. -/
def endsSentence (after : List Char) : Bool :=
  match after with
  | [] => true
  | n :: more =>
    (n == ' ' && (match more with | d :: _ => isUpperChar d | [] => false)) ||
    (!more.isEmpty && startsMarker after)

/-- Sentences of the rest of a text; `current` holds the open sentence, reversed. -/
def sentencesFrom : List Char → List Char → List String
  | [], current =>
    let s := strip (String.ofList current.reverse)
    if s.isEmpty then [] else [s]
  | c :: rest, current =>
    if isStop c ∧ endsSentence rest then strip (String.ofList (c :: current).reverse) :: sentencesFrom rest []
    else sentencesFrom rest (c :: current)

def sentences (text : String) : List String := sentencesFrom text.toList []

end Taskflow.Steps
