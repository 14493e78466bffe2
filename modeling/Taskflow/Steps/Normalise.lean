import Taskflow.Text.Basic
import Taskflow.Text.Pattern.Search
/-!
Putting a task text into one vocabulary before it is taken apart.
-/

namespace Taskflow.Steps

open Text

/-- The marker rules, in the order they apply: a whole word and what replaces it. -/
def markerRules : List (String × String) :=
  [("una sa lahat", ""), ("una", ""), ("first of all", ""), ("first", ""), ("then", ""),
   ("next", ""), ("afterwards", ""), ("panghuli", ""), ("finally", ""), ("lastly", ""),
   ("kapag", "if"), ("kung", "if"), ("tama", "correct"), ("mali", "incorrect"),
   ("kailangan", "must"), ("gawa ka ng", "create"), ("igawa", "create"), ("gawin", "create"),
   ("i-update", "update"), ("magdagdag", "add")]

def normalise (text : String) : String :=
  markerRules.foldl (fun t (w, r) => Pattern.replace .caseless (Pattern.wholeWord w) r t) (lower text)

end Taskflow.Steps
