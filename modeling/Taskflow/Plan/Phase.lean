import Taskflow.Json.Access
import Taskflow.Text.Fence
import Taskflow.Fault
/-!
Reading the phases of a plan: each phase is a todo whose text is Markdown.
-/

namespace Taskflow.Plan

open Json Text

/-- The first line of a stripped text; a blank text has none. -/
def titleLine (md : Value) : Except Fault String :=
  if !md.truthy then .ok ""
  else match md with
    | .str s => match lines (strip s) with
      | l :: _ => .ok l
      | [] => .error (.indexOutOfRange "list")
    | v => .error (.noMethod v.kindName "strip")

/-- The text from the first `IMPORTANT NOTE:` on, stripped; empty when there is none. -/
def importantNote (md : Value) : Except Fault String :=
  if !md.truthy then .ok ""
  else match md with
    | .str s => .ok (match find? s "IMPORTANT NOTE:" with
      | some i => strip (drop s i)
      | none => "")
    | v => .error (.noMethod v.kindName "find")

/-- The bodies a fence pattern finds in a text value. -/
def blocksWith (fence : Pattern) (md : Value) : Except Fault (List String) :=
  if !md.truthy then .ok []
  else match md with
    | .str s => .ok (fenceBodies fence s)
    | v => .error (.badKind s!"expected string or bytes-like object, got '{v.kindName}'")

def codeBlocks (md : Value) : Except Fault (List String) :=
  return (← blocksWith fencePattern md).map strip

/-- The first `n` lines of a text, joined and split again, so that a last empty line among them
is dropped. -/
def previewLines (text : String) (n : Nat) : List String :=
  lines ("\n".intercalate ((lines text).take n))

def isDone (todo : Value) : Except Fault Bool := return (← todo.lookup "done" (.bool false)).truthy

/-- The position and todo of the first unfinished phase, or `-1` and nothing. -/
def firstUnfinished (todos : Value) : Except Fault (Int × Value) := do
  let mut i : Int := 0
  for t in ← todos.elems do
    if !(← isDone t) then return (i, t)
    i := i + 1
  return (-1, .null)

def setupTitle : String := "PHASE 0: SETUP & PROTOCOL"

/-- Done phases come first: after a done phase, every phase is done. -/
def monotonic : List Bool → Bool → Bool
  | [], _ => true
  | d :: ds, seen => if !d && seen then false else monotonic ds (seen || d)

/-- What linting a plan's task finds: its issues, and the phases without an important note. -/
def lint (task : Value) : Except Fault (List String × List Nat) := do
  let todos ← task.lookup "todos" (.arr [])
  let mut issues : List String := []
  if todos.truthy then
    let first ← todos.atIndex 0
    let title ← titleLine (← first.lookup "text" (.str ""))
    if !startsWith title setupTitle then issues := issues ++ ["Phase 0 is not first"]
  let items ← todos.elems
  let mut missing : List Nat := []
  let mut i := 0
  for td in items do
    if !(← (← td.lookup "text" (.str "")).holds (.str "IMPORTANT NOTE:")) then missing := missing ++ [i]
    i := i + 1
  let dones ← items.mapM isDone
  if !monotonic dones false then issues := issues ++ ["Completion is non-monotonic (undone after done)"]
  return (issues, missing)

end Taskflow.Plan
