import Taskflow.Workspace.Basic
import Taskflow.Text.Pattern.Search
/-!
The deep analysis gate: an execution task's todo may be marked done only when its analysis
is finished and clean.
-/

namespace Taskflow.Queue

open Json Workspace Text

/-- The analysis queue's entries: a list, or the `tasks` member of an object; anything else,
or an unreadable file, has none. -/
def analysisEntries (text : Option String) : List Value :=
  match readJson? text with
  | some doc =>
    let doc := match doc with
      | .obj _ => (doc.get? "tasks").getD doc
      | d => d
    match doc with
    | .arr xs => xs
    | _ => []
  | none => []

/-- The analysis of an execution task. -/
def findAnalysis (entries : List Value) (id : Value) : Except Fault (Option Value) := do
  for a in entries do
    if (← a.lookup "source_task_id" .null).same id then return some a
  let pre := id.display ++ "_analysis_"
  for a in entries do
    if startsWith (← a.lookup "id" (.str "")).display pre then return some a
  return none

/-- A finding that blocks: `Type:` then blanks then Conflict or Duplicate, in any case. -/
def blockingPattern (kind : String) : Pattern :=
  .seq [.str "Type:", .many .blank, .str kind]

/-- The text of a phase has both required sections. -/
def hasSections (txt : Value) : Except Fault Bool := do
  let t := if txt.truthy then txt else .str ""
  let a ← t.holds (.str "IMPORTANT NOTE:")
  if !a then return false
  t.holds (.str "Decision Gate")

/-- The text of a phase names a blocking finding. -/
def hasBlocking (txt : Value) : Except Fault Bool :=
  match (if txt.truthy then txt else .str "") with
  | .str s => .ok (Pattern.test .caseless (blockingPattern "Conflict") s ||
      Pattern.test .caseless (blockingPattern "Duplicate") s)
  | v => .error (.badKind s!"expected string or bytes-like object, got '{v.kindName}'")

/-- The gate's verdict for an execution task, and its message. -/
def gateVerdict (entries : List Value) (id : Value) : Except Fault (Bool × String) := do
  let some a ← findAnalysis entries id
    | return (false,
        "No analysis found in analysis_active.json for this execution task (missing source_task_id link).")
  let todos ← a.lookup "todos" (.arr [])
  if !todos.truthy then return (false, "Analysis task has no phases.")
  let phases ← todos.elems
  let mut i := 0
  for td in phases do
    let txt ← td.lookup "text" (.str "")
    if !(← td.lookup "done" .null).truthy then return (false, s!"Analysis phase {i} not done.")
    if !(← hasSections txt) then
      return (false, s!"Analysis phase {i} missing 'Decision Gate' or 'IMPORTANT NOTE:'.")
    if ← hasBlocking txt then
      return (false, s!"Analysis phase {i} contains blocking Findings (Conflict/Duplicate).")
    i := i + 1
  return (true, "Deep Analysis Gate passed.")

/-- The gate for an execution task, read from the analysis queue file. -/
def gate (id : Value) : WorkspaceM (Bool × String) := do
  lift (gateVerdict (analysisEntries (← get).files.analysis) id)

end Taskflow.Queue
