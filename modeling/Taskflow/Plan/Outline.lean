import Taskflow.Plan.Next
/-!
The plan outline of one task: how many phases are done, then each phase with its mark, its
title, the first 220 characters of its important note on one line, and up to four lines of
its first code block.
-/

namespace Taskflow.Plan

open Json Workspace Command

def outlineGrammar : Grammar := { options := [Queue.modeOpt], positionals := ["task_id"] }

/-- The first task with the identifier, searching a task list value. -/
def findPlan (data : Value) (id : String) : Except Fault (Option Value) := do
  for t in ← data.elems do
    if (← t.lookup "id" .null).same (.str id) then return some t
  return none

/-- Prints one phase of the outline. -/
def sayPhase (i : Nat) (td : Value) : WorkspaceM Unit := do
  let mark := if (← lift (td.lookup "done" .null)).truthy then "✔" else "✗"
  let title ← lift (titleLine (← lift (td.lookup "text" (.str ""))))
  say s!"  [{mark}] {i}. {title}"
  let text ← lift (td.lookup "text" (.str ""))
  let noteAt ← match text with
    | .str s => pure (Text.find? s "IMPORTANT NOTE:")
    | v => throw (.noMethod v.kindName "find")
  if let some k := noteAt then
    let full ← match ← lift (td.item "text") with
      | .str s => pure s
      | _ => pure ""
    let snippet := Text.replace (Text.slice full k (k + 220)) "\n" " "
    let more := if full.length - k > 220 then "…" else ""
    say s!"     NOTE: {snippet}{more}"
  match ← lift (blocksWith Text.wideFencePattern (← lift (td.lookup "text" (.str "")))) with
  | b :: _ =>
    say "     cmds:"
    for ln in previewLines b 4 do say s!"       {ln}"
  | [] => pure ()

/-- Runs the outline on an argument list. -/
def planOutline (args : List String) : WorkspaceM Unit := do
  match outlineGrammar.parse args with
  | .failed => exitWith 2
  | .help => exitWith 0
  | .parsed vs =>
    let q := Queue.ofMode ((textOf vs "mode").getD "execution")
    let id := (textOf vs "task_id").getD ""
    let some text := (← get).files.queue q
      | throw (.missingFile s!"[Errno 2] No such file or directory: '{q.path}'")
    let data := tasksMember (← readQueueDoc text)
    let some task ← lift (findPlan data id)
      | say s!"❌ Task not found: {id}"; exitWith 2
    if !task.truthy then
      say s!"❌ Task not found: {id}"
      exitWith 2
    let todos ← lift (task.lookup "todos" (.arr []))
    let mut finished := 0
    for td in ← lift todos.elems do
      if (← lift (td.lookup "done" .null)).truthy then finished := finished + 1
    let n ← lift todos.count
    say s!"🗒️ {id} — {finished}/{n} done"
    let mut i := 0
    for td in ← lift todos.elems do
      sayPhase i td
      i := i + 1
    say "✅ read-only view complete"

end Taskflow.Plan
