import Taskflow.Plan.Phase
import Taskflow.Command.Args
import Taskflow.Queue.Gate
import Taskflow.Queue.Command
import Taskflow.Repo.Tree
import Taskflow.Json.Read
/-!
The next-phase report: for each task of a queue, its progress, its first unfinished phase
(title, important note cut to 300 characters, and up to twelve lines of its first code
block) and what linting its plan finds. With `--gate` it asks the deep analysis gate about
one execution task instead, and exits 0 when the gate passes and 3 when it blocks.
-/

namespace Taskflow.Plan

open Json Workspace Command

def exitWith {α : Type} (code : Int) : WorkspaceM α := throw (.exit (.code code))

/-- A queue file's JSON value, read as a text file is. -/
def readQueueDoc (text : String) : WorkspaceM Value :=
  let t := String.ofList (Repo.readLines text.toList)
  match read t with
  | .ok v => pure v
  | .error e => throw (.unreadable e t)

/-- The tasks member of a queue document, or the document itself. -/
def tasksMember (doc : Value) : Value :=
  match doc with
  | .obj _ => (doc.get? "tasks").getD doc
  | d => d

/-- The next-phase report's grammar. -/
def nextGrammar : Grammar :=
  { options := [Queue.modeOpt, { name := "--gate", dest := "gate", takesValue := false },
      { name := "--task-id", dest := "task_id" }] }

/-- The tasks of a queue, or an exit when the file is absent or holds no list. -/
def planTasks (q : Queue) : WorkspaceM (List Value) := do
  let some text := (← get).files.queue q
    | say "❌ tasks_active.json not found"; exitWith 2
  match tasksMember (← readQueueDoc text) with
  | .arr ts => return ts
  | _ => say "❌ tasks_active.json must be a list of task objects"; exitWith 2

/-- An important note as shown: cut to 300 characters with an ellipsis, or `(missing)`. -/
def shownNote (note : String) : String :=
  if note.length > 300 then Text.take note 300 ++ "…"
  else if note.isEmpty then "(missing)" else note

/-- Reports on the first unfinished phase of a task. -/
def sayNextPhase (idx : Int) (todo : Value) : WorkspaceM Unit := do
  let txt ← lift (todo.lookup "text" (.str ""))
  say s!"   Next phase index: {idx}"
  let title ← lift (titleLine txt)
  say s!"   Title: {title}"
  let note := shownNote (← lift (importantNote txt))
  say s!"   IMPORTANT NOTE: {note}"
  match ← lift (codeBlocks txt) with
  | b :: _ =>
    say "   Extracted commands/code (preview):"
    say "   ---"
    for line in previewLines b 12 do say s!"   {line}"
    say "   ---"
  | [] => say "   No fenced commands/code found in this phase."

def shownPositions (ns : List Nat) : String := "[" ++ ", ".intercalate (ns.map toString) ++ "]"

/-- Reports on one task: progress, next phase and lint. -/
def sayPlan (t : Value) : WorkspaceM Unit := do
  let id ← lift (t.lookup "id" (.str ""))
  let todos ← lift (t.lookup "todos" (.arr []))
  let (idx, todo) ← lift (firstUnfinished todos)
  say ""
  say s!"🗒️ PLAN: {id.display}"
  let mut finished := 0
  for x in ← lift todos.elems do
    if (← lift (x.lookup "done" .null)).truthy then finished := finished + 1
  let n ← lift todos.count
  say s!"   Progress: {finished} / {n}"
  if idx < 0 then say "   ✅ All phases complete."
  else sayNextPhase idx todo
  let (issues, missing) ← lift (lint t)
  if issues.isEmpty && missing.isEmpty then say "   Lint: ok"
  else
    let shown := if issues.isEmpty then "ok" else ", ".intercalate issues
    say s!"   Lint: {shown}"
    if !missing.isEmpty then say s!"   Missing IMPORTANT NOTE in phases: {shownPositions missing}"

/-- Runs the next-phase report on an argument list. -/
def planNext (args : List String) : WorkspaceM Unit := do
  match nextGrammar.parse args with
  | .failed => exitWith 2
  | .help => exitWith 0
  | .parsed vs =>
    let q := Queue.ofMode ((textOf vs "mode").getD "execution")
    if flagOf vs "gate" then
      let id := (textOf vs "task_id").getD ""
      if id.isEmpty then
        say "❌ --gate requires --task-id"
        exitWith 2
      let (ok, msg) ← Queue.gate (.str id)
      let verdict := if ok then "PASS" else "BLOCK"
      say s!"DEEP ANALYSIS: {verdict} — {msg}"
      exitWith (if ok then 0 else 3)
    let tasks ← planTasks q
    if tasks.isEmpty then
      say "ℹ️ No active tasks."
      return
    for t in tasks do sayPlan t
    say ""
    say "✅ Read-only analysis complete."

end Taskflow.Plan
