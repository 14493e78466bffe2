import Taskflow.Queue.Store
import Taskflow.Workspace.Interruptions
import Taskflow.Text.Numeral
/-!
The cursor session: where the user was (file, line, task, progress), held in memory and saved
at the top of the workspace, and the short spoken commands that report on it.
-/

namespace Taskflow.Workspace

open Json Queue

/-- A value as a float: numbers by value, texts read as decimals. -/
def floatOf (v : Value) : Except Fault Float :=
  match v with
  | .int n => .ok (if n < 0 then -(Float.ofScientific n.natAbs false 0) else Float.ofScientific n.natAbs false 0)
  | .float x => .ok x
  | .bool b => .ok (if b then 1.0 else 0.0)
  | .str s => match Text.readFloat s with
    | .ok x => .ok x
    | .error e => .error (.badValue e.message)
  | v => .error (.badKind s!"float() argument must be a string or a real number, not '{v.kindName}'")

/-- Sets a field of the cursor session held in memory. -/
def setCursorField (key : String) (v : Value) : WorkspaceM Unit := do
  let st := (← get).cursor
  match st with
  | .obj _ =>
    let session := (st.get? "cursor_session").getD (.obj [])
    let session ← lift (session.setItem key v)
    modify fun w => { w with cursor := st.set "cursor_session" session }
  | v => throw (.noMethod v.kindName "setdefault")

/-- Updates the cursor session: each given field, then the time of last activity. -/
def updateCursor (file line task progress : Option Value) : WorkspaceM Unit := do
  if let some f := file then setCursorField "current_file" f
  if let some l := line then setCursorField "cursor_line" l
  if let some t := task then setCursorField "current_task" t
  if let some p := progress then
    let x ← lift (floatOf p)
    setCursorField "progress" (.float x)
  setCursorField "last_activity" (.str (← utcIso))

/-- Saves the cursor session held in memory and refreshes the session note. -/
def saveCursor : WorkspaceM Unit := do
  let text := Value.write .file (← get).cursor
  setFiles fun f => { f with cursor := some text }
  let _ ← attempt (dumpNote listOpen)

/-- The cursor session as last saved; none saved, or unreadable, is an empty one. -/
def savedCursor : WorkspaceM Value :=
  return (readJson? (← get).files.cursor).getD (.obj [])

/-- The spoken commands. -/
inductive Request where
  | nextTask
  | resume
  | whereLeftOff
  | memoryNotes
  | memorySummary
  | nextAction
  | unknown
  deriving DecidableEq, Repr

/-- The request a command makes. -/
def Request.ofCommand (command : String) : Request :=
  match Text.lower (Text.strip command) with
  | "anong susunod na task" => .nextTask
  | "ipagpatuloy muna" => .resume
  | "kung saan ako natigil" => .whereLeftOff
  | "tumingin ka sa memory hub folder" => .memoryNotes
  | "anong memory mo ngayon" => .memorySummary
  | "anong susunod na gagawin" => .nextAction
  | _ => .unknown

def sessionOf (state : Value) : Except Fault Value := state.lookup "cursor_session" (.obj [])

def memoryNotes : WorkspaceM (List String) :=
  return if (← get).files.note.isSome then ["current-session.md"] else []

/-- Joins a text and a value that must be a text. -/
def joinText (s : String) (v : Value) : Except Fault String :=
  match v with
  | .str t => .ok (s ++ t)
  | v => .error (.badKind s!"can only concatenate str (not \"{v.kindName}\") to str")

/-- Answers a spoken command. -/
def answerRequest (command : Value) : WorkspaceM String := do
  let cmd ← match command with
    | .str s => pure s
    | v => throw (.noMethod v.kindName "strip")
  match Request.ofCommand cmd with
  | .nextTask =>
    let task ← lift ((← lift (sessionOf (← get).cursor)).lookup "current_task" .null)
    if task.truthy then return s!"🔜 Susunod na task: {task.display}"
    return "📭 Wala pang nakatakdang susunod na task."
  | .resume =>
    let c ← lift (sessionOf (← savedCursor))
    if c.truthy then
      let file ← lift (c.lookup "current_file" (.str "(unknown file)"))
      let line ← lift (c.lookup "cursor_line" (.str "?"))
      return s!"⏯️  Ipagpapatuloy ko mula sa huling posisyon — {file.display} : line {line.display}."
    return "📭 Walang nakuhang huling session state."
  | .whereLeftOff =>
    let c ← lift (sessionOf (← savedCursor))
    if c.truthy then
      let file ← lift (c.lookup "current_file" (.str "—"))
      let line ← lift (c.lookup "cursor_line" (.str "—"))
      let task ← lift (c.lookup "current_task" (.str "—"))
      let progress ← lift (c.lookup "progress" (.str "—"))
      return s!"📌 Huling estado:\n  • File: {file.display}\n  • Line: {line.display}\n  • Task: {task.display}\n  • Progress: {progress.display}"
    return "ℹ️  No previous state recorded."
  | .memoryNotes =>
    let names ← memoryNotes
    return s!"🗂️  The memory hub contains {names.length} markdown files:\n" ++
      "\n".intercalate (names.map fun n => s!"  – {n}")
  | .memorySummary =>
    let c ← lift (sessionOf (← get).cursor)
    let opens ← listOpen
    let task ← lift (joinText "• Current task      : " (← lift (c.lookup "current_task" (.str "—"))))
    let file ← lift (c.lookup "current_file" (.str "—"))
    let line ← lift (c.lookup "cursor_line" (.str "—"))
    let progress ← lift (c.lookup "progress" (.str "—"))
    return "\n".intercalate ["🧠 MEMORY SUMMARY:", task,
      s!"• Current file/line : {file.display} : {line.display}",
      s!"• Progress          : {progress.display}", s!"• Open tasks (#)    : {opens.length}"]
  | .nextAction =>
    let opens ← listOpen
    if opens.isEmpty then return "📭 No open tasks. You are free to start a new task."
    for t in opens do
      for todo in ← lift ((← lift (t.item "todos")).elems) do
        if !(← lift (todo.item "done")).truthy then
          let text ← field todo "text"
          let d ← field t "description"
          return s!"🔜 Susunod na gagawin: {text} (part of '{d}')"
    return "ℹ️  All todos done, but tasks still marked open. Review them."
  | .unknown => return "🤔 Pasensya, hindi ko naintindihan ang utos mo. (Unknown command)"

/-- The task history file's value; absent or unreadable is an empty object. -/
def savedHistory : WorkspaceM Value :=
  return (readJson? (← get).files.history).getD (.obj [])

/-- Records a completed task in the task history, with the cursor session, and returns the
history as saved. -/
def addCompleted (description : Value) : WorkspaceM Value := do
  let state ← savedHistory
  let state ← match state with
    | .obj _ => pure (if (state.get? "task_history").isSome then state else state.set "task_history" (.arr []))
    | v => throw (.noMethod v.kindName "setdefault")
  let entry := Value.obj [("task", description), ("completed", .str (← utcIso))]
  let history ← lift ((state.getD "task_history" (.arr [])).push entry)
  let state := state.set "task_history" history
  let disk ← savedHistory
  let merged ← match disk, state with
    | .obj _, .obj kvs => pure (kvs.foldl (fun d kv => d.set kv.1 kv.2) disk)
    | v, _ => throw (.noMethod v.kindName "update")
  let session ← lift (sessionOf (← get).cursor)
  let merged := merged.set "cursor_session" session
  setFiles fun f => { f with history := some (Value.write .file merged) }
  savedHistory

/-- The workspace as a session finds it: the cursor session read from its file (an empty one
when the file is absent or unreadable) and the interruption tracker read from its own. -/
def opening (clock : Time.Civil) (files : Files) : Workspace :=
  { clock := clock, files := files, cursor := (readJson? files.cursor).getD (.obj []),
    interruptions := Interruptions.ofFile files.interruptions }

end Taskflow.Workspace
