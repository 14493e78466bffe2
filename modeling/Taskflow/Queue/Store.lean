import Taskflow.Queue.Tasks
import Taskflow.Workspace.Note
import Taskflow.Workspace.Sync
/-!
The task store: the queue file read and written as a list of tasks, and the operations on it,
each printing what it did. Every read purges stale tasks and writes the queue back when it purged
one; every write refreshes the session note, whose open tasks come from another read.
-/

namespace Taskflow.Queue

open Json Workspace

-- the purge's equation is named for the termination proof only
set_option linter.unusedVariables false in
mutual

/-- Writes a task list to the queue in use, then refreshes the note and the memory folder; a
failure in either refresh is ignored. The note lists the open tasks of another read of the
queue, `reread`, which may write it again. -/
def save (data : List Value) : WorkspaceM Unit := do
  writeQueue (Value.write .file (.arr data))
  let _ ← attempt (dumpNote (openOf <$> reread data))
  let _ ← attempt autoSync
termination_by 2 * data.length + 1

/-- The read of a queue just written with `data`: it purges at the clock it reads, and writes
the queue back when it removed a task. -/
def reread (data : List Value) : WorkspaceM (List Value) := do
  match h : purge (← now) (.arr data) with
  | .ok (kept, true) =>
    save kept
    return kept
  | .ok (kept, false) => return kept
  | .error e => throw e
termination_by 2 * data.length
decreasing_by
  -- the nested save writes what the purge kept, fewer tasks than were written
  have := length_lt_of_purge_changed h
  omega

end

/-- Reads the queue in use: an absent or unreadable file is an empty list. Stale tasks are
purged, and the queue is written back when one was. -/
def load : WorkspaceM (List Value) := do
  match readJson? (← queueText) with
  | none => return []
  | some doc =>
    let (kept, changed) ← lift (purge (← now) (tasksOf doc))
    if changed then save kept
    return kept

def listOpen : WorkspaceM (List Value) := return openOf (← load)

/-- The store's timestamp for now: Philippine time with its offset. -/
def stampNow : WorkspaceM Value := return .str (← manilaNow).iso

/-- Creates a task and returns its identifier. -/
def newTask (description : Value) : WorkspaceM Value := do
  let data ← load
  let stamp ← manilaNow
  let desc ← match description with
    | .str s => pure s
    | v => throw (.noMethod v.kindName "replace")
  let id := newId stamp.civil desc
  save (data ++ [freshTask id desc stamp.iso])
  say s!"✅ Created task: {id}"
  say s!"   Description: {desc}"
  return .str id

/-- Prints one todo line per item, `[✔]` or `[✗]`, its position and text, after `indent`. -/
def sayTodos (indent : String) (todos : Value) : WorkspaceM Unit := do
  let items ← lift todos.elems
  let _ ← items.foldlM (fun i todo => do
    let mark := if (← lift (todo.item "done")).truthy then "✔" else "✗"
    let text ← lift (todo.item "text")
    say s!"{indent}[{mark}] {i}. {text.display}"
    pure (i + 1)) 0
  pure ()

def sayMissing (id : Value) : WorkspaceM Unit := say s!"❌ Task '{id.display}' not found."

/-- Adds a todo to a task. -/
def addTodo (id text : Value) : WorkspaceM Unit := do
  let data ← load
  match ← lift (findTask data id) with
  | none => sayMissing id
  | some i =>
    let t := data.getD i .null
    let todos ← lift ((← lift (t.item "todos")).push (.obj [("text", text), ("done", .bool false)]))
    let t := (t.set "todos" todos).set "updated" (← stampNow)
    save (data.set i t)
    say s!"✅ Added TODO: {text.display}"

/-- Prints the range error for a bad todo index, and the todos. -/
def sayBadIndex (index : Int) (todos : Value) : WorkspaceM Unit := do
  let n ← lift todos.count
  say s!"❌ Invalid index {index}. Valid range is 0 to {(n : Int) - 1}"
  say "   Available TODO items:"
  sayTodos "   " todos

/-- Every todo is done; the test stops at the first one that is not. -/
def allDone : List Value → Except Fault Bool
  | [] => .ok true
  | t :: rest => do if (← t.item "done").truthy then allDone rest else pure false

/-- Marks a todo done; when every todo of the task is then done, the task is completed. -/
def markDone (id : Value) (index : Int) : WorkspaceM Unit := do
  let data ← load
  match ← lift (findTask data id) with
  | none => sayMissing id
  | some i =>
    let t := data.getD i .null
    let todos ← lift (t.item "todos")
    if !todos.truthy then
      say s!"❌ Task '{id.display}' has no TODO items to mark as done."
      say s!"   Use 'python3 todo_manager.py add {id.display} <todo_text>' to add TODO items first."
      return
    let n ← lift todos.count
    if index < 0 || index ≥ n then
      sayBadIndex index todos
      return
    let todo ← lift ((← lift (todos.atIndex index)).setItem "done" (.bool true))
    let todos ← lift (todos.setIndex index todo)
    let t := (t.set "todos" todos).set "updated" (← stampNow)
    let t := if ← lift (allDone (← lift todos.elems)) then t.set "status" (.str "completed") else t
    save (data.set i t)
    let text ← lift ((← lift (todos.atIndex index)).item "text")
    say s!"✅ Marked TODO {index} as done: {text.display}"

/-- Deletes a todo from a task and prints the todos left. -/
def deleteTodo (id : Value) (index : Int) : WorkspaceM Unit := do
  let data ← load
  match ← lift (findTask data id) with
  | none => sayMissing id
  | some i =>
    let t := data.getD i .null
    let todos ← lift (t.item "todos")
    if !todos.truthy then
      say s!"❌ Task '{id.display}' has no TODO items to delete."
      return
    let n ← lift todos.count
    if index < 0 || index ≥ n then
      sayBadIndex index todos
      return
    let text ← lift ((← lift (todos.atIndex index)).item "text")
    let todos ← lift (todos.removeAt index)
    let t := (t.set "todos" todos).set "updated" (← stampNow)
    save (data.set i t)
    say s!"🗑️  Deleted TODO {index}: {text.display}"
    if todos.truthy then
      say "   Remaining TODO items:"
      sayTodos "   " todos
    else say "   No TODO items remaining."

/-- Sets a task's status. -/
def setStatus (id status : Value) : WorkspaceM Unit := do
  let data ← load
  match ← lift (findTask data id) with
  | none => sayMissing id
  | some i =>
    let t := ((data.getD i .null).set "status" status).set "updated" (← stampNow)
    save (data.set i t)
    say s!"✅ Updated task '{id.display}' status to '{status.display}'"

/-- Writes the interruption tracker's file. -/
def saveInterruptions : WorkspaceM Unit := do
  let w ← get
  let doc := Value.obj [("current_task", w.interruptions.current),
    ("interrupted_tasks", w.interruptions.interrupted), ("last_updated", .str (← utcIso))]
  setFiles fun f => { f with interruptions := some (Value.write .fileAscii doc) }

/-- Removes a task from the interruption tracker: as current task, and from the entries. -/
def forgetInterrupted (id : Value) : WorkspaceM Unit := do
  let im := (← get).interruptions
  if im.current.truthy then
    if (← lift (im.current.item "task_id")).same id then
      modify fun w => { w with interruptions := { w.interruptions with current := .null, shared := 0 } }
      saveInterruptions
      say "   Also removed from active task"
  let im := (← get).interruptions
  let entries ← lift im.interrupted.elems
  let keep ← lift (entries.mapM fun e => do return !(← e.item "task_id").same id)
  let kept := (entries.zip keep).filter (·.2) |>.map (·.1)
  let tail := (keep.drop (keep.length - im.shared)).filter (· == true)
  let shared := if im.current.truthy then tail.length else 0
  modify fun w => { w with interruptions := { w.interruptions with interrupted := .arr kept, shared := shared } }
  saveInterruptions
  say "   Also removed from interrupted tasks"

/-- The lines of a note kept when the lines naming a task go: a line naming it goes, and so do
the lines after it up to and including the next blank one. -/
def keepLines (id : String) : List String → Bool → List String
  | [], _ => []
  | l :: rest, skip =>
    if Text.has l id then keepLines id rest true
    else if skip && Text.strip l == "" then keepLines id rest false
    else if skip then keepLines id rest true
    else l :: keepLines id rest false

/-- Removes a task's lines from the session note, and clears the saved cursor session's task
when it names the task. -/
def forgetInFiles (id : Value) : WorkspaceM Unit := do
  if let some content := (← get).files.note then
    if ← lift ((Value.str content).holds id) then
      let idText := id.display
      let kept := keepLines idText (Text.splitOn content "\n") false
      setFiles fun f => { f with note := some ("\n".intercalate kept) }
      say "   Also cleaned up memory-bank/current-session.md"
  if let some text := (← get).files.cursor then
    let r ← attempt do
      let doc ← match Json.read text with
        | .ok d => pure d
        | .error e => throw (.unreadable e text)
      let session ← lift (doc.lookup "cursor_session" (.obj []))
      let task ← lift (session.lookup "current_task" (.str ""))
      if ← lift (task.holds id) then
        let s ← lift (doc.item "cursor_session")
        let s ← lift (s.setItem "current_task" (.str ""))
        let doc ← lift (doc.setItem "cursor_session" s)
        let s ← lift (doc.item "cursor_session")
        let s ← lift (s.setItem "progress" (.float 0.0))
        let doc ← lift (doc.setItem "cursor_session" s)
        setFiles fun f => { f with cursor := some (Value.write .fileAscii doc) }
        say "   Also cleaned up cursor_state.json"
    if let .error e := r then say s!"   Note: Could not clean up cursor state: {e.message}"

/-- Deletes a task for good, and removes it from the interruption tracker, the session note
and the saved cursor session. -/
def hardDelete (id : Value) : WorkspaceM Unit := do
  let data ← load
  let keep ← lift (data.mapM fun t => do return !(← t.item "id").same id)
  let kept := (data.zip keep).filter (·.2) |>.map (·.1)
  if kept.length < data.length then
    save kept
    say s!"🗑️  Completely deleted task '{id.display}' from memory"
    if let .error e ← attempt (forgetInterrupted id) then
      say s!"   Note: Could not clean up interruption state: {e.message}"
    if let .error e ← attempt (forgetInFiles id) then
      say s!"   Note: Could not clean up memory-bank files: {e.message}"
  else sayMissing id

/-- Removes every completed task. -/
def cleanupCompleted : WorkspaceM Unit := do
  let data ← load
  let kept := data.filter fun t => !(t.getD "status" .null).same (.str "completed")
  let removed := data.length - kept.length
  if removed > 0 then
    save kept
    say s!"🧹 Cleaned up {removed} completed task(s) from memory"
  else say "ℹ️  No completed tasks to clean up"

/-- Prints a task's fields and todos. -/
def showTask (id : Value) : WorkspaceM Unit := do
  let data ← load
  match ← lift (findTask data id) with
  | none => sayMissing id
  | some i =>
    let t := data.getD i .null
    say "\n📋 Task Details:"
    for (label, key) in [("ID", "id"), ("Description", "description"), ("Status", "status"),
        ("Created", "created"), ("Updated", "updated")] do
      say s!"   {label}: {(← lift (t.item key)).display}"
    let todos ← lift (t.item "todos")
    if todos.truthy then
      say s!"   TODO Items ({← lift todos.count}):"
      let _ ← (← lift todos.elems).foldlM (fun i todo => do
        let done := (← lift (todo.item "done")).truthy
        let mark := if done then "✔" else "✗"
        let state := if done then "DONE" else "PENDING"
        let text ← field todo "text"
        say s!"     [{mark}] {i}. {text} ({state})"
        pure (i + 1)) 0
    else say "   TODO Items: None (use 'add' command to add TODO items)"

/-- Prints a task as the listing shows it. -/
def printTask (t : Value) : WorkspaceM Unit := do
  let id ← field t "id"
  say s!"🗒️  {id}"
  let d ← field t "description"
  say s!"   Description: {d}"
  let st ← field t "status"
  say s!"   Status: {st}"
  let todos ← lift (t.item "todos")
  if todos.truthy then
    say s!"   TODO Items ({← lift todos.count}):"
    sayTodos "     " todos
  else say "   📝 No TODO items (use 'add' command to add TODO items)"
  say ""

end Taskflow.Queue
