import Taskflow.Workspace.Basic
import Taskflow.Json.Sort
/-!
Keeping the memory folder in step with the execution queue.
-/

namespace Taskflow.Workspace

open Json

/-- The execution queue as a value; an absent or unreadable file reads as an empty list. -/
def queueValue : WorkspaceM Value :=
  return (readJson? (← get).files.tasks).getD (.arr [])

/-- The task a sync reports on: the latest updated of the tasks in progress, else of all. -/
def activeTask (tasks : Value) : Except Fault (Option Value) := do
  if !tasks.truthy then return none
  let items ← tasks.elems
  let busy ← items.filterM fun t => do return (← t.lookup "status" .null).same (.str "in_progress")
  let pool := if busy.isEmpty then items else busy
  let s := sortByKey (fun t => t.lookup "updated" (.str "")) true pool
  match s.fault with
  | some e => .error e
  | none => pure s.items.head?

/-- The share of a task's todos that are done; zero without todos. -/
def progressOf (task : Value) : Except Fault Float := do
  if !task.truthy then return 0.0
  let todos ← task.lookup "todos" .null
  if !todos.truthy then return 0.0
  let done ← (← todos.elems).filterM fun t => do return (← t.lookup "done" (.bool false)).truthy
  let total ← todos.count
  return if total > 0 then Decimal.ofNat done.length / Decimal.ofNat total else 0.0

/-- The cursor session a sync writes for the active task. -/
def cursorRecord (iso : String) (active : Option Value) : Except Fault Value := do
  let a := active.filter Value.truthy
  let task ← match a with
    | some t => t.lookup "description" (.str "")
    | none => pure (.str "")
  let progress ← match a with
    | some t => Value.float <$> progressOf t
    | none => pure (.float 0.0)
  let last ← match a with
    | some t => t.lookup "updated" (.str iso)
    | none => pure (.str iso)
  pure (.obj [("cursor_session", .obj [("disconnected_at", .str iso), ("current_task", task),
    ("progress", progress), ("last_activity", last)])])

/-- The summary of the active task a sync writes. -/
def taskRecord (iso : String) (active : Option Value) : Except Fault Value := do
  match active.filter Value.truthy with
  | none => pure (.obj [])
  | some t =>
    let id ← t.lookup "id" (.str "")
    let d ← t.lookup "description" (.str "")
    let st ← t.lookup "status" (.str "")
    let upd ← t.lookup "updated" (.str iso)
    let todos ← t.lookup "todos" (.arr [])
    let n ← todos.count
    let done ← ((← (← t.lookup "todos" (.arr [])).elems).filterM fun x => do
      return (← x.lookup "done" (.bool false)).truthy)
    pure (.obj [("current_task_id", id), ("current_task_description", d), ("status", st),
      ("last_updated", upd), ("todos_count", .int n), ("completed_todos", .int done.length)])

/-- The session note a sync writes. -/
def syncNoteText (stamp : Time.Stamp) (active : Option Value) (tasks : Value) :
    Except Fault String := do
  let iso := stamp.iso
  let busy ← (← tasks.elems).filterM fun t => do
    return (← t.lookup "status" .null).same (.str "in_progress")
  let a := active.filter Value.truthy
  let task ← match a with
    | some t => Value.display <$> t.lookup "description" (.str "No active task")
    | none => pure "No active task"
  let progress ← match a with
    | some t => Decimal.shownFloat.render <$> progressOf t
    | none => pure "0.0"
  let last ← match a with
    | some t => Value.display <$> t.lookup "updated" (.str iso)
    | none => pure iso
  let head := s!"# 📝 Current Cursor Session — {stamp.civil.twelveHour} PH\n\n" ++
    "| Field | Value |\n|-------|-------|\n| current_file | — |\n| cursor_line | — |\n" ++
    s!"| current_task | {task} |\n| progress | {progress} |\n| last_activity | {last} |\n" ++
    s!"| disconnected_at | {iso} |\n\n## 🕒 Open Tasks (Todo Manager)\n"
  let lines ← busy.mapM fun t => do
    let left ← (← (← t.lookup "todos" (.arr [])).elems).filterM fun x => do
      return !(← x.lookup "done" (.bool false)).truthy
    let d ← t.lookup "description" (.str "Unknown task")
    pure s!"- **{d.display}** ({left.length} todos left)\n"
  pure (head ++ String.join lines ++ (if busy.isEmpty then "- No active tasks\n" else ""))

/-- Writes the memory folder's files from the execution queue and reports the sync. -/
def autoSync : WorkspaceM Value := do
  let stamp ← manilaNow
  let iso := stamp.iso
  let r ← attempt do
    let tasks ← queueValue
    let active ← lift (activeTask tasks)
    if let .ok c := cursorRecord iso active then
      let text := Value.write .fileAscii c
      setFiles fun f => { f with cursorCopy := some text,
                                 cursor := f.cursor.map fun _ => text }
    if let .ok t := taskRecord iso active then
      setFiles fun f => { f with taskCopy := some (Value.write .fileAscii t) }
    let current := match active.filter Value.truthy with
      | some t => t.getD "id" .null
      | none => .null
    setFiles fun f => { f with interruptionCopy := some (Value.write .fileAscii (.obj
      [("current_task", current), ("interrupted_tasks", .arr []), ("last_updated", .str iso)])) }
    if let .ok n := syncNoteText stamp active tasks then
      setFiles fun f => { f with note := some n }
    let total ← lift tasks.count
    pure (.obj [("status", .str "success"), ("active_task", current), ("total_tasks", .int total),
      ("synced_at", .str iso)])
  match r with
  | .ok v => pure v
  | .error e => pure (.obj [("status", .str "error"), ("error", .str e.message), ("synced_at", .str iso)])

/-- Groups tasks by stripped description, groups in order of first appearance. -/
def groupByDescription (tasks : List Value) : Except Fault (List (String × List Value)) :=
  tasks.foldlM step []
where
  /-- Adds one task to its group. -/
  step (acc : List (String × List Value)) (t : Value) : Except Fault (List (String × List Value)) := do
    let d ← t.lookup "description" (.str "")
    let key ← match d with
      | .str s => pure (Text.strip s)
      | v => .error (.noMethod v.kindName "strip")
    pure (if acc.any (·.1 == key) then acc.map fun g => if g.1 == key then (g.1, g.2 ++ [t]) else g
      else acc ++ [(key, [t])])

/-- Keeps one task per stripped description and reports the counts. -/
def dropDuplicates : WorkspaceM Value := do
  let r ← attempt do
    let tasks ← queueValue
    let n ← lift tasks.count
    let groups ← lift (groupByDescription (← lift tasks.elems))
    let kept ← groups.mapM fun g => do
      if g.2.length > 1 then
        let s := sortByKey (fun t => t.lookup "updated" (.str "")) true g.2
        match s.fault with
        | some e => throw e
        | none => pure s.items.head?
      else pure g.2.head?
    let kept := kept.filterMap id
    setFiles fun f => { f with tasks := some (Value.write .fileAscii (.arr kept)) }
    pure (.obj [("status", .str "success"), ("original_count", .int n),
      ("final_count", .int kept.length), ("duplicates_removed", .int (n - kept.length))])
  match r with
  | .ok v => pure v
  | .error e => pure (.obj [("status", .str "error"), ("error", .str e.message)])

end Taskflow.Workspace
