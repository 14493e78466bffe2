import Taskflow.Workspace.Basic
/-!
The session note: a Markdown page in the memory folder that shows the cursor session, the
recently completed tasks and the open tasks.
-/

namespace Taskflow.Workspace

open Json

def cursorFields : List String :=
  ["current_file", "cursor_line", "current_task", "progress", "last_activity", "disconnected_at"]

/-- The line of an open task: its description and how many of its todos are not done. -/
def openLine (task : Value) : Except Fault String := do
  let d ← task.item "description"
  let todos ← (← task.item "todos").elems
  let left ← todos.filterM fun t => do return !(← t.item "done").truthy
  pure s!"- **{d.display}** ({left.length} todos left)"

/-- The open-task section of the note. -/
def openSection (tasks : Except Fault (List Value)) : List String :=
  match tasks with
  | .ok (t :: ts) => "## 🕒 Open Tasks (Todo Manager)" :: go (t :: ts)
  | _ => []
where
  /-- The task lines, then a blank line. -/
  go : List Value → List String
    | [] => [""]
    | t :: rest => match openLine t with
      | .ok l => l :: go rest
      | .error _ => []

/-- The last ten entries of a history, as a loop over `h[-10:]` visits them. -/
def lastTen (h : Value) : Except Fault (List Value) :=
  match h with
  | .arr xs => .ok (xs.drop (xs.length - 10))
  | .str s => Value.elems (.str (Text.drop s (s.length - 10)))
  | .obj _ => .error (.badKind "unhashable type: 'slice'")
  | v => .error (.badKind s!"'{v.kindName}' object is not subscriptable")

/-- The history section: present when the state has a non-empty `task_history`. -/
def historySection (state : Value) : Except Fault (List String) := do
  match state.get? "task_history" with
  | some h =>
    if h.truthy then
      let rows ← (← lastTen h).mapM fun it => do
        let c ← it.lookup "completed" (.str "—")
        let t ← it.lookup "task" (.str "—")
        pure s!"| {c.display} | {t.display} |"
      pure (["## ✅ Recently completed tasks", "| When | Task |", "|------|------|"] ++ rows ++ [""])
    else pure []
  | none => pure []

/-- The note for a session state; `listing` gives the open tasks and runs only when the
page gets that far. -/
def noteText (state : Value) (listing : WorkspaceM (List Value)) : WorkspaceM String := do
  let clock ← now
  let cursor ← lift (state.lookup "cursor_session" (.obj []))
  let rows ← lift (cursorFields.mapM fun k => do
    let v ← cursor.lookup k (.str "—")
    pure s!"| {k} | {v.display} |")
  let history ← lift (historySection state)
  let opens ← attempt listing
  let head := [s!"# 📝 Current Cursor Session — {clock.spaced} UTC", "", "| Field | Value |",
    "|-------|-------|"]
  pure ("\n".intercalate (head ++ rows ++ [""] ++ history ++ openSection opens))

/-- Writes the note for the cursor session held in memory. -/
def dumpNote (listing : WorkspaceM (List Value)) : WorkspaceM Unit := do
  let text ← noteText (← get).cursor listing
  setFiles fun f => { f with note := some text }

end Taskflow.Workspace
