import Taskflow.Queue.Store
/-!
The interruption tracker: one current task, and the tasks it interrupted, waiting to be
resumed.
-/

namespace Taskflow.Workspace

open Json Queue

def setInterruptions (f : Interruptions → Interruptions) : WorkspaceM Unit :=
  modify fun w => { w with interruptions := f w.interruptions }

/-- The tracker as a file holds it at the start: its current task and waiting entries, or an
empty tracker when the file is absent, unreadable or not an object. -/
def Interruptions.ofFile (text : Option String) : Interruptions :=
  match readJson? text with
  | some (.obj kvs) =>
    let doc := Value.obj kvs
    { current := doc.getD "current_task" .null, interrupted := doc.getD "interrupted_tasks" (.arr []) }
  | _ => {}

/-- Applies a change to the current task, and to the waiting entries that are that task. -/
def changeCurrent (f : Value → Except Fault Value) : WorkspaceM Unit := do
  let im := (← get).interruptions
  let c ← lift (f im.current)
  let waiting := match im.interrupted with
    | .arr xs =>
      let k := xs.length - im.shared
      .arr (xs.take k ++ (xs.drop k).map fun _ => c)
    | v => v
  setInterruptions fun s => { s with current := c, interrupted := waiting }

/-- Interrupts the current task, if there is one. -/
def interruptCurrent : WorkspaceM Unit := do
  if !(← get).interruptions.current.truthy then return
  let stamp := Value.str (← utcIso)
  changeCurrent fun c => c.setItem "status" (.str "interrupted")
  changeCurrent fun c => c.setItem "interrupted_at" stamp
  let im := (← get).interruptions
  let waiting ← lift (im.interrupted.push im.current)
  setInterruptions fun s => { s with interrupted := waiting, shared := s.shared + 1 }
  let c := im.current
  let d ← field c "description"
  say s!"⏸️  Interrupted task: {d}"
  let tid ← field c "task_id"
  say s!"   Task ID: {tid}"
  say "   Will resume automatically after current task"
  setStatus (← lift (c.item "task_id")) (.str "interrupted")

/-- Starts a task, interrupting the current one; returns the new task's identifier. -/
def startTask (description : Value) : WorkspaceM Value := do
  if (← get).interruptions.current.truthy then interruptCurrent
  let id ← newTask description
  let c := Value.obj [("task_id", id), ("description", description),
    ("started_at", .str (← utcIso)), ("status", .str "active")]
  setInterruptions fun s => { s with current := c, shared := 0 }
  saveInterruptions
  say s!"🚀 Started new task: {description.display}"
  say s!"   Task ID: {id.display}"
  return id

/-- Resumes every waiting task and clears the tracker. -/
def resumeAll : WorkspaceM Unit := do
  let im := (← get).interruptions
  if !im.interrupted.truthy then
    say "ℹ️  No interrupted tasks to resume"
    return
  say s!"🔄 Resuming {← lift im.interrupted.count} interrupted task(s)..."
  for t in ← lift im.interrupted.elems do
    let d ← field t "description"
    say s!"   📋 Resuming: {d}"
    let tid ← field t "task_id"
    say s!"      Task ID: {tid}"
    setStatus (← lift (t.item "task_id")) (.str "in_progress")
  setInterruptions fun _ => {}
  saveInterruptions
  say "✅ All interrupted tasks resumed"

/-- The tracker's state: current task, number of waiting entries, and the entries. -/
def interruptionStatus : WorkspaceM Value := do
  let im := (← get).interruptions
  let n ← lift im.interrupted.count
  return .obj [("current_task", im.current), ("interrupted_tasks_count", .int n),
    ("interrupted_tasks", im.interrupted)]

/-- Words that mark a command as new work. -/
def newWorkWords : List String :=
  ["new task", "create task", "add task", "start task", "gawa", "gawin", "gawain", "task",
   "trabaho", "implement", "create", "build", "develop", "fix", "solve", "resolve", "address"]

/-- A command names new work. -/
def namesNewWork (command : Value) : Except Fault Bool :=
  match command with
  | .str s => let low := Text.lower s; .ok (newWorkWords.any fun w => Text.has low w)
  | v => .error (.noMethod v.kindName "lower")

/-- The tracker described line by line. -/
def describeStatus (status : Value) : WorkspaceM String := do
  let current := status.getD "current_task" .null
  let mut lines := ["📊 Task Interruption Status:"]
  if current.truthy then
    match current with
    | .str cid =>
      let tasks ← listOpen
      let mut found : Option Value := none
      for t in tasks do
        if found.isNone then
          if (← lift (t.item "id")).same current then found := some t
      match found with
      | some t =>
        let d ← field t "description"
        let tid ← field t "id"
        let st ← field t "status"
        lines := lines ++ [s!"   🚀 Current Task: {d}", s!"      ID: {tid}", s!"      Status: {st}"]
      | none =>
        lines := lines ++ [s!"   🚀 Current Task ID: {cid} (details not found)", s!"      ID: {cid}",
          "      Status: Unknown"]
    | c =>
      let d ← field c "description"
      let tid ← field c "task_id"
      let st ← field c "status"
      lines := lines ++ [s!"   🚀 Current Task: {d}", s!"      ID: {tid}", s!"      Status: {st}"]
  else lines := lines ++ ["   ℹ️  No current task"]
  let count := status.getD "interrupted_tasks_count" (.int 0)
  let waiting : Bool := match count with
    | .int n => decide (n > 0)
    | _ => false
  if waiting then
    lines := lines ++ [s!"   ⏸️  Interrupted Tasks: {count.display}"]
    let mut i := 1
    for t in ← lift (status.getD "interrupted_tasks" (.arr [])).elems do
      let d ← field t "description"
      let tid ← field t "task_id"
      lines := lines ++ [s!"      {i}. {d}", s!"         ID: {tid}"]
      i := i + 1
  else lines := lines ++ ["   ℹ️  No interrupted tasks"]
  return "\n".intercalate lines

/-- Handles a command: new work starts a task, a resume request resumes, a status request
describes the tracker, anything else continues the current task. -/
def handleInterruption (command : Value) : WorkspaceM String := do
  if ← lift (namesNewWork command) then
    let id ← startTask command
    return s!"🔄 Automatically interrupted previous task and started new task: {id.display}"
  let low := match command with
    | .str s => Text.lower s
    | _ => ""
  if Text.has low "resume" || Text.has low "ipagpatuloy" then
    resumeAll
    return "✅ Resumed all interrupted tasks"
  if Text.has low "status" || Text.has low "anong ginagawa" then
    return ← describeStatus (← interruptionStatus)
  let c := (← get).interruptions.current
  if c.truthy then
    let d ← field c "description"
    return s!"📋 Continuing with current task: {d}"
  return "📋 Continuing with current task: None"

end Taskflow.Workspace
