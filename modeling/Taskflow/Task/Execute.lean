import Taskflow.Task.Chunk
import Taskflow.Task.Group
import Taskflow.Queue.Store
/-!
Setting up a task for execution: judging and cutting it, finding or creating it in the store,
and adding one todo per group of subtasks.
-/

namespace Taskflow.Task

open Json Workspace Queue

/-- A judgement as a record. -/
def Complexity.record (c : Complexity) : Value :=
  .obj [("score", .int c.score), ("level", .str c.level.name), ("should_chunk", .bool c.shouldChunk),
    ("estimated_subtasks", .int c.estimatedSubtasks), ("reasoning", .arr (c.reasoning.map .str))]

/-- A subtask as a record, pending and without dependencies. -/
def Subtask.record (s : Subtask) : Value :=
  .obj [("id", .str s.id), ("description", .str s.description), ("priority", .int s.priority),
    ("estimated_duration", .int s.minutes), ("dependencies", .arr []), ("status", .str "pending")]

/-- The record of a setup that failed. -/
def failedSetup (description message : String) : Value :=
  .obj [("execution_type", .str "ERROR"), ("error", .str message), ("status", .str "failed"),
    ("task_description", .str description)]

/-- Finds the open task with this description, or creates one: its id, and the task found. -/
def findOrCreate (description : String) : WorkspaceM (Value × Option Value) := do
  let tasks ← listOpen
  let mut found : Option Value := none
  for t in tasks do
    if found.isNone then
      if (← lift (t.item "description")).same (.str description) then found := some t
  match found with
  | some t => return (← lift (t.item "id"), some t)
  | none => return (← newTask (.str description), none)

/-- Adds a group's todo, or on failure one todo per subtask not yet present. -/
def addGroup (id : Value) (present : List Value) (heading : String) (subs : List Subtask) :
    WorkspaceM Unit := do
  if let .error _ ← attempt (addTodo id (.str (groupTodoText heading (subs.map (·.description))))) then
    for s in subs do
      if !Value.among (.str s.description) present then
        let _ ← attempt (addTodo id (.str s.description))

/-- Sets a task up for execution and reports how. -/
def executeTask (description : String) : WorkspaceM Value := do
  let ck := chunk description none
  let (id, existing) ← match ← attempt (findOrCreate description) with
    | .ok r => pure r
    | .error e => return failedSetup description s!"Task creation failed: {e.message}"
  let r ← attempt do
    let present ← match existing with
      | some t => lift ((← lift ((← lift (t.lookup "todos" (.arr []))).elems)).mapM (·.item "text"))
      | none => pure []
    for (heading, subs) in groupSubtasks ck.subtasks description do
      if !Value.among (.str heading) present then addGroup id present heading subs
    let total : Nat := (ck.subtasks.map (·.minutes)).foldl (· + ·) 0
    match ← attempt (setStatus id (.str "in_progress")) with
    | .error e =>
      let kind := if ck.complexity.shouldChunk then "COMPLEX_CHUNKED" else "SIMPLE_DIRECT"
      return Value.obj [("execution_type", .str kind), ("task_id", id), ("status", .str "failed"),
        ("error", .str e.message)]
    | .ok _ =>
      if ck.complexity.shouldChunk then
        let done := ck.subtasks.map fun s => Value.obj [("subtask_id", .str s.id),
          ("description", .str s.description), ("status", .str "completed"),
          ("duration", .int s.minutes)]
        return Value.obj [("execution_type", .str "COMPLEX_CHUNKED"), ("task_id", id),
          ("complexity", ck.complexity.record), ("subtasks", .arr done), ("status", .str "in_progress"),
          ("todos_added", .int ck.subtasks.length), ("total_duration", .int total),
          ("message", .str "Task created with TODOs. Please complete the actual work manually.")]
      else
        return Value.obj [("execution_type", .str "SIMPLE_DIRECT"), ("task_id", id),
          ("complexity", ck.complexity.record), ("subtasks", .arr (ck.subtasks.map Subtask.record)),
          ("status", .str "in_progress"), ("todos_added", .int ck.subtasks.length),
          ("duration", .int total),
          ("message", .str "Task created with TODOs. Please complete the actual work manually.")]
  match r with
  | .ok v => return v
  | .error e => return failedSetup description e.message

end Taskflow.Task
