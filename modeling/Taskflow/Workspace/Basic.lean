import Taskflow.Json.Access
import Taskflow.Json.Write
import Taskflow.Time.Layout
import Taskflow.Text.Basic
/-!
The workspace the task tools share: the files they keep, what they hold in memory between
calls, the clock, and the text they have printed.
-/

namespace Taskflow

open Json

/-- The task queue the store reads and writes. -/
inductive Queue where
  | execution
  | analysis
  deriving DecidableEq, Repr

/-- Where a queue's file lies in the workspace. -/
def Queue.path : Queue → String
  | .execution => "memory-bank/queue-system/tasks_active.json"
  | .analysis => "memory-bank/queue-system/analysis_active.json"

/-- The files of the workspace. -/
structure Files where
  /-- The execution queue. -/
  tasks : Option String := none
  /-- The analysis queue. -/
  analysis : Option String := none
  /-- The cursor session saved at the top of the workspace. -/
  cursor : Option String := none
  /-- The interruption tracker's file. -/
  interruptions : Option String := none
  /-- The task history with the cursor session. -/
  history : Option String := none
  /-- The session note in the memory folder. -/
  note : Option String := none
  /-- The memory folder's copy of the cursor session. -/
  cursorCopy : Option String := none
  /-- The memory folder's summary of the active task. -/
  taskCopy : Option String := none
  /-- The memory folder's copy of the interruption state. -/
  interruptionCopy : Option String := none

/-- What the interruption tracker holds: the current task, the interrupted entries, and how
many entries at the end of that list are the current task itself, so that a change to the
current task shows in them too. -/
structure Interruptions where
  current : Value := .null
  interrupted : Value := .arr []
  shared : Nat := 0

/-- The text of a queue's file. -/
def Files.queue (f : Files) : Queue → Option String
  | .execution => f.tasks
  | .analysis => f.analysis

/-- The whole state the task tools work on. -/
structure Workspace where
  /-- The present instant, as a UTC reading. -/
  clock : Time.Civil
  /-- The queue the store works on. -/
  queue : Queue := .execution
  files : Files := {}
  /-- The cursor session held in memory. -/
  cursor : Value := .obj []
  interruptions : Interruptions := {}
  /-- Everything printed so far. -/
  printed : String := ""

/-- Actions on the workspace that may stop with a fault. -/
abbrev WorkspaceM := ExceptT Fault (StateM Workspace)

namespace Workspace

def say (line : String) : WorkspaceM Unit :=
  modify fun w => { w with printed := w.printed ++ line ++ "\n" }

/-- Takes the result of a step that may fail. -/
def lift {α : Type} (r : Except Fault α) : WorkspaceM α :=
  match r with
  | .ok a => pure a
  | .error e => throw e

/-- Runs an action, catching its fault; changes made before the fault stay. -/
def attempt {α : Type} (act : WorkspaceM α) : WorkspaceM (Except Fault α) :=
  tryCatch (act.map .ok) (fun e => pure (.error e))

/-- The member `k` of a value as text; a value without it is a fault. -/
def field (v : Value) (k : String) : WorkspaceM String := return (← lift (v.item k)).display

def now : WorkspaceM Time.Civil := return (← get).clock

/-- The present instant as a UTC reading in ISO form, without offset. -/
def utcIso : WorkspaceM String := return (← now).iso

def manilaNow : WorkspaceM Time.Stamp := return Time.manila (← now)

def setFiles (f : Files → Files) : WorkspaceM Unit :=
  modify fun w => { w with files := f w.files }

/-- The text of the queue in use. -/
def queueText : WorkspaceM (Option String) := do
  let w ← get
  return match w.queue with
    | .execution => w.files.tasks
    | .analysis => w.files.analysis

/-- Writes the queue in use. -/
def writeQueue (text : String) : WorkspaceM Unit := do
  match (← get).queue with
  | .execution => setFiles fun f => { f with tasks := some text }
  | .analysis => setFiles fun f => { f with analysis := some text }

/-- A file's JSON value: `none` when the file is absent or not JSON. -/
def readJson? (text : Option String) : Option Value :=
  text.bind fun t => (Json.read t).toOption

end Workspace

end Taskflow
