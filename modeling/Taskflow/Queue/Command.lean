import Taskflow.Command.Args
import Taskflow.Queue.Store
import Taskflow.Queue.Preview
import Taskflow.Queue.Gate
/-!
The todo command line: a command word (`new`, `add`, `done`, `delete`, `list`, `show`,
`hard_delete`, `cleanup`, `exec`) and its arguments, run against the workspace.
-/

namespace Taskflow.Queue

open Json Workspace Command

/-- How a run of the command line ends: normally, or by exiting with a status. -/
inductive Ending where
  | finished
  | exit (code : Nat)
  deriving DecidableEq, Repr

def modeOpt : Opt :=
  { name := "--mode", dest := "mode", choices := ["execution", "analysis"], default := .text "execution" }

def runOpt : Opt := { name := "--run", dest := "run", takesValue := false }

/-- The command words and their grammars. -/
def commandGrammars : List (String × Grammar) :=
  [("new", { options := [modeOpt], positionals := ["description"] }),
   ("add", { options := [modeOpt], positionals := ["task_id", "text"] }),
   ("done", { options := [modeOpt], positionals := ["task_id", "index"] }),
   ("delete", { options := [modeOpt], positionals := ["task_id", "index"] }),
   ("list", { options := [modeOpt] }),
   ("show", { options := [modeOpt], positionals := ["task_id"] }),
   ("hard_delete", { options := [modeOpt], positionals := ["task_id"] }),
   ("cleanup", { options := [modeOpt] }),
   ("exec", { options := [runOpt], positionals := ["task_id", "sub_index"] })]

/-- The queue a mode names. -/
def ofMode : String → Queue
  | "analysis" => .analysis
  | _ => .execution

def useQueue (q : Queue) : WorkspaceM Unit := modify fun w => { w with queue := q }

/-- Chooses the queue a mode value names: `analysis` the analysis queue, any other value the
execution queue. -/
def useMode (mode : Value) : WorkspaceM Unit :=
  useQueue (match mode with
    | .str s => Queue.ofMode s
    | _ => .execution)

/-- Reads a todo index, or prints why it cannot be one; `verb` names the command in the hint. -/
def readIndex (verb raw : String) : WorkspaceM (Option Int) := do
  match Text.readInt raw with
  | .ok n => return some n
  | .error _ =>
    if raw == "—" || raw == "-" then say "❌ Invalid index format. Please use a number (0, 1, 2, etc.)"
    else say s!"❌ Invalid index '{raw}'. Please use a number (0, 1, 2, etc.)"
    say s!"   Example: python3 todo_manager.py {verb} <task_id> 0"
    return none

/-- Prints the open tasks of the execution queue, or a hint when there are none. -/
def sayOpenTasks : WorkspaceM Unit := do
  useQueue .execution
  let tasks ← listOpen
  if tasks.isEmpty then
    say "🔎 No open tasks found."
    say "   Use 'python3 todo_manager.py new <description>' to create a new task"
  else
    say s!"🔎 {tasks.length} open tasks:"
    for t in tasks do
      printTask t
      say ""

/-- Runs a parsed command. -/
def runCommand (vs : List (String × Given)) : WorkspaceM Unit := do
  let arg := fun (k : String) => Value.str ((textOf vs k).getD "")
  let mode := (textOf vs "mode").getD "execution"
  match textOf vs "cmd" with
  | some "new" => useQueue (Queue.ofMode mode); let _ ← newTask (arg "description")
  | some "add" => useQueue (Queue.ofMode mode); addTodo (arg "task_id") (arg "text")
  | some "done" =>
    useQueue (Queue.ofMode mode)
    let some i ← readIndex "done" ((textOf vs "index").getD "") | return
    if mode == "execution" then
      let (ok, msg) ← gate (arg "task_id")
      if !ok then
        say s!"⛔ Deep Analysis Gate BLOCK: {msg}"
        return
    markDone (arg "task_id") i
  | some "delete" =>
    useQueue (Queue.ofMode mode)
    let some i ← readIndex "delete" ((textOf vs "index").getD "") | return
    deleteTodo (arg "task_id") i
  | some "exec" => previewSubStep (arg "task_id") (arg "sub_index")
  | some "show" => useQueue (Queue.ofMode mode); showTask (arg "task_id")
  | some "hard_delete" => useQueue (Queue.ofMode mode); hardDelete (arg "task_id")
  | some "cleanup" => useQueue (Queue.ofMode mode); cleanupCompleted
  | _ => sayOpenTasks

/-- Runs the todo command line on an argument list. -/
def runTodoCommand (args : List String) : WorkspaceM Ending := do
  match parseCommands commandGrammars args with
  | .failed => return .exit 2
  | .help => return .exit 0
  | .parsed vs => runCommand vs; return .finished

end Taskflow.Queue
