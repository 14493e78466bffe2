import Taskflow.Review.Detect
import Taskflow.Command.Args
import Taskflow.Json.Access
import Taskflow.Json.Read
import Taskflow.Json.Write
import Taskflow.Fault
/-!
Reviewing one phase of a plan against a repository, and the command line that does it.
-/

namespace Taskflow.Review

open Json Repo Text

def leave {α : Type} (message : String) : Except Fault α := .error (.exit (.note message))

/-- The title and text of phase `index` of the plan's first task. -/
def phaseText (tasks : Value) (index : Int) : Except Fault (String × String) := do
  if !tasks.truthy then leave "no tasks present in tasks JSON"
  let task ← tasks.atIndex 0
  let todos := match task with
    | .obj _ => task.getD "todos" (.arr [])
    | _ => .arr []
  let some td := (match todos with
      | .arr xs => if 0 ≤ index && index < xs.length then xs[index.toNat]? else none
      | _ => none) | leave s!"invalid phase index: {index}"
  let .obj _ := td | leave "todo item is not an object"
  let text := (td.getD "text" (.str "")).display
  let title := strip (if (strip text).isEmpty then s!"PHASE {index}" else (lines text).headD "")
  return (title, text)

/-- The task list of a plan document: the document itself or its `tasks` member. -/
def tasksOf (doc : Value) : Except Fault Value :=
  let data := match doc with
    | .obj _ => (doc.get? "tasks").getD doc
    | d => d
  match data with
  | .arr _ => .ok data
  | _ => leave "tasks JSON must be a list of task objects"

/-- Reads a JSON document. -/
def readDoc (text : String) : Except Fault Value :=
  match read text with
  | .ok v => .ok v
  | .error e => .error (.unreadable e text)

/-- The plan's tasks, from a JSON text when one is given, else from a file of the tree. -/
def loadTasks (tree : Tree) (file json : Option String) : Except Fault Value := do
  let file := file.filter (· != "")
  let json := json.filter (· != "")
  match json, file with
  | none, none => leave "Provide --tasks-file or --tasks-json"
  | some j, _ => tasksOf (← readDoc j)
  | none, some f =>
    match tree.read f with
    | some text => tasksOf (← readDoc text)
    | none => leave s!"tasks file not found: {normal f}"

/-- The workflow files below a repository root: none when it has no workflow directory. -/
def workflowFiles (tree : Tree) (root : String) : Option (List (String × String)) :=
  let dir := under root ".github/workflows"
  if tree.exists dir then
    some ((tree.allBelow dir).filter fun f => [".yml", ".yaml"].contains (suffix (baseName f.1)))
  else none

/-- The audits of the whole repository that proactive mode adds. -/
def audits (tree : Tree) (root : String) (text : String) (files : List (String × String)) : List Finding :=
  let compose := under root "docker-compose.yml"
  let ports := match tree.read compose with
    | some t => portCollisions compose t
    | none => []
  let nonRoot := Pattern.test .caseless nonRootPattern text
  let tini := Pattern.test .caseless (.wholeWord "tini") text
  ciPolicyGaps text (workflowFiles tree root) ++ ports ++
    (if nonRoot || tini then globalDockerPolicies files nonRoot tini else [])

/-- The findings of the detectors a review of a phase text runs, in the order they run. -/
def phaseFindings (tree : Tree) (root text : String) (proactive : Bool) : List Finding :=
  let files := tree.scan root
  semanticDuplicates text files ++ architecturalConflicts text files ++
    missingDependencies text files ++ blindSpots text files ++
    (if proactive then audits tree root text files else [])

/-- The review of phase `index` of a plan against the repository at `root`. -/
def reviewPhase (tree : Tree) (root : String) (tasks : Value) (index : Int) (proactive : Bool) :
    Except Fault Value := do
  let (title, text) ← phaseText tasks index
  return .obj [("phase_index", .int index), ("title", .str title),
    ("findings", .arr ((merge (phaseFindings tree root text proactive)).map Finding.toValue))]

/-- The review command line's grammar. -/
def reviewGrammar : Command.Grammar :=
  { options := [{ name := "--tasks-file", dest := "tasks_file" }, { name := "--tasks-json", dest := "tasks_json" },
      { name := "--phase-index", dest := "phase_index", reading := .integer, required := true },
      { name := "--repo-root", dest := "repo_root" }, { name := "--output", dest := "output" },
      { name := "--proactive", dest := "proactive", takesValue := false }] }

/-- Runs the review command line in a tree: what it prints, and how it ends. -/
def reviewCommand (tree : Tree) (args : List String) : Except Fault String := do
  match reviewGrammar.parse args with
  | .failed => .error (.exit (.code 2))
  | .help => .error (.exit (.code 0))
  | .parsed vs =>
    let index : Int := match ((vs.find? (·.1 == "phase_index")).map (·.2) : Option Command.Given) with
      | some (.integer n) => n
      | _ => 0
    let root := match Command.textOf vs "repo_root" with
      | some r => if r.isEmpty then tree.home else r
      | none => tree.home
    if !tree.exists root then leave s!"repo root not found: {normal root}"
    let file := match Command.textOf vs "tasks_file" with
      | some f => if f.isEmpty then under root "memory-bank/queue-system/tasks_active.json" else f
      | none => under root "memory-bank/queue-system/tasks_active.json"
    let tasks ← loadTasks tree (some file) (Command.textOf vs "tasks_json")
    let report ← reviewPhase tree root tasks index (Command.flagOf vs "proactive")
    return report.write .file ++ "\n"

end Taskflow.Review
