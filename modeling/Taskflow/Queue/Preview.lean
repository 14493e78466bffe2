import Taskflow.Queue.Store
import Taskflow.Text.Fence
import Taskflow.Text.Numeral
/-!
Previewing the commands of a phase.
-/

namespace Taskflow.Queue

open Json Workspace Text

/-- The fenced blocks of a value: none for a false value; only a text can be searched. -/
def fencedBlocksOf (v : Value) : Except Fault (List String) :=
  if !v.truthy then .ok []
  else match v with
    | .str s => .ok (fencedBlocks s)
    | v => .error (.badKind s!"expected string or bytes-like object, got '{v.kindName}'")

def subStepMessage : String := "Invalid sub-index format. Use 'K' or 'K.N' (e.g., 4 or 4.1)"

/-- Reads a sub-step `K` or `K.N`: the phase, and the command's position from 0. -/
def readSubStep (s : String) : Option (Int × Option Int) :=
  match Text.splitOn s "." with
  | [k] => (Text.readInt k).toOption.map fun p => (p, none)
  | k :: rest => do
    let p ← (Text.readInt k).toOption
    let n ← (Text.readInt (".".intercalate rest)).toOption
    if n - 1 < 0 then none else some (p, some (n - 1))
  | [] => none

/-- Fills the placeholders of a command, one after another. -/
def fillPlaceholders (command taskId phase : String) (sub : Option String) : String :=
  let subs := match sub with
    | some n => [("<SUB_INDEX>", n), ("<sub_index>", n)]
    | none => []
  let pairs := [("<task_id ReplaceAll>", taskId), ("<task_id Replace All>", taskId),
    ("<task_id>", taskId), ("<TASK_ID>", taskId), ("<PHASE_INDEX>", phase),
    ("<phase_index>", phase)] ++ subs
  pairs.foldl (fun c p => Text.replace c p.1 p.2) command

/-- The commands of a block: its lines that are not blank and do not start with `#`. -/
def blockCommands (block : String) : List String :=
  (Text.lines block).filter fun l => strip l != "" && !startsWith (strip l) "#"

/-- Prints the chosen commands and the reminder that nothing ran. -/
def sayCommands (cmds : List String) : WorkspaceM Unit := do
  for c in cmds do say s!"   $ {c}"
  say "💡 Use '--run' to actually execute. Keeping it safe (preview only)."

/-- Prints the commands a sub-step names, filled in, without running them. -/
def previewSubStep (id : Value) (sub : Value) : WorkspaceM Unit := do
  let data ← load
  let some t := data.find? (fun t => (t.getD "id" .null).same id) | sayMissing id
  let some (phase, cmd) := (match sub with
      | .str s => readSubStep s
      | _ => none) | say s!"❌ {subStepMessage}"
  let todos ← lift (t.lookup "todos" (.arr []))
  if phase < 0 then
    say s!"❌ Invalid phase index {phase}. Valid range is 0 to {((← lift todos.count) : Int) - 1}"
    return
  let n ← lift todos.count
  if phase ≥ n then
    say s!"❌ Invalid phase index {phase}. Valid range is 0 to {(n : Int) - 1}"
    return
  let step ← lift (todos.atIndex phase)
  let blocks ← lift (fencedBlocksOf (← lift (step.lookup "text" (.str ""))))
  let some block := blocks.head? | say "❌ No fenced code block found in this phase."
  let lines := blockCommands block
  let taskId ← if lines.isEmpty then pure "" else match id with
    | .str s => pure s
    | v => throw (.badKind s!"replace() argument 2 must be str, not {v.kindName}")
  let resolved := lines.map fun l =>
    fillPlaceholders l taskId (toString phase) (cmd.map fun c => toString (c + 1))
  if lines.isEmpty then
    say "❌ No executable lines found in the first fenced code block."
    return
  match cmd with
  | none =>
    say "🔎 Selected all commands in phase block (dry-run by default):"
    sayCommands resolved
  | some c =>
    if c ≥ lines.length then
      say s!"❌ Command index {c + 1} out of range (1..{lines.length})"
    else
      say s!"🔎 Selected command #{c + 1} (dry-run by default):"
      sayCommands ((resolved.drop c.toNat).take 1)

end Taskflow.Queue
