import Taskflow.Json.Access
import Taskflow.Json.Read
import Taskflow.Fault
import Taskflow.Repo.Tree
/-!
Checking the memory server configuration: the servers that `memory.json` lists under
`mcpServers`, each with its URL, command and health check when it gives them.
-/

namespace Taskflow.Setup

open Json

/-- Actions that print lines and may stop with a fault, keeping what they printed. -/
abbrev Console := ExceptT Fault (StateM String)

def emit (line : String) : Console Unit := modify fun out => out ++ line ++ "\n"

/-- Runs a check that may fail. -/
def check {α : Type} (r : Except Fault α) : Console α :=
  match r with
  | .ok a => pure a
  | .error e => throw e

/-- Prints one server's settings. -/
def showServer (name : String) (cfg : Value) : Console Unit := do
  emit s!"  {name}:"
  for (key, label) in [("url", "URL"), ("command", "Command"), ("healthCheck", "Health Check")] do
    if ← check (cfg.holds (.str key)) then
      let v ← check (cfg.item key)
      emit s!"    {label}: {v.display}"

/-- The members of an object, as a mapping's items; other values have none. -/
def itemsOf (v : Value) : Except Fault (List (String × Value)) :=
  match v with
  | .obj kvs => .ok kvs
  | v => .error (.noMethod v.kindName "items")

/-- Checks the configuration file's text, if there is one, and returns the configuration. -/
def checkMemoryConfig (file : Option String) : Console Value := do
  let some raw := file | emit "❌ memory.json not found"; return .null
  let text := String.ofList (Repo.readLines raw.toList)
  let config ← match read text with
    | .ok v => pure v
    | .error e => throw (.unreadable e text)
  emit "📋 Current MCP Configuration:"
  if ← check (config.holds (.str "mcpServers")) then
    for (name, cfg) in ← check (itemsOf (← check (config.item "mcpServers"))) do
      showServer name cfg
  return config

end Taskflow.Setup
