import Taskflow.Json.Access
/-!
Text rules: each names a pattern that must not occur in a file, with a severity and a message.
-/

namespace Taskflow.Lint

open Json

/-- A rule, as its record gives it. -/
structure Rule where
  name : Value
  description : Value
  severity : Value
  pattern : Value
  message : Value
  enabled : Value

/-- The members a rule must have, in the order a rule lists them. -/
def requiredMembers : List String := ["name", "description", "severity", "pattern", "message"]

def knownMembers : List String := requiredMembers ++ ["enabled"]

/-- Names quoted and listed as English lists them: `'a'`, `'a' and 'b'`, `'a', 'b', and 'c'`. -/
def listNames (ns : List String) : String :=
  let q := ns.map fun n => s!"'{n}'"
  match q with
  | [a] => a
  | [a, b] => a ++ " and " ++ b
  | _ => ", ".intercalate q.dropLast ++ ", and " ++ q.getLastD ""

/-- Why a record of members names no rule, if it does not. -/
def refusal (members : List (String × Value)) : Option String :=
  match members.find? fun kv => !knownMembers.contains kv.1 with
  | some ("self", _) => some "Rule.__init__() got multiple values for argument 'self'"
  | some (k, _) => some s!"Rule.__init__() got an unexpected keyword argument '{k}'"
  | none =>
    let missing := requiredMembers.filter fun k => !(members.any (·.1 == k))
    if missing.isEmpty then none
    else
      let plural := if missing.length == 1 then "" else "s"
      some s!"Rule.__init__() missing {missing.length} required positional argument{plural}: {listNames missing}"

/-- The rule a value describes. -/
def Rule.ofValue (v : Value) : Except Fault Rule :=
  match v with
  | .obj kvs =>
    match refusal kvs with
    | some m => .error (.badKind m)
    | none =>
      let get := fun k => v.getD k .null
      .ok ⟨get "name", get "description", get "severity", get "pattern", get "message",
        v.getD "enabled" (.bool true)⟩
  | v => .error (.badKind s!"core.Rule() argument after ** must be a mapping, not {v.kindName}")

/-- A rule as a record. -/
def Rule.toValue (r : Rule) : Value :=
  .obj [("name", r.name), ("description", r.description), ("severity", r.severity),
    ("pattern", r.pattern), ("message", r.message), ("enabled", r.enabled)]

/-- The rules a rules document lists. -/
def loadRules (doc : Value) : Except Fault (List Rule) := do
  let listed ← doc.lookup "rules" (.arr [])
  (← listed.elems).mapM Rule.ofValue

/-- The rules of a rules file, given its text. -/
def readRules (text : String) : Except Fault (List Rule) :=
  match read text with
  | .ok doc => loadRules doc
  | .error e => .error (.unreadable e text)

def report (r : Rule) (file : String) : Value :=
  .obj [("rule_name", r.name), ("severity", r.severity), ("message", r.message), ("file", .str file)]

/-- The reports of the enabled rules whose pattern occurs in a text, up to the first rule whose
pattern is not a text. -/
def reportsIn (file text : String) : List Rule → List Value
  | [] => []
  | r :: rs =>
    if !r.enabled.truthy then reportsIn file text rs
    else match r.pattern with
      | .str p => if Text.has text p then report r file :: reportsIn file text rs else reportsIn file text rs
      | _ => []

/-- The reports of checking a file, whose text is absent when it cannot be read. -/
def check (rules : List Rule) (file : String) (text : Option String) : List Value :=
  match text with
  | some t => reportsIn file t rules
  | none => []

end Taskflow.Lint
