import Taskflow.Steps.Sentence
import Taskflow.Steps.Normalise
import Taskflow.Steps.Strategy
import Taskflow.Steps.Fallback
import Taskflow.Task.Complexity
import Taskflow.Json.Show
/-!
Taking a task description apart into steps.
-/

namespace Taskflow.Steps

open Text Json

/-- The steps the rules lane reads from a task. -/
def ruleSteps (task : String) : List String :=
  let n := normalise task
  let ss := sentences n
  let found := Strategy.all.foldl (fun acc st =>
    if st.applies n ss then (st.steps ss).foldl (fun acc x => if acc.contains x then acc else acc ++ [x]) acc
    else acc) []
  match completeLogin (join " " ss) found with
  | [] => fallbackSteps task
  | steps => steps

/-- Words that make a line of a reply read as a step. -/
def actionVerbs : List String :=
  ["create", "make", "build", "update", "modify", "fix", "repair", "delete", "remove", "test",
   "check", "verify", "configure", "setup", "install", "deploy", "gumawa", "ayusin", "gawin"]

/-- A leading numeral, dot, dash, star or plus, and the blanks after it. -/
def listMark : Pattern :=
  Pattern.seq [.lineStart, .oneOf [.digit, .single '.', .single '-', .single '*', .single '+'], Pattern.many Pattern.blank]

/-- The step a line of free text gives: the line, stripped, without one leading list mark, when
it names an action verb, or is longer than ten characters and names a branch, parallel work or
set-up. Blank lines and the headings `task:`, `steps:` and `requirements:` give none. -/
def stepOfLine (line : String) : Option String :=
  let line := strip line
  let t := lower line
  if line.isEmpty ∨ startsWith t "task:" ∨ startsWith t "steps:" ∨ startsWith t "requirements:" then none
  else
    let cleaned := strip (Pattern.replace {} listMark "" line)
    let c := lower cleaned
    if actionVerbs.any (has c) then some cleaned
    else if cleaned.length > 10 ∧ ["if", "parallel", "then", "configure", "setup"].any (has c) then some cleaned
    else none

def stepsInText (text : String) : List String :=
  (splitOn text "\n").filterMap stepOfLine

/-- What the language model did when asked. -/
inductive ModelReply where
  | answered (v : Value)
  | failed (message : String)

/-- One step of a model's list: a description field, else the first text field longer than
five characters, else the item as it shows. -/
def itemStep (v : Value) : Value :=
  match v with
  | .obj kvs =>
    match v.get? "step_description" with
    | some d => d
    | none =>
      match v.get? "description" with
      | some d => d
      | none =>
        match kvs.find? (fun kv => match kv.2 with | .str s => s.length > 5 | _ => false) with
        | some kv => kv.2
        | none => .str v.shown
  | .str s => .str s
  | _ => .str v.shown

/-- The steps read from a model's reply, or `none` when the reply gives no usable list. -/
def replySteps : ModelReply → Option (List Value)
  | .failed _ => none
  | .answered v =>
    if !v.truthy then none
    else match v with
      | .obj _ =>
        match v.get? "steps" with
        | some (.arr items) => some (items.map itemStep)
        | some _ => none
        | none =>
          match v.get? "raw_response" with
          | some (.str raw) => some ((stepsInText raw).map .str)
          | _ => none
      | .str s => some ((stepsInText s).map .str)
      | _ => none

/-- The steps of the model lane: the reply's, or the rules lane's when the reply has none. -/
def modelSteps (task : String) (reply : ModelReply) : List Value :=
  (replySteps reply).getD ((ruleSteps task).map .str)

/-- The steps of a task and whether the model was asked: the rules lane for a lane score of at
most 3 or when no model is at hand, the model lane otherwise. -/
def extract (task : String) (model : Option ModelReply) : List Value × Bool :=
  match Task.Lane.ofScore (Task.laneScore task), model with
  | .model, some reply => (modelSteps task reply, true)
  | _, _ => ((ruleSteps task).map .str, false)

end Taskflow.Steps
