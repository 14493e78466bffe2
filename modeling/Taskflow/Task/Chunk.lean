import Taskflow.Steps.Extract
/-!
Cutting a task into subtasks.
-/

namespace Taskflow.Task

open Text Json

/-- Leading bullet characters and the blanks after them. -/
def bulletLead : Pattern := Pattern.seq [.lineStart, Pattern.plus (Pattern.chars "-*•"), Pattern.many Pattern.blank]

/-- A leading Tagalog `i-` prefix. -/
def iLead : Pattern := Pattern.seq [.lineStart, Pattern.chars "iI", .lit '-']

/-- One action tidied: stripped, bullet and `i-` prefix removed, blanks collapsed, trailing dots
and spaces removed. -/
def tidyAction (s : String) : String :=
  let s := strip s
  let s := Pattern.replace {} bulletLead "" s
  let s := Pattern.replace {} iLead "" s
  let s := Pattern.replace {} (Pattern.plus Pattern.blank) " " s
  strip (stripEndOf ['.', ' '] s)

/-- Keeps the first of the texts that are equal ignoring case. -/
def dedupeIgnoringCase (xs : List String) : List String :=
  (xs.foldl (fun (acc : List String × List String) x =>
    let k := lower x
    if acc.2.contains k then acc else (acc.1 ++ [x], acc.2 ++ [k])) ([], [])).1

/-- The actions tidied: false items dropped, others shown as text, tidied, emptied ones dropped,
and each kept once ignoring case. -/
def tidyActions (actions : List Value) : List String :=
  let texts := actions.filterMap fun a =>
    if !a.truthy then none
    else
      let s := a.display
      if (strip s).isEmpty then none else some s
  dedupeIgnoringCase ((texts.map tidyAction).filter (!·.isEmpty))

/-- Minutes a subtask is expected to take, judged by its words. -/
def estimateMinutes (action : String) : Nat :=
  let t := lower action
  if ["quick", "simple", "minor", "fix"].any (has t) then 5
  else if ["analyze", "review", "check"].any (has t) then 15
  else if ["create", "build", "implement"].any (has t) then 30
  else 10

/-- A subtask of a chunked task. -/
structure Subtask where
  id : String
  description : String
  priority : Nat
  minutes : Nat

def subtasksOf (descriptions : List String) : List Subtask :=
  descriptions.zipIdx.map fun (d, i) => ⟨s!"subtask_{i + 1}", d, i + 1, estimateMinutes d⟩

/-- A task judged and cut into subtasks. -/
structure Chunked where
  complexity : Complexity
  subtasks : List Subtask
  modelAsked : Bool

/-- The task judged and cut: its steps, or one step that repeats the task when there are none,
tidied into subtasks. -/
def chunk (task : String) (model : Option Steps.ModelReply) : Chunked :=
  let (steps, asked) := Steps.extract task model
  let steps := if steps.isEmpty then [Value.str s!"Complete task: {task}"] else steps
  ⟨judge task, subtasksOf (tidyActions steps), asked⟩

end Taskflow.Task
