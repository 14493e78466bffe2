import Taskflow.Steps.Sentence
import Taskflow.Text.Pattern.Search
import Taskflow.Json.Value
import Taskflow.Fault
/-!
Reading steps from marked text, where order words are `[SEQ_1]`, `[SEQ_2]`, `[SEQ_3]`,
conditions `[IF]`, and verdicts `CORRECT` and `INCORRECT`.
-/

namespace Taskflow.Steps

open Text Pattern

/-- Verbs of action, of every concept, in English and Tagalog. -/
def actionWords : List String :=
  ["create", "build", "gumawa", "magbuild", "gawa", "make", "new", "i-create", "scaffold", "setup",
   "generate", "instantiate", "compose", "mag-generate", "add", "dagdag", "add file", "add folder",
   "magdagdag", "add module",
   "update", "edit", "baguhin", "palitan", "revise", "amend", "modify", "tweak", "refactor", "change",
   "i-update", "i-edit", "revamp", "rework", "rename",
   "delete", "remove", "alisin", "burahin", "drop", "erase", "destroy", "magdelete", "uninstall",
   "i-delete", "tanggalin", "bura", "purge", "clean", "clear",
   "implement", "ipatupad", "apply", "mag-implement", "i-implement", "isagawa", "i-apply", "magpatupad",
   "execute", "mag-execute", "i-execute", "gamitin", "deploy", "ilunsad", "paganahin",
   "develop", "dev", "magdev", "i-develop", "gumawa", "i-dev", "design", "enhance", "improve", "dagdagan",
   "expand", "i-enhance", "magdagdag", "i-design", "idisenyo", "disenyo",
   "test", "itest", "i-test", "subukan", "run test", "check", "magtest", "i-check", "verify", "beripikahin",
   "suriin", "mag-subok", "unit test", "integration test", "validate", "i-validate", "mag-validate",
   "validate", "mag-validate", "i-validate", "patunayan", "beripikahin", "i-verify", "siguruhin", "lint",
   "run linter", "check code", "maglint", "i-lint",
   "deploy", "mag-deploy", "i-deploy", "ilunsad", "release", "publish", "push to prod", "rollout", "launch",
   "deploy to server", "deploy to production", "roll-out",
   "merge", "i-merge", "pagsamahin", "mag-merge", "combine", "pull request", "PR", "rebase", "integrate",
   "git merge", "i-integrate",
   "revert", "mag-revert", "i-revert", "bawiin", "rollback", "undo", "cancel changes", "reverse", "reset",
   "i-reset",
   "commit", "i-commit", "isave", "mag-commit", "save changes", "add commit", "git commit", "log changes",
   "commit changes"]

def containsAction (sentence : String) : Bool := actionWords.any (has (lower sentence))

/-- The marks removed from step texts, in the order they are removed. -/
def marks : List String := ["[SEQ_1]", "[SEQ_2]", "[SEQ_3]", "[IF]", "CORRECT", "INCORRECT"]

/-- Removes one mark: between spaces, at the start, at the end, then anywhere. -/
def removeMark (s mark : String) : String :=
  let s := Text.replace s (" " ++ mark ++ " ") " "
  let s := if startsWith s (mark ++ " ") then drop s (mark.length + 1) else s
  let s := if endsWith s (" " ++ mark) then take s (s.length - mark.length - 1) else s
  Text.replace s mark ""

/-- Runs of blanks. -/
def blankRun : Pattern := plus blank

/-- A step text without marks, with single spaces, no space before `,`, `.` or `:`, a raised
first letter, and no trailing commas. -/
def cleanSentence (sentence : String) : String :=
  let s := marks.foldl removeMark sentence
  let s := strip (Pattern.replace {} blankRun " " s)
  let s := Text.replace (Text.replace (Text.replace s " ," ",") " ." ".") " :" ":"
  let s := match s.toList with
    | c :: _ => if isLowerChar c then upperFirst s else s
    | [] => s
  stripEndOf [','] s

/-- Whether a step is an action or a credential branch. -/
inductive StepKind where
  | action
  | branch
  deriving DecidableEq, Repr

/-- A step read from marked text. -/
structure MarkedStep where
  kind : StepKind
  /-- `success` or `failure`, for a branch. -/
  condition : Option String
  content : String
  order : Nat

/-- The step as a JSON object. -/
def MarkedStep.toValue (s : MarkedStep) : Json.Value :=
  match s.kind, s.condition with
  | .branch, some c =>
    .obj [("type", .str "conditional"), ("condition", .str c), ("content", .str s.content), ("order", .int s.order)]
  | .branch, none => .obj [("type", .str "conditional"), ("content", .str s.content), ("order", .int s.order)]
  | .action, _ => .obj [("type", .str "action"), ("content", .str s.content), ("order", .int s.order)]

/-- An ordered action, if the sentence holds more than ten characters once its order marks go:
order 0 for `[SEQ_1]`, 1 for `[SEQ_2]`, else 2. -/
def sequentialStep (sentence : String) : Option MarkedStep :=
  let content := ["[SEQ_1]", "[SEQ_2]", "[SEQ_3]"].foldl (fun c m => strip (Text.replace c m "")) sentence
  let content := cleanSentence content
  if content.length > 10 then
    some ⟨.action, none, content,
      if has sentence "[SEQ_1]" then 0 else if has sentence "[SEQ_2]" then 1 else 2⟩
  else none

/-- `VERDICT`, anything, a `:` or `,`, blanks, then the action up to `end`. -/
def verdictAction (verdict : String) (stop : Pattern) : Pattern :=
  seq [str verdict, manyLazy dot, chars ":,", many blank, group 1 (plusLazy dot), stop]

/-- The end of an action in a part of a sentence: `[IF]` or the end. -/
def partEnd : Pattern := alts [str "[IF]", lineEnd]

/-- The end of an action in a whole sentence: `.` or the end. -/
def sentenceEnd : Pattern := alts [lit '.', lineEnd]

/-- The branch read by a form from a text, with its condition and order. -/
def branchStep (form : Pattern) (text condition : String) (order : Nat) : Option MarkedStep :=
  let cs := text.toList
  (Pattern.search .caseless form cs).map fun m =>
    let verdict := if condition = "success" then "correct" else "incorrect"
    ⟨.branch, some condition,
      s!"[CONDITIONAL] If credentials are {verdict}: " ++ cleanSentence (strip (m.groupD cs 1)), order⟩

/-- The credential branches of a sentence with `[IF]`. With both verdicts, each `.`-part that has
`[IF]` gives the branch of its verdict; with one, the sentence gives that branch. -/
def markedBranches (sentence : String) : List MarkedStep :=
  if has sentence "CORRECT" ∧ has sentence "INCORRECT" then
    (splitOn sentence ".").filterMap fun part =>
      if has part "[IF]" ∧ has part "CORRECT" ∧ !has part "INCORRECT" then
        branchStep (verdictAction "CORRECT" partEnd) part "success" 0
      else if has part "[IF]" ∧ has part "INCORRECT" then
        branchStep (verdictAction "INCORRECT" partEnd) part "failure" 1
      else none
  else if has sentence "CORRECT" then
    (branchStep (verdictAction "CORRECT" sentenceEnd) sentence "success" 0).toList
  else if has sentence "INCORRECT" then
    (branchStep (verdictAction "INCORRECT" sentenceEnd) sentence "failure" 1).toList
  else []

/-- Adds steps whose lower-cased text was not seen yet. -/
def addUnseen (acc : List MarkedStep × List String) (xs : List MarkedStep) : List MarkedStep × List String :=
  xs.foldl (fun (steps, seen) x =>
    let key := lower x.content
    if seen.contains key then (steps, seen) else (steps ++ [x], seen ++ [key])) acc

/-- The steps of a marked text: actions first, then branches, each group by order, ties kept
in reading order. -/
def markedSteps (text : String) : List MarkedStep :=
  let (steps, _) := (sentences text).foldl (fun acc s =>
    let s := strip s
    if s.isEmpty then acc
    else if has s "[IF]" then addUnseen acc (markedBranches s)
    else if ["[SEQ_1]", "[SEQ_2]", "[SEQ_3]"].any (has s) then addUnseen acc (sequentialStep s).toList
    else if containsAction s then addUnseen acc [⟨.action, none, cleanSentence s, acc.1.length⟩]
    else acc) ([], [])
  let group (x : MarkedStep) : Nat := if x.kind = .action then 0 else 1
  steps.mergeSort fun a b => group a < group b || (group a == group b && a.order ≤ b.order)

/-- Marking order words in a text fails at the first marker: its token is a list, which
cannot be joined with a text. -/
def markOrderWords (_text : String) : Except Fault String :=
  .error (.badKind "can only concatenate list (not \"str\") to list")

/-- The member of a step object, or a missing-key fault. -/
def member (v : Json.Value) (k : String) : Except Fault Json.Value :=
  match v with
  | .obj _ => match v.get? k with
    | some x => .ok x
    | none => .error (.missingKey (.str k))
  | _ => .error (.badKind s!"{v.kindName} indices must be integers")

/-- The contents of step objects, actions first and then branches, each in the given order.
Every step must have a `type`, and every kept step a `content`. -/
def finalSteps (steps : List Json.Value) : Except Fault (List Json.Value) := do
  let kinds ← steps.mapM fun s => member s "type"
  let pairs := steps.zip kinds
  let actions := pairs.filter (fun p => p.2.isStr "action")
  let branches := pairs.filter (fun p => p.2.isStr "conditional")
  (actions ++ branches).mapM fun p => member p.1 "content"

end Taskflow.Steps
