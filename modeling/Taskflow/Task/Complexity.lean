import Taskflow.Text.Basic
/-!
How complex a task description reads.
-/

namespace Taskflow.Task

open Text

/-- How large a task is judged to be. -/
inductive Level where
  | simple
  | medium
  | complex
  deriving DecidableEq, Repr

/-- The name of a level as reports show it. -/
def Level.name : Level → String
  | .simple => "SIMPLE"
  | .medium => "MEDIUM"
  | .complex => "COMPLEX"

/-- The judgement on a task description. -/
structure Complexity where
  score : Int
  level : Level
  shouldChunk : Bool
  estimatedSubtasks : Nat
  reasoning : List String

def countPresent (phrases : List String) (text : String) : Nat :=
  (phrases.filter (fun p => has text p)).length

/-- Phrases that mark a small task. -/
def simplePhrases : List String :=
  ["fix typo", "update comment", "change variable", "add import", "remove unused", "format code",
   "simple", "quick", "minor", "gawa", "gawin", "maliit", "mabilis", "ayusin lang"]

/-- Phrases that mark a task of medium size. -/
def mediumPhrases : List String :=
  ["refactor", "optimize", "improve", "enhance", "update", "modify", "adjust", "tune",
   "pagandahin", "i-improve"]

/-- Phrases that mark a large task; `framework` is listed twice and so counts twice. -/
def complexPhrases : List String :=
  ["implement", "create", "build", "develop", "design", "architecture", "system", "framework",
   "comprehensive", "complete", "full", "extensive", "malawak", "malaki", "buo", "sistema",
   "framework", "build entire", "create system"]

/-- The level judgement of a task description. -/
def judge (description : String) : Complexity :=
  let t := lower description
  let s := countPresent simplePhrases t
  let m := countPresent mediumPhrases t
  let c := countPresent complexPhrases t
  let score : Int := -10 * (s : Int) + 5 * m + 20 * c
  let (level, chunk, n) :=
    if score ≤ 0 then (Level.simple, false, 1)
    else if score ≤ 30 then (Level.medium, true, 3)
    else (Level.complex, true, 5)
  let reasons :=
    (if s > 0 then [s!"Contains {s} simple task indicators"] else []) ++
    (if m > 0 then [s!"Contains {m} medium complexity indicators"] else []) ++
    (if c > 0 then [s!"Contains {c} complex task indicators"] else [])
  ⟨score, level, chunk, n, reasons⟩

/-- Phrases that raise the lane score by two. -/
def laneComplexPhrases : List String :=
  ["implement", "create", "build", "develop", "design", "architecture", "system", "framework",
   "comprehensive", "database", "authentication", "integration", "deployment", "api", "rest",
   "endpoint", "management", "pipeline"]

/-- Phrases of branching, raising the lane score by three. -/
def conditionalPhrases : List String :=
  ["if", "when", "unless", "kung", "kapag", "otherwise", "else", "then", "in case", "should",
   "might", "could"]

/-- Phrases of simultaneous work, raising the lane score by three. -/
def parallelPhrases : List String :=
  ["simultaneously", "at the same time", "in parallel", "concurrently", "while", "sabay", "kasabay"]

/-- The lane score of a task description, between 0 and 10. -/
def laneScore (task : String) : Nat :=
  let t := lower task
  let len := task.length
  let wc := (words task).length
  let raw : Int :=
    (if len > 100 then 1 else 0) + (if len > 200 then 1 else 0) -
    (countPresent simplePhrases t : Int) + 2 * countPresent laneComplexPhrases t +
    3 * countPresent conditionalPhrases t + 3 * countPresent parallelPhrases t +
    (if wc > 20 then 1 else 0) + (if wc > 40 then 2 else 0)
  (max 0 (min 10 raw)).toNat

/-- Which reader takes a description apart into steps. -/
inductive Lane where
  | rules
  | model
  deriving DecidableEq, Repr

def Lane.ofScore (score : Nat) : Lane := if score ≤ 3 then .rules else .model

/-- The name of a lane as reports show it. -/
def Lane.name : Lane → String
  | .rules => "Rule-Based"
  | .model => "LLM"

end Taskflow.Task
