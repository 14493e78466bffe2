import Taskflow.Steps.Login
/-!
The ways a task text can be read as steps.
-/

namespace Taskflow.Steps

open Text Pattern

/-- A way of reading steps from sentences. -/
inductive Strategy where
  | chain
  | branches
  | sequence
  | parallel
  | inlineList
  | bulletList
  deriving DecidableEq, Repr

def pushNew (seen : List String) (key x : String) : List String :=
  if seen.contains key then seen else seen ++ [x]

/-! ### Chains of `if`, `else if` and `else` -/

/-- The label and the rest of one clause of a chain, if it is one. -/
def clauseLabel (cl : String) : Option (String × String) :=
  let t := lower cl
  if startsWith t "if" then some ("If", stripStart (drop cl 2))
  else if startsWith t "else if" then some ("Else-if", stripStart (drop cl 7))
  else if startsWith t "else" then some ("Else", stripStart (drop cl 4))
  else none

/-- A clause as a step: its condition before the first comma, its action after it. -/
def clauseStep (cl : String) : Option String :=
  let cl := strip cl
  if cl.isEmpty then none
  else (clauseLabel cl).map fun (label, content) =>
    let (cond, act) := match splitOn content "," with
      | [c] => ("", strip c)
      | c :: rest => (strip c, strip (join "," rest))
      | [] => ("", strip content)
    strip s!"[CONDITIONAL] {label} {cond}: {act}"

/-- `,` then blanks then `else`. -/
def commaElse : Pattern := seq [lit ',', many blank, str "else"]

/-- The steps of every sentence that starts with `if`: its clauses split at `;`, or at a comma
before `else` when there is no `;`. -/
def chainSteps (sentences : List String) : List String :=
  sentences.flatMap fun s =>
    if !startsWith (lower s) "if" then []
    else
      let clauses := splitOn s ";"
      let clauses := if clauses.length = 1 then Pattern.split {} commaElse s else clauses
      clauses.filterMap clauseStep

/-! ### Parallel work -/

def parallelWords : List String := ["in parallel", "simultaneously", "at the same time", "concurrently"]

/-- `in parallel`, an optional colon, blanks. -/
def inParallelForm : Pattern := seq [str "in parallel", opt (lit ':'), many blank]

/-- A separator of parallel parts. -/
def partSeparator : Pattern := alts [lit ',', str " and ", lit ';']

/-- A leading conjunction. -/
def leadingConjunction : Pattern :=
  seq [lineStart, group 1 (alts [str "and", lit '&', str "then"]), plus blank]

/-- The parts of a sentence that names parallel work: the pieces between separators, stripped,
each without a leading conjunction. -/
def parallelParts (s : String) : List String :=
  if !parallelWords.any (has s) then []
  else
    let core := Pattern.replace .caseless inParallelForm "" s
    let parts := ((Pattern.split {} partSeparator core).map strip).filter (!·.isEmpty)
    parts.map (Pattern.replace .caseless leadingConjunction "")

/-- Adds a part, capitalised and marked, unless it is empty or the steps hold the part itself. -/
def pushParallelPart (steps : List String) (p : String) : List String :=
  if p.isEmpty ∨ steps.contains p then steps else steps ++ ["[PARALLEL] " ++ capitalize p]

/-- The parallel parts of sentences that name parallel work, each capitalised and marked. A part
is skipped only when the steps already hold the part itself. -/
def parallelSteps (sentences : List String) : List String :=
  (sentences.flatMap parallelParts).foldl pushParallelPart []

/-! ### Inline lists -/

/-- A dash item: `-`, blanks, then text up to a line end, comma or semicolon. -/
def dashItem : Pattern := seq [lit '-', many blank, group 1 (plus (notChars "\n,;"))]

/-- A letter item: a word-initial letter and `)`, then text up to a line end or semicolon. -/
def letterItem : Pattern :=
  seq [wordEdge, oneOf [.range 'a' 'z'], lit ')', many blank, group 1 (plus (notChars "\n;"))]

/-- A letter item at the start of a part. -/
def letterLead : Pattern := seq [oneOf [.range 'a' 'z'], lit ')', many blank, group 1 (plus dot)]

/-- Items of dash lists, then of letter lists split at `;`, each with its first letter raised. -/
def inlineSteps (sentences : List String) : List String :=
  let joined := join " " sentences
  let cs := joined.toList
  let dashes := (findAll {} dashItem cs).foldl (fun steps m =>
    let t := stripEndOf [',', ';'] (strip (m.groupD cs 1))
    if t.isEmpty ∨ steps.contains t then steps else steps ++ [upperFirst t]) []
  if !joined.contains ';' then dashes
  else (splitOn joined ";").foldl (fun steps part =>
    let part := strip part
    let ps := part.toList
    match matchStart .caseless letterLead ps with
    | some m =>
      let t := stripEndOf [','] (m.groupD ps 1)
      if t.isEmpty ∨ steps.contains t then steps else steps ++ [upperFirst t]
    | none => steps) dashes

/-! ### Bullet lists -/

/-- A bullet at the start of a line: blanks, then `-`, `*`, `•` or a number with `.` or `)`,
then blanks. -/
def bullet : Pattern :=
  seq [lineStart, many blank, alts [chars "-*•", seq [plus digit, chars ".)"]], plus blank]

/-- Adds the step of a line that starts with a bullet: the rest of the line, stripped, first
letter raised. A heading (ending in `:`), an empty step or one the steps hold is skipped. -/
def pushBulletLine (steps : List String) (line : String) : List String :=
  let ls := line.toList
  match matchStart .lines bullet ls with
  | some m =>
    let step := strip (String.ofList (ls.drop m.stop))
    if endsWith step ":" then steps
    else
      let step := upperFirst step
      if step.isEmpty ∨ steps.contains step then steps else steps ++ [step]
  | none => steps

/-- The lines that start with a bullet, without it, first letter raised; headings (ending in
`:`) are skipped. -/
def bulletSteps (sentences : List String) : List String :=
  sentences.foldl (fun steps s => (splitOn s "\n").foldl pushBulletLine steps) []

namespace Strategy

def all : List Strategy := [.chain, .branches, .sequence, .parallel, .inlineList, .bulletList]

/-- The strategy of a name. -/
def ofName? : String → Option Strategy
  | "compound_conditional" => some .chain
  | "conditional" => some .branches
  | "sequential" => some .sequence
  | "parallel" => some .parallel
  | "inline_list" => some .inlineList
  | "hierarchical" => some .bulletList
  | _ => none

/-- The strategy applies to a normalised text and its sentences. -/
def applies : Strategy → String → List String → Bool
  | .chain, n, _ => has n "else if" || (has n " if " && has n " else ")
  | .branches, n, _ => has n "[if]" || has n "if "
  | .sequence, n, ss => ["[seq_1]", "[seq_2]", "[seq_3]"].any (has n) || ss.length > 1
  | .parallel, n, _ => parallelWords.any (has n)
  | .inlineList, _, ss =>
    let j := join " " ss
    Pattern.test {} dashItem j || Pattern.test .caseless letterItem j
  | .bulletList, _, ss => Pattern.test .lines bullet (join "\n" ss)

/-- The steps the strategy reads from sentences. -/
def steps : Strategy → List String → List String
  | .chain, ss => chainSteps ss
  | .branches, ss => credentialBranches ss
  | .sequence, ss => loginActions ss
  | .parallel, ss => parallelSteps ss
  | .inlineList, ss => inlineSteps ss
  | .bulletList, ss => bulletSteps ss

end Strategy

end Taskflow.Steps
