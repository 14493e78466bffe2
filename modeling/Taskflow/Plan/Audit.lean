import Taskflow.Review.Bag
import Taskflow.Repo.Tree
import Taskflow.Command.Args
import Taskflow.Json.Access
import Taskflow.Json.Read
import Taskflow.Json.Show
import Taskflow.Text.Pattern.Search
import Taskflow.Text.Numeral
import Taskflow.Decimal.Layout
/-!
The strict audit of an analysis plan: each phase's number, required sections and declared
concerns, then pairs of phases too alike and concerns declared by more than one phase.
-/

namespace Taskflow.Plan

open Json Text Review

def sectionKeys : List String := ["Purpose:", "Scope:", "Checks:", "IMPORTANT NOTE:"]

/-- `PHASE`, blanks, the number as group 1, and a colon. -/
def phaseHeading : Pattern := .seq [.str "PHASE", .plus .blank, .group 1 (.plus .digit), .lit ':']

/-- The number of the first phase heading of a text; `-1` when there is none. -/
def phaseNumber (text : String) : Int :=
  let cs := text.toList
  match Pattern.search .caseless phaseHeading cs with
  | some m => ((readInt (m.groupD cs 1)).toOption).getD (-1)
  | none => -1

/-- A concern a phase declares. -/
structure Concern where
  concern : String
  kind : String
  similarity : Float
  evidence : List String

/-- A concern as a record. -/
def Concern.toValue (c : Concern) : Value :=
  .obj [("concern", .str c.concern), ("type", .str c.kind), ("similarity", .float c.similarity),
    ("evidence", .arr (c.evidence.map .str))]

/-- A declared concern: `- Concern:`, `Type:`, `Similarity:` and `Evidence:` on lines of their
own, then one or more lines of evidence, each starting with `-`. -/
def concernPattern : Pattern :=
  let rest := Pattern.plus (.notChars "\n")
  .seq [.lit '-', .many .blank, .str "Concern:", .many .blank, .group 1 rest, .lit '\n',
    .many .blank, .str "Type:", .many .blank, .group 2 rest, .lit '\n',
    .many .blank, .str "Similarity:", .many .blank, .group 3 (.plus (.chars "0123456789.")), .lit '\n',
    .many .blank, .str "Evidence:", .many .blank,
    .group 4 (.plus (.seq [.lit '\n', .many .blank, .lit '-', .many .blank, rest]))]

/-- The items of an evidence list: its lines that start with `-`, without the dash. -/
def evidenceItems (block : String) : List String :=
  (lines (strip block)).filterMap fun l =>
    if startsWith (strip l) "-" then some (strip (drop (strip l) 2)) else none

/-- The concerns a text declares, in order. -/
def concernsIn (text : String) : Except Fault (List Concern) :=
  let cs := text.toList
  (Pattern.findAll .caseless concernPattern cs).mapM fun m => do
    let sim ← match readFloat (m.groupD cs 3) with
      | .ok x => pure x
      | .error e => .error (.badValue e.message)
    pure ⟨strip (m.groupD cs 1), strip (m.groupD cs 2), sim, evidenceItems (m.groupD cs 4)⟩

/-- Words too common to tell phases apart. -/
def auditStopWords : List String :=
  ["the", "and", "for", "with", "that", "this", "are", "not", "only", "but", "also", "when", "from",
   "into", "your", "their", "have", "has", "had", "will", "shall", "must", "should", "could",
   "would", "can"]

/-- The words of a text: lower-cased, signs turned to blanks, longer than two characters, and
not stop words. -/
def auditWords (text : String) : List String :=
  let plain := Pattern.replace {} (.plus (.noneOf [.word, .blank])) " " (lower text)
  (Text.words plain).filter fun t => t.length > 2 && !auditStopWords.contains t

/-- What the audit reads off a phase. -/
structure PhaseReport where
  phase : Int
  sections : List (String × Bool)
  concerns : List Concern
  bag : Bag

/-- Reads a phase's todo. -/
def PhaseReport.ofTodo (todo : Value) : Except Fault PhaseReport := do
  let text ← match ← todo.lookup "text" (.str "") with
    | .str s => pure s
    | v => .error (.badKind s!"expected string or bytes-like object, got '{v.kindName}'")
  return { phase := phaseNumber text, sections := sectionKeys.map fun k => (k, has text k),
           concerns := ← concernsIn text, bag := Bag.ofWords (auditWords text) }

/-- A phase report as a record. -/
def PhaseReport.toValue (p : PhaseReport) : Value :=
  .obj [("phase", .int p.phase), ("sections_present", .obj (p.sections.map fun (k, b) => (k, .bool b))),
    ("findings", .arr (p.concerns.map Concern.toValue)), ("bow", .obj (p.bag.map fun (w, n) => (w, .int n)))]

/-- Whether a phase passes, and why not. -/
def PhaseReport.status (p : PhaseReport) : String × List String :=
  let missing := fun (k : String) => (p.sections.find? (·.1 == k)).any (!·.2)
  let conflicts := (p.concerns.filter fun c => lower c.kind == "conflict").map (·.concern)
  let reasons := (if missing "Purpose:" then ["Missing Purpose"] else []) ++
    (if missing "Scope:" then ["Missing Scope"] else []) ++
    (if missing "Checks:" then ["Missing Checks"] else []) ++
    (if missing "IMPORTANT NOTE:" then ["Missing ImportantNote"] else []) ++
    (if conflicts.isEmpty then [] else ["Conflicts in Findings: " ++ ", ".intercalate conflicts])
  (if reasons.isEmpty then "PASS" else "FAIL", reasons)

/-- A pair of phases too alike. -/
structure Likeness where
  a : Int
  b : Int
  similarity : Float
  kind : String

def Likeness.toValue (l : Likeness) : Value :=
  .obj [("a", .int l.a), ("b", .int l.b), ("similarity", .float l.similarity), ("type", .str l.kind)]

/-- The pairs of a list, each once, in order. -/
def pairsOf {α : Type} : List α → List (α × α)
  | [] => []
  | x :: xs => xs.map (fun y => (x, y)) ++ pairsOf xs

/-- The pairs of phases, by phase number, whose likeness reaches a threshold. -/
def likePhases (ps : List PhaseReport) (dup ovl : Float) : List Likeness :=
  (pairsOf (ps.mergeSort fun x y => decide (x.phase ≤ y.phase))).filterMap fun (x, y) =>
    let sim := x.bag.cosine y.bag
    let kind := if sim ≥ dup then some "duplicate" else if sim ≥ ovl then some "overlap" else none
    kind.map fun k => ⟨x.phase, y.phase, Decimal.roundPlaces sim 2, k⟩

/-- Groups declarations of concerns by concern, in the order each concern first came. -/
def addUse (acc : List (String × List (Int × String))) (c : String) (u : Int × String) :
    List (String × List (Int × String)) :=
  match acc with
  | [] => [(c, [u])]
  | (d, us) :: rest => if d == c then (d, us ++ [u]) :: rest else (d, us) :: addUse rest c u

/-- The concerns declared more than once, with each phase and type that declares them. -/
def collisions (ps : List PhaseReport) : List (String × List (Int × String)) :=
  let uses := ps.foldl (fun acc p => p.concerns.foldl (fun acc c => addUse acc c.concern (p.phase, c.kind)) acc) []
  uses.filter fun (_, us) => us.length > 1

/-- The audit's grammar. -/
def auditGrammar : Command.Grammar :=
  { options := [{ name := "--file", dest := "file", default := .text "/workspace/memory-bank/queue-system/analysis_active.json" },
      { name := "--dup", dest := "dup", reading := .decimal, default := .decimal 0.80 },
      { name := "--ovl", dest := "ovl", reading := .decimal, default := .decimal 0.55 }] }

/-- The decimal stored under a destination. -/
def decimalOf (vs : List (String × Command.Given)) (dest : String) (d : Float) : Float :=
  match ((vs.find? (·.1 == dest)).map (·.2) : Option Command.Given) with
  | some (.decimal x) => x
  | _ => d

def useBefore (u v : Int × String) : Bool := u.1 < v.1 || (u.1 == v.1 && decide (u.2 ≤ v.2))

/-- The audit's printed summary of a plan's phases. -/
def auditSummary (ps : List PhaseReport) (dup ovl : Float) : List String := Id.run do
  let status := ps.map fun p => (p.phase, p.status)
  let pairs := likePhases ps dup ovl
  let clashes := collisions ps
  let mut out := ["STRICT ANALYSIS SUMMARY"]
  let mut blockers : List String := []
  for (k, st, reasons) in status.mergeSort fun x y => decide (x.1 ≤ y.1) do
    let missing := reasons.filter fun r => startsWith r "Missing"
    let conf := reasons.filter fun r => startsWith r "Conflicts"
    let line := s!"Phase {k} — {st}" ++
      (if missing.isEmpty then "" else " — Missing:[" ++ "|".intercalate missing ++ "]") ++
      (if conf.isEmpty then "" else " — Conflicts:[" ++ "|".intercalate conf ++ "]")
    out := out ++ [line]
    if st == "FAIL" then blockers := blockers ++ [s!"Phase {k}: " ++ "; ".intercalate reasons]
  if !pairs.isEmpty then
    out := out ++ ["", "CROSS-PHASE SIMILARITIES (≥ thresholds)"]
    for pr in pairs do
      let shown := Decimal.shownFloat.render pr.similarity
      out := out ++ [s!"- {upper pr.kind}: Phase {pr.a} vs {pr.b} — similarity {shown}"]
  if !clashes.isEmpty then
    out := out ++ ["", "CONCERN COLLISIONS"]
    for (concern, uses) in clashes do
      let desc := ", ".intercalate ((uses.mergeSort useBefore).map fun (ph, tp) => s!"Phase {ph}({tp})")
      out := out ++ [s!"- {concern}: {desc}"]
      blockers := blockers ++ [s!"Concern collision: {concern} → {desc}"]
  if blockers.isEmpty then
    out := out ++ ["", "All phases PASS. No blockers detected."]
  else
    out := out ++ ["", "BLOCKERS:"] ++ blockers.map (fun b => s!"- {b}") ++
      ["", "BLOCK EXECUTION: Analysis failed; fix blockers before proceeding."]
  return out

/-- Runs the audit's command line in a tree: what it prints. -/
def auditCommand (tree : Repo.Tree) (args : List String) : Except Fault String := do
  match auditGrammar.parse args with
  | .failed => .error (.exit (.code 2))
  | .help => .error (.exit (.code 0))
  | .parsed vs =>
    let path := (Command.textOf vs "file").getD ""
    let some text := tree.read path | .error (.missingFile s!"File not found: {path}")
    let data ← match read text with
      | .ok v => pure v
      | .error e => .error (.unreadable e text)
    if !data.truthy then .error (.exit (.note "Empty analysis file."))
    let task ← data.atIndex 0
    let todos ← task.lookup "todos" (.arr [])
    let phases ← (← todos.elems).mapM PhaseReport.ofTodo
    let out := auditSummary phases (decimalOf vs "dup" 0.80) (decimalOf vs "ovl" 0.55)
    return String.join (out.map (· ++ "\n"))

end Taskflow.Plan
