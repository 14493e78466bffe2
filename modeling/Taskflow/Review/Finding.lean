import Taskflow.Json.Value
/-!
Findings of a review: what kind of problem, how serious, a description, and the lines that
show it.
-/

namespace Taskflow.Review

open Json

/-- The kinds of problem a review reports. -/
inductive Category where
  | duplicate
  | conflict
  | misalignment
  | missingDependency
  | blindSpot
  deriving DecidableEq, Repr

/-- The name of a kind of problem. -/
def Category.name : Category → String
  | .duplicate => "duplicate"
  | .conflict => "conflict"
  | .misalignment => "misalignment"
  | .missingDependency => "missing_dependency"
  | .blindSpot => "blind_spot"

/-- How serious a problem is. -/
inductive Severity where
  | low
  | medium
  | high
  deriving DecidableEq, Repr

/-- The name of a severity. -/
def Severity.name : Severity → String
  | .low => "LOW"
  | .medium => "MEDIUM"
  | .high => "HIGH"

/-- A line that shows a problem: the file, the line number from 1, and the line's text. -/
structure Evidence where
  path : String
  line : Nat
  snippet : String
  deriving DecidableEq, Repr

/-- A problem found. -/
structure Finding where
  category : Category
  severity : Severity
  description : String
  evidence : List Evidence := []
  deriving DecidableEq, Repr

def Evidence.toValue (e : Evidence) : Value :=
  .obj [("path", .str e.path), ("line", .int e.line), ("snippet", .str e.snippet)]

/-- A finding as a record. -/
def Finding.toValue (f : Finding) : Value :=
  .obj [("category", .str f.category.name), ("severity", .str f.severity.name),
    ("description", .str f.description), ("evidence", .arr (f.evidence.map Evidence.toValue))]

/-- Two findings report the same problem: same kind, severity and description. -/
def Finding.sameProblem (f g : Finding) : Bool :=
  f.category == g.category && f.severity == g.severity && f.description == g.description

/-- Adds evidence not yet cited, by path and line. -/
def addEvidence (cited more : List Evidence) : List Evidence :=
  more.foldl (fun acc e => if acc.any (fun d => d.path == e.path && d.line == e.line) then acc
    else acc ++ [e]) cited

/-- Adds a finding to merged ones. -/
def mergeInto : List Finding → Finding → List Finding
  | [], f => [{ f with evidence := addEvidence [] f.evidence }]
  | g :: gs, f =>
    if g.sameProblem f then { g with evidence := addEvidence g.evidence f.evidence } :: gs
    else g :: mergeInto gs f

def merge (fs : List Finding) : List Finding := fs.foldl mergeInto []

end Taskflow.Review
