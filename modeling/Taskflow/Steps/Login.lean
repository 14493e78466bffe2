import Taskflow.Text.Basic
import Taskflow.Text.Pattern.Search
/-!
The login workflow: the steps a task about a login endpoint is expected to yield.
-/

namespace Taskflow.Steps

open Text Pattern

def schemaStep : String := "Update database schema (add users table)"

def endpointStep : String := "Create /login POST endpoint"

def formStep : String := "Create simple login form on frontend"

def successStep : String := "[CONDITIONAL] If credentials are correct: return JWT"

def failureStep : String := "[CONDITIONAL] If credentials are incorrect: return 401 Unauthorized"

/-- The actions of the login workflow that the sentences name, in sentence order; a sentence
that starts with `if ` names none. -/
def loginActions (sentences : List String) : List String :=
  sentences.filterMap fun s =>
    let t := strip (lower s)
    if t.isEmpty ∨ startsWith t "if " then none
    else if (has t "database schema" ∨ has t "schema ng database") ∧ has t "users" then some schemaStep
    else if has t "/login" ∧ (has t "endpoint" ∨ has t "api" ∨ has t "post") then some endpointStep
    else if has t "login form" ∧ (has t "frontend" ∨ has t "test") then some formStep
    else none

/-- `if SUBJECT is|are VERDICT, ACTION`. -/
def verdictForm (verdict : String) : Pattern :=
  seq [str "if", plus blank, group 1 (plusLazy (notChars ",")), plus blank,
    alts [str "are", str "is"], plus blank, str verdict, many blank, opt (lit ','), many blank,
    group 2 (plus dot)]

/-- `if correct SUBJECT, ACTION`. -/
def correctFirstForm : Pattern :=
  seq [str "if", plus blank, str "correct", plus blank, group 1 (plusLazy (notChars ",")),
    many blank, opt (lit ','), many blank, group 2 (plus dot)]

/-- `if incorrect [SUBJECT], ACTION`. -/
def incorrectFirstForm : Pattern :=
  seq [str "if", plus blank, str "incorrect", plus blank, opt (group 1 (plusLazy (notChars ","))),
    many blank, opt (lit ','), many blank, group 2 (plus dot)]

/-- A leading article, Tagalog or English. -/
def articleForm : Pattern := seq [lineStart, group 1 (alts [str "ang", str "the"]), plus blank]

/-- The branch step read from the first of the forms that matches a sentence. -/
def branchOf (forms : List Pattern) (verdict : String) (s : String) : Option String :=
  let cs := s.toList
  forms.findSome? fun p =>
    (Pattern.search .caseless p cs).map fun m =>
      let subj := (m.group cs 1).getD ""
      let subj := if subj.isEmpty then "credentials" else subj
      let subj := Pattern.replace .caseless articleForm "" (strip subj)
      let act := stripEndOf ['.'] (strip (m.groupD cs 2))
      Text.replace s!"[CONDITIONAL] If {subj} are {verdict}: {act}" "  " " "

/-- The success and failure branches the sentences state. The last sentence that states one
wins; `jwt` with `tama` or `correct`, and `401` with `mali` or `incorrect`, give the canonical
branch. Failing that, the whole text is searched for the same signs. -/
def credentialBranches (sentences : List String) : List String :=
  let found := sentences.foldl (fun (acc : Option String × Option String) s =>
    let s := strip s
    let t := lower s
    if s.isEmpty ∨ !startsWith t "if" then acc
    else
      let ok := match branchOf [verdictForm "correct", correctFirstForm] "correct" s with
        | some b => some b
        | none => acc.1
      let bad := match branchOf [verdictForm "incorrect", incorrectFirstForm] "incorrect" s with
        | some b => some b
        | none => acc.2
      let ok := if (has t "tama" ∨ has t "correct") ∧ has t "jwt" then some successStep else ok
      let bad := if (has t "mali" ∨ has t "incorrect") ∧ has t "401" then some failureStep else bad
      (ok, bad)) (none, none)
  let full := lower (join " " sentences)
  let given := found.1.toList ++ found.2.toList
  let extraOk :=
    if found.1.isNone ∧ has full "jwt" ∧ (has full "credentials are correct" ∨ has full "correct")
    then [successStep] else []
  let extraBad :=
    if found.2.isNone ∧ has full "401" ∧ (has full "credentials are incorrect" ∨ has full "incorrect")
    then [failureStep] else []
  given ++ extraOk ++ extraBad

/-- Inserts `x` before position `i`, or at the end when `i` is past it. -/
def insertAt (xs : List String) (i : Nat) (x : String) : List String := xs.take i ++ x :: xs.drop i

/-- The steps with each canonical action the text mentions and the steps lack. -/
def completeLogin (fullText : String) (steps : List String) : List String :=
  let t := lower fullText
  let lacks (c : String) (xs : List String) := !xs.any (fun s => has s c)
  let steps := if has t "database schema" ∧ lacks schemaStep steps then schemaStep :: steps else steps
  let steps :=
    if has t "/login" ∧ lacks endpointStep steps then
      insertAt steps (((steps.findIdx? (fun s => has s "schema")).getD 0) + 1) endpointStep
    else steps
  let steps :=
    if has t "login form" ∧ lacks formStep steps then
      insertAt steps ((steps.findIdx? (fun s => startsWith s "[CONDITIONAL]")).getD steps.length) formStep
    else steps
  steps

end Taskflow.Steps
