import Taskflow.Harvest.Card
import Taskflow.Html.Node
import Taskflow.Web.Url
/-!
What a harvester reads off a page of the rule directory: the links worth following, and a
rule's title and body.
-/

namespace Taskflow.Harvest

open Html Web Text

/-- The document tree of a page; a page the reader refuses is a fault. -/
def readPage (html : String) : Except Fault Node :=
  match Node.parse html with
  | .ok n => .ok n
  | .error r => .error (.rejectedMarkup r)

/-- A URL operation's refusal as a fault. -/
def urlFault {α : Type} (r : Except String α) : Except Fault α :=
  match r with
  | .ok a => .ok a
  | .error e => .error (.badValue e)

def directoryHost : String := "cursor.directory"

/-- The links of a page worth following, resolved against `base`. -/
def Harvester.links (h : Harvester) (html base : String) : Except Fault (List String) := do
  let page ← readPage html
  let anchors := (page.findAllNamed ["a"]).filterMap (·.attr? "href")
  let found ← anchors.filterMapM fun href => urlFault do
    let url ← Url.join base href
    let parts ← Url.parse url ""
    if endsWith parts.netloc directoryHost && h.linkMarkers.any (has url ·) then
      return some (String.ofList (url.toList.takeWhile (· != '#')))
    else return none
  return (found.mergeSort fun a b => decide (a ≤ b)).eraseDups

/-- The title of a page. -/
def pageTitle (page : Node) : String :=
  match page.findNamed? ["h1", "h2", "title"] with
  | some e => e.text " "
  | none => "Untitled Rule"

def ruleBlockClass : String := "text-sm block pr-3"

/-- The title and body of a rule page. -/
def Harvester.titleAndBody (h : Harvester) (html : String) : Except Fault (String × String) := do
  let page ← readPage html
  let block := page.elements.find? fun e => e.name? == some "code" && e.hasClass ruleBlockClass
  match h.readsCodeBlock, block with
  | true, some code => return (pageTitle page, code.text "\n")
  | _, _ =>
    let main := (page.findNamed? ["main", "article"]).getD page
    let lines := ((main.findAllNamed ["p", "li"]).map (·.text " ")).filter (!·.isEmpty)
    return (pageTitle page, "\n".intercalate lines)

end Taskflow.Harvest
