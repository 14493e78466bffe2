import Taskflow.Digest.Sha1
import Taskflow.Text.Case
import Taskflow.Json.Access
/-!
Rule cards: what a harvester saves for each rule page it keeps.
-/

namespace Taskflow.Harvest

open Text

/-- How a harvester reads pages and writes cards. -/
structure Harvester where
  /-- Parts of a link that mark it as worth following. -/
  linkMarkers : List String
  /-- Whether a page's rule code block, when it has one, is the rule's body. -/
  readsCodeBlock : Bool
  /-- Whether cards carry their fetch date, the intent and the guardrails. -/
  full : Bool

/-- The harvester that follows category and data pages, reads code blocks and writes full
cards. -/
def Harvester.thorough : Harvester :=
  { linkMarkers := ["/rules/", "/data-", "/cursor-rules"], readsCodeBlock := true, full := true }

/-- The harvester that follows rule pages only and writes minimal cards. -/
def Harvester.minimal : Harvester :=
  { linkMarkers := ["/rules/"], readsCodeBlock := false, full := false }

/-- The slug of a title, or `untitled` when nothing is left of it. -/
def slug (title : String) : String :=
  let kept := title.toList.filter fun c => c.isAlphanum || c = '-' || c = ' '
  let s := ((strip (String.ofList kept)).toList.map fun c => if c = ' ' then '-' else c.toLower).take 90
  if s.isEmpty then "untitled" else String.ofList s

/-- A text in normal form: lower case, words separated by single spaces. -/
def normalForm (s : String) : String := " ".intercalate (words (lower s))

def bullets (body : String) : List String :=
  (((splitOn body "\n").filter fun l => !(strip l).isEmpty).map ("- " ++ ·)).take 20

/-- The sections a full card adds before the instructions. -/
def guidance : String :=
  "[INTENT]\n- planning\n\n[GUARDRAILS]\n- Do not override CORE rules.\n" ++
    "- Suggestions only; require user approval.\n\n"

/-- A card's digest and text, for a page fetched on `today`. -/
def Harvester.card (h : Harvester) (today url title body : String) : String × String :=
  let digest := Digest.sha1 (normalForm body)
  let fetched := if h.full then today else "(local)"
  let text := s!"%% source_url: {url}\n%% last_fetched: {fetched}\n" ++
    s!"%% tags: [harvested, review_required]\n%% hash: {digest}\n\n# {title}\n\n" ++
    (if h.full then guidance else "") ++ "[INSTRUCTIONS]\n" ++ "\n".intercalate (bullets body) ++ "\n"
  (digest, text)

/-- The index of saved cards has one with this digest. -/
def indexHas (index : Json.Value) (digest : Json.Value) : Except Fault Bool := do
  let entries ← (← index.item "entries").elems
  entries.anyM fun e => do pure ((← e.lookup "hash" .null).same digest)

end Taskflow.Harvest
