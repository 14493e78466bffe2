import Taskflow.Html.Entity
import Taskflow.Text.Pattern.Search
import Taskflow.Json.Show
/-!
Reading HTML text into a stream of events: text, start and end tags, comments, declarations
and processing instructions, in the order they occur.
-/

namespace Taskflow.Html

open Text

/-- What the reader reports, in the order of the input. -/
inductive Event where
  | text (s : String)
  | start (name : String) (attrs : List (String × String)) (selfClosing : Bool)
  | stop (name : String)
  | comment (s : String)
  | doctype (s : String)
  | instruction (s : String)
  | section (s : String)
  deriving Repr, Inhabited, BEq

def letter : List CharTest := [.range 'a' 'z', .range 'A' 'Z']

def letterOrDigit : List CharTest := [.range 'a' 'z', .range 'A' 'Z', .range '0' '9']

def hexDigit : List CharTest := [.range '0' '9', .range 'a' 'f', .range 'A' 'F']

/-- A tag name as a start tag writes it: a letter, then anything but blanks, `/`, `>` and NUL. -/
def tagNamePattern : Pattern :=
  .seq [.oneOf letter, .many (.notChars "\t\n\r\x0c />\x00")]

/-- Blanks, and slashes that do not close the tag. -/
def tagGap : Pattern := .many (.alt .blank (.seq [.lit '/', .notAhead [.single '>']]))

/-- A tag name (group 1) and the gap after it. -/
def tagFind : Pattern := .seq [.group 1 tagNamePattern, tagGap]

/-- An attribute name: after a quote, a blank or a slash, a character that is not a blank, `/`
or `>`, then any but those and `=`. -/
def attrName : Pattern :=
  .seq [.behind [.single '\'', .single '"', .blank, .single '/'],
    .noneOf [.blank, .single '/', .single '>'],
    .many (.noneOf [.blank, .single '/', .single '=', .single '>'])]

/-- An attribute value: quoted with `'` or `"`, or bare up to a blank or `>`. -/
def attrValue : Pattern :=
  .alts [.seq [.lit '\'', .many (.notChars "'"), .lit '\''],
    .seq [.lit '"', .many (.notChars "\""), .lit '"'],
    .seq [.notAhead [.single '\'', .single '"'], .many (.noneOf [.single '>', .blank])]]

/-- The signs between a name and its value. -/
def valueSign : Pattern := .seq [.many .blank, .plus (.lit '='), .many .blank]

/-- One attribute: its name (group 1), the sign and value (group 2), the value alone
(group 3), and the gap after it. -/
def attrFind : Pattern :=
  .seq [.group 1 attrName, .opt (.group 2 (.seq [valueSign, .group 3 attrValue])), tagGap]

/-- The longest stretch a start tag may cover before its closing `>`. -/
def startTagSpan : Pattern :=
  .seq [.lit '<', tagNamePattern,
    .opt (.seq [.many (.oneOf [.blank, .single '/']),
      .many (.seq [attrName, .opt (.seq [valueSign, attrValue, .many .blank]), tagGap])]),
    .many .blank]

/-- An end tag with a well-formed name (group 1). -/
def endTagFind : Pattern :=
  .seq [.str "</", .many .blank,
    .group 1 (.seq [.oneOf letter, .many (.oneOf (letterOrDigit ++ [.single '-', .single '.',
      .single ':', .single '_']))]),
    .many .blank, .lit '>']

/-- A numeric character reference and the character after it. -/
def charRef : Pattern :=
  .seq [.str "&#", .alt (.plus (.oneOf [.range '0' '9'])) (.seq [.chars "xX", .plus (.oneOf hexDigit)]),
    .noneOf hexDigit]

/-- A named character reference (group 1) and the character after it. -/
def entityRef : Pattern :=
  .seq [.lit '&', .group 1 (.seq [.oneOf letter, .many (.oneOf (letterOrDigit ++ [.single '-', .single '.']))]),
    .noneOf letterOrDigit]

/-- The end of a comment. -/
def commentClose : Pattern := .seq [.str "--", .many .blank, .lit '>']

/-- A declaration's name and the blanks after it. -/
def declName : Pattern :=
  .seq [.oneOf letter, .many (.oneOf (letterOrDigit ++ [.single '-', .single '_', .single '.'])), .many .blank]

/-- The end of a standard marked section. -/
def sectionClose : Pattern := .seq [.lit ']', .many .blank, .lit ']', .many .blank, .lit '>']

/-- The end of a conditional section. -/
def conditionalClose : Pattern := .seq [.lit ']', .many .blank, .lit '>']

/-- The end tag of a raw-text element, in any case. -/
def rawTextEnd (elem : String) : Pattern := .seq [.str "</", .many .blank, .str elem, .many .blank, .lit '>']

def rawTextElements : List String := ["script", "style"]

/-- A text being read: its characters. -/
structure Source where
  chars : List Char

namespace Source

def size (src : Source) : Nat := src.chars.length

def at? (src : Source) (i : Nat) : Option Char := src.chars[i]?

def suffix (src : Source) (i : Nat) : List Char := src.chars.drop i

def before (src : Source) (i : Nat) : Option Char := if i = 0 then none else src.chars[i - 1]?

def cut (src : Source) (i j : Nat) : String := String.ofList ((src.chars.drop i).take (j - i))

def startsAt (src : Source) (i : Nat) (p : String) : Bool := p.toList.isPrefixOf (src.suffix i)

def findChar (src : Source) (c : Char) (i : Nat) : Option Nat :=
  ((src.suffix i).findIdx? (· == c)).map (· + i)

/-- A match of a pattern starting at position `i`. -/
def matchAt (src : Source) (fl : MatchFlags) (p : Pattern) (i : Nat) : Option Found :=
  Pattern.matchAt fl p false i (src.before i) (src.suffix i)

/-- The first match of a pattern at or after position `i`. -/
def searchAt (src : Source) (fl : MatchFlags) (p : Pattern) (i : Nat) : Option Found :=
  Pattern.searchFrom fl p false i (src.before i) (src.suffix i)

end Source

/-- What reading a construct at a position gives: its events, where reading goes on, and the
raw-text element it leaves open; or nothing, when the construct is not complete yet. -/
abbrev Reading := Option (List Event × Nat × Option String)

/-- A value with its quotes removed and its references read; none for an attribute without a
value. -/
def attrText (v : String) : String :=
  let cs := v.toList
  let bare := match cs.head?, cs.getLast? with
    | some '\'', some '\'' => String.ofList (cs.drop 1).dropLast
    | some '"', some '"' => String.ofList (cs.drop 1).dropLast
    | _, _ => v
  if bare.isEmpty then bare else unescape bare

/-- The attributes of a start tag from position `k` up to its end; returns them with the
position after the last. -/
def readAttrs (src : Source) (stop : Nat) (k : Nat) : List (String × String) × Nat :=
  if _hk : k < stop then
    match src.matchAt {} attrFind k with
    | some m =>
      if _h : k < m.stop then
        let name := lower (m.groupD src.chars 1)
        let value := if (m.group src.chars 2).isSome then attrText (m.groupD src.chars 3) else ""
        let (rest, e) := readAttrs src stop m.stop
        ((name, value) :: rest, e)
      else ([], k)
    | none => ([], k)
  else ([], k)
termination_by stop - k

/-- Where a start tag at `i` ends, or nothing when the input may still complete it. -/
def startTagEnd (src : Source) (i : Nat) : Option Nat :=
  let j := ((src.matchAt {} startTagSpan i).map (·.stop)).getD (i + 1)
  let fallback := if j > i then some j else some (i + 1)
  match src.at? j with
  | some '>' => some (j + 1)
  | some '/' => if src.startsAt j "/>" then some (j + 2) else none
  | none => none
  | some c => if c.isAlpha ∨ c = '=' ∨ c = '/' then none else fallback

/-- A start tag at `i`. -/
def readStartTag (src : Source) (cdata : Option String) (i : Nat) : Reading := do
  let endPos ← startTagEnd src i
  let found := src.matchAt {} tagFind (i + 1)
  let nameEnd := (found.map (·.stop)).getD (i + 1)
  let tag := lower ((found.map (·.groupD src.chars 1)).getD "")
  let (attrs, k) := readAttrs src endPos nameEnd
  let ending := strip (src.cut k endPos)
  if ending != ">" && ending != "/>" then some ([.text (src.cut i endPos)], endPos, cdata)
  else if ending == "/>" then some ([.start tag attrs true], endPos, cdata)
  else some ([.start tag attrs false], endPos, if rawTextElements.contains tag then some tag else cdata)

/-- A comment that starts at `i` and ends at the next `>`. -/
def readBogusComment (src : Source) (cdata : Option String) (i : Nat) : Reading := do
  let pos ← src.findChar '>' (i + 2)
  some ([.comment (src.cut (i + 2) pos)], pos + 1, cdata)

/-- An end tag at `i`. -/
def readEndTag (src : Source) (cdata : Option String) (i : Nat) : Reading := do
  let gt ← src.findChar '>' (i + 1)
  let gtEnd := gt + 1
  match src.matchAt {} endTagFind i with
  | none =>
    if cdata.isSome then some ([.text (src.cut i gtEnd)], gtEnd, cdata)
    else match src.matchAt {} tagFind (i + 2) with
      | none =>
        if src.startsAt i "</>" then some ([], i + 3, cdata) else readBogusComment src cdata i
      | some nm =>
        let close := (src.findChar '>' nm.stop).getD gt
        some ([.stop (lower (nm.groupD src.chars 1))], close + 1, cdata)
  | some m =>
    let elem := lower (m.groupD src.chars 1)
    match cdata with
    | some c =>
      if elem != c then some ([.text (src.cut i gtEnd)], gtEnd, cdata)
      else some ([.stop elem], gtEnd, none)
    | none => some ([.stop elem], gtEnd, none)

/-- A comment `<!-- ... -->` at `i`. -/
def readComment (src : Source) (cdata : Option String) (i : Nat) : Reading := do
  let m ← src.searchAt {} commentClose (i + 4)
  some ([.comment (src.cut (i + 4) m.start)], m.stop, cdata)

/-- A processing instruction `<? ... >` at `i`. -/
def readInstruction (src : Source) (cdata : Option String) (i : Nat) : Reading := do
  let j ← src.findChar '>' (i + 2)
  some ([.instruction (src.cut (i + 2) j)], j + 1, cdata)

/-- A marked section `<![name[ ... ]]>` at `i`; its name must be known. -/
def readSection (src : Source) (cdata : Option String) (i : Nat) : Except String Reading := do
  if i + 3 = src.size then return none
  let some m := src.matchAt {} declName (i + 3)
    | throw s!"expected name token at {Json.quoteShown (src.cut i (i + 20))}"
  if m.stop = src.size then return none
  let name := lower (strip (m.whole src.chars))
  let close ←
    if ["temp", "cdata", "ignore", "include", "rcdata"].contains name then
      pure (src.searchAt {} sectionClose (i + 3))
    else if ["if", "else", "endif"].contains name then pure (src.searchAt {} conditionalClose (i + 3))
    else throw s!"unknown status keyword {Json.quoteShown (src.cut (i + 3) m.stop)} in marked section"
  return close.map fun mm => ([.section (src.cut (i + 3) mm.start)], mm.stop, cdata)

/-- A declaration `<! ... >` at `i`: a marked section, a document type, or a bogus comment. -/
def readDeclaration (src : Source) (cdata : Option String) (i : Nat) : Except String Reading :=
  if src.startsAt i "<![" then readSection src cdata i
  else if (src.cut i (i + 9)).toList.map Char.toLower == "<!doctype".toList then
    pure do
      let gt ← src.findChar '>' (i + 9)
      some ([.doctype (src.cut (i + 2) gt)], gt + 1, cdata)
  else pure (readBogusComment src cdata i)

/-- Markup at `i`, which holds `<`; `none` inside the result when the construct may still be
completed, and no result at all when a lone `<` ends the input. -/
def readMarkup (src : Source) (cdata : Option String) (i : Nat) : Except String (Option Reading) :=
  let next := src.at? (i + 1)
  if (next.map fun c => c.isAlpha && c.toNat < 128).getD false then pure (some (readStartTag src cdata i))
  else if src.startsAt i "</" then pure (some (readEndTag src cdata i))
  else if src.startsAt i "<!--" then pure (some (readComment src cdata i))
  else if src.startsAt i "<?" then pure (some (readInstruction src cdata i))
  else if src.startsAt i "<!" then (readDeclaration src cdata i).map some
  else if i + 1 < src.size then pure (some (some ([.text "<"], i + 1, cdata)))
  else pure none

/-- One step of a pass: go on at a later position, or stop at a position. -/
inductive Step where
  | next (events : List Event) (k : Nat) (cdata : Option String)
  | halt (events : List Event) (k : Nat)

/-- The markup or reference at `j`, after the text before it. -/
def readAt (src : Source) (last : Bool) (cdata : Option String) (j : Nat) (evs : List Event) :
    Except String Step := do
  if src.at? j = some '<' then
    match ← readMarkup src cdata j with
    | none => return .halt evs j
    | some (some (es, k, c)) => return .next (evs ++ es) k c
    | some none =>
      if !last then return .halt evs j
      let k := match src.findChar '>' (j + 1) with
        | some g => g + 1
        | none => (src.findChar '<' (j + 1)).getD (j + 1)
      return .next (evs ++ [.text (src.cut j k)]) k cdata
  else if src.startsAt j "&#" then
    match src.matchAt {} charRef j with
    | some m =>
      let digits := src.cut (j + 2) (m.stop - 1)
      let k := if src.at? (m.stop - 1) = some ';' then m.stop else m.stop - 1
      return .next (evs ++ [.text (numericText (refNumber digits))]) k cdata
    | none =>
      if (src.suffix j).contains ';' then return .halt (evs ++ [.text "&#"]) (j + 2)
      else return .halt evs j
  else
    match src.matchAt {} entityRef j with
    | some m =>
      let name := m.groupD src.chars 1
      let k := if src.at? (m.stop - 1) = some ';' then m.stop else m.stop - 1
      return .next (evs ++ [.text ((named? name).getD ("&" ++ name))]) k cdata
    | none =>
      if (src.at? (j + 1)).any fun c => c.isAlpha && c.toNat < 128 then
        return .halt evs (if last && j + 2 = src.size then j + 1 else j)
      else if j + 1 < src.size then return .next (evs ++ [.text "&"]) (j + 1) cdata
      else return .halt evs j

/-- One step of a pass at position `i`: the text up to the next markup or reference, then that. -/
def step (src : Source) (last : Bool) (cdata : Option String) (i : Nat) : Except String Step := do
  let j ← match cdata with
    | some elem => match src.searchAt .caseless (rawTextEnd elem) i with
      | some m => pure (some m.start)
      | none => pure none
    | none => pure (some (((src.suffix i).findIdx? fun c => c = '<' ∨ c = '&').map (· + i) |>.getD src.size))
  match j with
  | none => return .halt [] i
  | some j =>
    let evs := if i < j then [.text (src.cut i j)] else []
    if j ≥ src.size then return .halt evs src.size
    readAt src last cdata j evs

/-- A pass from position `i`: the events, where it stopped, and the raw-text element left open. -/
def pass (src : Source) (last : Bool) (cdata : Option String) (i : Nat) :
    Except String (List Event × Nat × Option String) := do
  if i < src.size then
    match ← step src last cdata i with
    | .halt evs k => return (evs, k, cdata)
    | .next evs k c =>
      if i < k then
        let (more, e, c') ← pass src last c k
        return (evs ++ more, e, c')
      else return (evs, k, c)
  else return ([], i, cdata)
termination_by src.size - i

/-- The events of an HTML text; an error names why the text was rejected. -/
def Event.scan (s : String) : Except String (List Event) := do
  let src : Source := ⟨s.toList⟩
  let (first, i, cdata) ← pass src false none 0
  let rest : Source := ⟨src.suffix i⟩
  let (second, j, cdata) ← pass rest true cdata 0
  let tail := if j < rest.size && cdata.isNone then [Event.text (rest.cut j rest.size)] else []
  return first ++ second ++ tail

end Taskflow.Html
