import Taskflow.Html.Event
/-!
The document tree of an HTML text, and the queries the harvester asks of it.
-/

namespace Taskflow.Html

open Text

/-- What a string of the document is. -/
inductive StringKind where
  | plain
  | characterData
  | comment
  | declaration
  | doctype
  | instruction
  | contentOf (element : String)
  deriving Repr, Inhabited, BEq, DecidableEq

/-- A node of the document tree. -/
inductive Node where
  | element (name : String) (attrs : List (String × String)) (children : List Node)
  | string (kind : StringKind) (s : String)
  deriving Repr, Inhabited

/-- Elements closed by their start tag. -/
def voidElements : List String :=
  ["area", "base", "br", "col", "embed", "hr", "img", "input", "keygen", "link", "menuitem",
   "meta", "param", "source", "track", "wbr", "basefont", "bgsound", "command", "frame", "image",
   "isindex", "nextid", "spacer"]

def ownContentElements : List String := ["rt", "rp", "style", "script", "template"]

/-- An open element: its name, its attributes, and its children so far, latest first. -/
structure Open where
  name : String
  attrs : List (String × String)
  children : List Node

/-- The state of building a tree: the open elements, innermost first, with the document itself
last; text not yet made a string, latest first; and the void elements already closed. -/
structure Builder where
  opened : List Open
  pending : List String
  closedVoid : List String

def Builder.empty : Builder := ⟨[⟨"[document]", [], []⟩], [], []⟩

/-- The attributes as a record keeps them: a repeated name takes the later value. -/
def setAttr (attrs : List (String × String)) (kv : String × String) : List (String × String) :=
  if attrs.any (·.1 == kv.1) then attrs.map fun a => if a.1 == kv.1 then (a.1, kv.2) else a
  else attrs ++ [kv]

/-- A node added to the innermost open element. -/
def Builder.add (b : Builder) (n : Node) : Builder :=
  match b.opened with
  | o :: os => { b with opened := { o with children := n :: o.children } :: os }
  | [] => b

/-- The pending text made a string of a kind; plain text inside an element with its own
content takes that element's kind. -/
def Builder.flushAs (b : Builder) (kind : StringKind) : Builder :=
  if b.pending.isEmpty then b
  else
    let s := String.join b.pending.reverse
    let inner := (b.opened.find? fun o => ownContentElements.contains o.name).map (·.name)
    let kind := match kind, inner with
      | .plain, some e => .contentOf e
      | k, _ => k
    { (b.add (.string kind s)) with pending := [] }

def Builder.flush (b : Builder) : Builder := b.flushAs .plain

/-- The innermost open element closed into its parent. -/
def Builder.pop (b : Builder) : Builder :=
  match b.opened with
  | o :: p :: os => { b with opened := { p with children := .element o.name o.attrs o.children.reverse :: p.children } :: os }
  | _ => b

/-- Closes open elements up to and including the innermost one named `name`. -/
def Builder.popTo (b : Builder) (name : String) : Builder :=
  let depth := (b.opened.dropLast.findIdx? (·.name == name))
  match depth with
  | some d => (List.range (d + 1)).foldl (fun b _ => b.pop) b
  | none => b

/-- An end tag. -/
def Builder.close (b : Builder) (name : String) : Builder :=
  if b.closedVoid.contains name then { b with closedVoid := b.closedVoid.erase name }
  else (b.flush).popTo name

/-- One event added to the tree. -/
def Builder.feed (b : Builder) : Event → Builder
  | .text s => { b with pending := s :: b.pending }
  | .start name attrs selfClosing =>
    let b := b.flush
    let b := { b with opened := ⟨name, attrs.foldl setAttr [], []⟩ :: b.opened }
    if selfClosing then b.close name
    else if voidElements.contains name then
      { (b.flush.popTo name) with closedVoid := b.closedVoid ++ [name] }
    else b
  | .stop name => b.close name
  | .comment s => ({ b.flush with pending := [s] }).flushAs .comment
  | .doctype s => ({ b.flush with pending := [s] }).flushAs .doctype
  | .instruction s => ({ b.flush with pending := [s] }).flushAs .instruction
  | .section s =>
    if startsWith (upper s) "CDATA[" then ({ b.flush with pending := [drop s 6] }).flushAs .characterData
    else ({ b.flush with pending := [s] }).flushAs .declaration

/-- The finished tree: pending text flushed and every open element closed. -/
def Builder.finish (b : Builder) : Node :=
  let b := (List.range b.opened.length).foldl (fun b _ => b.pop) b.flush
  match b.opened with
  | o :: _ => .element o.name o.attrs o.children.reverse
  | [] => .element "[document]" [] []

def Node.ofEvents (evs : List Event) : Node := (evs.foldl Builder.feed Builder.empty).finish

/-- The document tree of an HTML text; an error names why the text was rejected. -/
def Node.parse (s : String) : Except String Node := return Node.ofEvents (← Event.scan s)

namespace Node

/-- The name of an element; a string has none. -/
def name? : Node → Option String
  | element n _ _ => some n
  | string _ _ => none

/-- The value of an attribute. -/
def attr? (n : Node) (key : String) : Option String :=
  match n with
  | element _ attrs _ => (attrs.find? (·.1 == key)).map (·.2)
  | string _ _ => none

/-- The nodes below this one, in document order. -/
def descendants : Node → List Node
  | element _ _ cs => cs.attach.flatMap fun ⟨c, _⟩ => c :: descendants c
  | string _ _ => []

def elements (n : Node) : List Node := n.descendants.filter (·.name?.isSome)

/-- The first element below this one whose name is one of `names`. -/
def findNamed? (n : Node) (names : List String) : Option Node :=
  n.elements.find? fun e => (e.name?.map names.contains).getD false

def findAllNamed (n : Node) (names : List String) : List Node :=
  n.elements.filter fun e => (e.name?.map names.contains).getD false

/-- The element's class attribute holds `c`: as one of its classes, or as all of them written
with single spaces. -/
def hasClass (n : Node) (c : String) : Bool :=
  match n.attr? "class" with
  | some v => (words v).contains c || " ".intercalate (words v) == c
  | none => false

/-- The strings that make an element's text, in document order. -/
def strings (n : Node) : List String :=
  n.descendants.filterMap fun
    | string .plain s => some s
    | string .characterData s => some s
    | _ => none

/-- The text of an element: its strings stripped, the empty ones left out, joined by `sep`. -/
def text (n : Node) (sep : String) : String :=
  sep.intercalate ((n.strings.map strip).filter (!·.isEmpty))

end Node

end Taskflow.Html
