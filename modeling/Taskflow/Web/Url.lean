import Taskflow.Web.Address
import Taskflow.Text.Case
/-!
URLs in six parts, and the resolution of a reference against a base.
-/

namespace Taskflow.Web

open Text

/-- Schemes whose references resolve against a base. -/
def relativeSchemes : List String :=
  ["", "ftp", "http", "gopher", "nntp", "imap", "wais", "file", "https", "shttp", "mms",
   "prospero", "rtsp", "rtsps", "rtspu", "sftp", "svn", "svn+ssh", "ws", "wss"]

/-- Schemes whose URLs have a network location. -/
def netlocSchemes : List String :=
  ["", "ftp", "http", "gopher", "nntp", "telnet", "imap", "wais", "file", "mms", "https", "shttp",
   "snews", "prospero", "rtsp", "rtsps", "rtspu", "rsync", "svn", "svn+ssh", "sftp", "nfs", "git",
   "git+ssh", "ws", "wss"]

/-- Schemes whose paths may end in parameters. -/
def paramSchemes : List String :=
  ["", "ftp", "hdl", "prospero", "http", "imap", "https", "shttp", "rtsp", "rtsps", "rtspu", "sip",
   "sips", "mms", "sftp", "tel"]

/-- A URL in its six parts. -/
structure Url where
  scheme : String
  netloc : String
  path : String
  params : String
  query : String
  fragment : String
  deriving Repr, Inhabited, BEq

def isSchemeChar (c : Char) : Bool := c.isAlphanum || c = '+' || c = '-' || c = '.'

def isControlOrSpace (c : Char) : Bool := c.toNat ≤ 0x20

def isUnsafe (c : Char) : Bool := c = '\t' || c = '\r' || c = '\n'

/-- The text before the first `c` and the text after it, when `c` occurs. -/
def cutAt (cs : List Char) (c : Char) : Option (List Char × List Char) :=
  match cs.findIdx? (· == c) with
  | some i => some (cs.take i, cs.drop (i + 1))
  | none => none

/-- The path and its parameters: these start after the first `;` of the last segment. -/
def splitParams (path : String) : String × String :=
  let cs := path.toList
  let lastSlash := match (cs.reverse.findIdx? (· == '/')) with
    | some r => cs.length - 1 - r
    | none => 0
  match ((cs.drop lastSlash).findIdx? (· == ';')) with
  | some i => (String.ofList (cs.take (lastSlash + i)), String.ofList (cs.drop (lastSlash + i + 1)))
  | none => (path, "")

/-- Reads a URL; `scheme` is the scheme when the text gives none. -/
def Url.parse (url : String) (scheme : String) : Except String Url := do
  let cs := (url.toList.dropWhile isControlOrSpace).filter (!isUnsafe ·)
  let givenScheme := String.ofList (((scheme.toList.dropWhile isControlOrSpace).reverse.dropWhile
    isControlOrSpace).reverse.filter (!isUnsafe ·))
  let (scheme, cs) := match cutAt cs ':' with
    | some (pre, post) =>
      if !pre.isEmpty && (pre.head?.map Char.isAlpha).getD false && pre.all isSchemeChar then
        (String.ofList (pre.map Char.toLower), post)
      else (givenScheme, cs)
    | none => (givenScheme, cs)
  let (netloc, cs) :=
    if cs.take 2 == ['/', '/'] then
      let rest := cs.drop 2
      (rest.takeWhile (fun c => c != '/' && c != '?' && c != '#'),
        rest.dropWhile (fun c => c != '/' && c != '?' && c != '#'))
    else ([], cs)
  if netloc.contains '[' != netloc.contains ']' then throw "Invalid IPv6 URL"
  if netloc.contains '[' then
    let host := ((cutAt netloc '[').map fun p => p.2.takeWhile (· != ']')).getD []
    if let some e := bracketedHostError (String.ofList host) then throw e
  let (cs, fragment) := (cutAt cs '#').getD (cs, [])
  let (cs, query) := (cutAt cs '?').getD (cs, [])
  let path := String.ofList cs
  let (path, params) := if paramSchemes.contains scheme && cs.contains ';' then splitParams path
    else (path, "")
  return ⟨scheme, String.ofList netloc, path, params, String.ofList query, String.ofList fragment⟩

/-- The text of a URL. -/
def Url.render (u : Url) : String :=
  let path := if u.params.isEmpty then u.path else u.path ++ ";" ++ u.params
  let path :=
    if !u.netloc.isEmpty || (!u.scheme.isEmpty && netlocSchemes.contains u.scheme) || startsWith path "//" then
      "//" ++ u.netloc ++ (if !path.isEmpty && !startsWith path "/" then "/" ++ path else path)
    else path
  let withScheme := if u.scheme.isEmpty then path else u.scheme ++ ":" ++ path
  let withQuery := if u.query.isEmpty then withScheme else withScheme ++ "?" ++ u.query
  if u.fragment.isEmpty then withQuery else withQuery ++ "#" ++ u.fragment

/-- The segments of a merged path with empty ones removed, the first and last apart. -/
def dropInnerEmpty (segs : List String) : List String :=
  match segs with
  | [] => []
  | [s] => [s]
  | s :: rest => s :: ((rest.dropLast.filter (!·.isEmpty)) ++ [rest.getLastD ""])

/-- The segments left after walking `.` and `..`; `..` at the root stays there. -/
def walkSegments (segs : List String) : List String :=
  let kept := segs.foldl (fun acc s => if s == ".." then acc.dropLast else if s == "." then acc else acc ++ [s]) []
  if segs.getLast? == some "." || segs.getLast? == some ".." then kept ++ [""] else kept

/-- A reference resolved against a base URL. -/
def Url.join (base ref : String) : Except String String := do
  if base.isEmpty then return ref
  if ref.isEmpty then return base
  let b ← Url.parse base ""
  let u ← Url.parse ref b.scheme
  if u.scheme != b.scheme || !relativeSchemes.contains u.scheme then return ref
  if netlocSchemes.contains u.scheme && !u.netloc.isEmpty then return u.render
  let u := if netlocSchemes.contains u.scheme then { u with netloc := b.netloc } else u
  if u.path.isEmpty && u.params.isEmpty then
    return { u with path := b.path, params := b.params,
                    query := if u.query.isEmpty then b.query else u.query }.render
  let baseParts := splitOn b.path "/"
  let baseDir := if baseParts.getLastD "" != "" then baseParts.dropLast else baseParts
  let segs := if startsWith u.path "/" then splitOn u.path "/"
    else dropInnerEmpty (baseDir ++ splitOn u.path "/")
  let path := "/".intercalate (walkSegments segs)
  return { u with path := if path.isEmpty then "/" else path }.render

end Taskflow.Web
