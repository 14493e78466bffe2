import Taskflow.Text.Basic
import Taskflow.Digest.HalfMd4
/-!
A repository as a tree of text files, below a home directory with an absolute path.
-/

namespace Taskflow.Repo

/-- A tree of files below a home directory. -/
structure Tree where
  /-- The home directory's absolute path. -/
  home : String
  /-- Each file's path below the home directory, and its text. -/
  files : List (String × String)

def parts (p : String) : List String := (Text.splitOn p "/").filter fun s => s != "" && s != "."

/-- A path written the usual way: parts joined by `/`, a leading `/` kept, `.` for none. -/
def normal (p : String) : String :=
  let body := "/".intercalate (parts p)
  if Text.startsWith p "/" then "/" ++ body
  else if body.isEmpty then "." else body

def under (dir rel : String) : String := normal (dir ++ "/" ++ rel)

def baseName (p : String) : String := ((parts p).getLast?).getD ""

/-- The position of the last dot among characters, counting from `i`. -/
def lastDot : List Char → Nat → Option Nat
  | [], _ => none
  | c :: cs, i =>
    match lastDot cs (i + 1) with
    | some j => some j
    | none => if c == '.' then some i else none

/-- The extension of a name: from its last dot on, when that dot is neither first nor last. -/
def suffix (name : String) : String :=
  let cs := name.toList
  match lastDot cs 0 with
  | some i => if 0 < i && i + 1 < cs.length then String.ofList (cs.drop i) else ""
  | none => ""

/-- The text of a file as read: line ends `\r\n` and `\r` become `\n`. -/
def readLines : List Char → List Char
  | '\r' :: '\n' :: cs => '\n' :: readLines cs
  | '\r' :: cs => '\n' :: readLines cs
  | c :: cs => c :: readLines cs
  | [] => []

/-- The parts of a path below the home directory, when the path lies in the tree. -/
def Tree.place (t : Tree) (p : String) : Option (List String) :=
  if Text.startsWith p "/" then
    let hs := parts t.home
    let ps := parts p
    if hs.isPrefixOf ps then some (ps.drop hs.length) else none
  else some (parts p)

def Tree.fileAt (t : Tree) (place : List String) : Option String :=
  (t.files.find? fun f => parts f.1 == place).map fun f => String.ofList (readLines f.2.toList)

/-- A directory is at a place: the home directory, or one that holds a file. -/
def Tree.dirAt (t : Tree) (place : List String) : Bool :=
  place.isEmpty || t.files.any fun f => place.isPrefixOf (parts f.1) && place.length < (parts f.1).length

def Tree.read (t : Tree) (p : String) : Option String := (t.place p).bind t.fileAt

/-- Something exists at a path: a file or a directory. -/
def Tree.exists (t : Tree) (p : String) : Bool :=
  match t.place p with
  | some pl => (t.fileAt pl).isSome || t.dirAt pl
  | none => false

/-- A directory exists at a path. -/
def Tree.isDir (t : Tree) (p : String) : Bool :=
  match t.place p with
  | some pl => (t.fileAt pl).isNone && t.dirAt pl
  | none => false

/-- Extensions of text files worth reading. -/
def textSuffixes : List String :=
  [".py", ".md", ".rst", ".txt", ".yml", ".yaml", ".json", ".toml", ".ini", ".sh", ".bash", ".zsh",
   ".fish", ".dockerignore", ".gitignore", ".env", ".js", ".jsx", ".ts", ".tsx", ".go", ".rs",
   ".java", ".cs", ".rb"]

def specialNames : List String := ["Dockerfile", "docker-compose.yml", "Makefile"]

/-- Directories never entered. -/
def skippedDirs : List String :=
  [".git", "node_modules", ".venv", "venv", "__pycache__", ".pytest_cache", ".mypy_cache",
   ".cache", "dist", "build", "outputs", "tmp", ".cursor", ".windsurf", ".idea", ".vscode",
   "photo-id"]

/-- A file of this name is worth reading: a special name, a text extension, or a readme in
any case. -/
def worthScanning (name : String) : Bool :=
  specialNames.contains name || textSuffixes.contains (suffix name) ||
    Text.startsWith (Text.lower name) "readme"

/-- A walk reaches the file at one relative path before the file at another: a file of a
directory comes before everything below its subdirectories, and entries of one directory come
in the directory's hash order. -/
def walkBefore : List String → List String → Bool
  | [x], [y] => Digest.hashedBefore x y
  | [_], _ :: _ :: _ => true
  | _ :: _ :: _, [_] => false
  | x :: xs, y :: ys => if x == y then walkBefore xs ys else Digest.hashedBefore x y
  | [], _ => true
  | _ :: _, [] => false

/-- The files below a place, each with its parts below the place. -/
def Tree.below (t : Tree) (pl : List String) : List (List String × String) :=
  t.files.filterMap fun f =>
    let ps := parts f.1
    if pl.isPrefixOf ps && pl.length < ps.length then some (ps.drop pl.length, f.2) else none

/-- Files in walk order, each with its path under the directory as given and its text as read. -/
def walked (dir : String) (fs : List (List String × String)) : List (String × String) :=
  (fs.mergeSort fun a b => walkBefore a.1 b.1).map fun (rel, text) =>
    (under dir ("/".intercalate rel), String.ofList (readLines text.toList))

/-- The files below a directory worth reading, outside skipped directories, in walk order:
each with its path under the directory as given and its text as read. -/
def Tree.scan (t : Tree) (dir : String) : List (String × String) :=
  match t.place dir with
  | none => []
  | some pl =>
    walked dir ((t.below pl).filter fun (rel, _) =>
      !(rel.dropLast.any skippedDirs.contains) && worthScanning ((rel.getLast?).getD ""))

/-- The paths of the files a scan of a directory reads, in path order. -/
def Tree.scannedPaths (t : Tree) (dir : String) : List String :=
  ((t.scan dir).map (·.1)).mergeSort fun a b => decide (a ≤ b)

/-- Every file below a directory, skipped directories included, in walk order: each with its
path under the directory as given and its text as read. -/
def Tree.allBelow (t : Tree) (dir : String) : List (String × String) :=
  match t.place dir with
  | none => []
  | some pl => walked dir (t.below pl)

end Taskflow.Repo
