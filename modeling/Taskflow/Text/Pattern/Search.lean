import Taskflow.Text.Case
import Taskflow.Text.Pattern.Basic
/-!
Matching patterns by backtracking over an explicit stack of frames.
-/

namespace Taskflow.Text

/-- How patterns read text: letters alike in both cases, `^` and `$` at every line. -/
structure MatchFlags where
  ignoreCase : Bool := false
  multiline : Bool := false

def MatchFlags.caseless : MatchFlags := ⟨true, false⟩

def MatchFlags.lines : MatchFlags := ⟨false, true⟩

def MatchFlags.caselessLines : MatchFlags := ⟨true, true⟩

/-- The simple lower-case form of one character. -/
def simpleLower (c : Char) : Char :=
  if c.toNat < 128 then c.toLower
  else if c = 'İ' then 'i'
  else match CaseRuns.image?.runImage lowerRuns c with
    | some [d] => d
    | _ => c

/-- The simple upper-case form of one character. -/
def simpleUpper (c : Char) : Char :=
  if c.toNat < 128 then c.toUpper
  else match CaseRuns.image?.runImage upperRuns c with
    | some [d] => d
    | _ => c

namespace CharTest

/-- The test accepts the character as it is. -/
def accepts : CharTest → Char → Bool
  | single c, d => c = d
  | range lo hi, d => lo ≤ d ∧ d ≤ hi
  | digit, d => isDecimal d
  | word, d => isWordChar d
  | blank, d => isBlank d
  | notDigit, d => !isDecimal d
  | notWord, d => !isWordChar d
  | notBlank, d => !isBlank d

end CharTest

/-- Lower-case letters that also stand for each other when case is ignored. -/
def caselessKin : List (List Nat) :=
  [[0x69, 0x131], [0x73, 0x17F], [0xB5, 0x3BC], [0x345, 0x3B9, 0x1FBE], [0x390, 0x1FD3],
   [0x3B0, 0x1FE3], [0x3B2, 0x3D0], [0x3B5, 0x3F5], [0x3B8, 0x3D1], [0x3BA, 0x3F0],
   [0x3C0, 0x3D6], [0x3C1, 0x3F1], [0x3C2, 0x3C3], [0x3C6, 0x3D5], [0x1E61, 0x1E9B],
   [0xFB05, 0xFB06]]

def caselessAlike (a b : Char) : Bool :=
  a = b || caselessKin.any (fun g => g.contains a.toNat && g.contains b.toNat)

/-- The lower-case letters alike to `x` when case is ignored, `x` first. -/
def kinOf (x : Char) : List Char :=
  x :: (((caselessKin.find? (·.contains x.toNat)).getD []).filter (· != x.toNat)).map Char.ofNat

/-- Pairs of a character and its lower-case form, where the character is not the upper-case
form of that lower-case form. -/
def lowerSources : List (Nat × Nat) :=
  [(0x130, 0x69), (0x212A, 0x6B), (0x1E9E, 0xDF), (0x212B, 0xE5), (0x1C5, 0x1C6), (0x1C8, 0x1C9),
   (0x1CB, 0x1CC), (0x1F2, 0x1F3), (0x3F4, 0x3B8), (0x2126, 0x3C9), (0x1F88, 0x1F80),
   (0x1F89, 0x1F81), (0x1F8A, 0x1F82), (0x1F8B, 0x1F83), (0x1F8C, 0x1F84), (0x1F8D, 0x1F85),
   (0x1F8E, 0x1F86), (0x1F8F, 0x1F87), (0x1F98, 0x1F90), (0x1F99, 0x1F91), (0x1F9A, 0x1F92),
   (0x1F9B, 0x1F93), (0x1F9C, 0x1F94), (0x1F9D, 0x1F95), (0x1F9E, 0x1F96), (0x1F9F, 0x1F97),
   (0x1FA8, 0x1FA0), (0x1FA9, 0x1FA1), (0x1FAA, 0x1FA2), (0x1FAB, 0x1FA3), (0x1FAC, 0x1FA4),
   (0x1FAD, 0x1FA5), (0x1FAE, 0x1FA6), (0x1FAF, 0x1FA7), (0x1FBC, 0x1FB3), (0x1FCC, 0x1FC3),
   (0x1FFC, 0x1FF3)]

/-- The characters whose lower-case form is `y`. -/
def lowerPreimage (y : Char) : List Char :=
  (y :: simpleUpper y :: (lowerSources.filter (·.2 == y.toNat)).map (Char.ofNat ·.1)).filter
    (simpleLower · == y)

/-- The test accepts the character when case is ignored: a member of the class has the
character's lower-case form or a letter alike to it, and a class such as the digits is asked
about the lower-case form. -/
def CharTest.acceptsCaseless (t : CharTest) (d : Char) : Bool :=
  let x := simpleLower d
  match t with
  | .single c => caselessAlike (simpleLower c) x
  | .range lo hi => (kinOf x).any fun y => (lowerPreimage y).any fun i => lo ≤ i && i ≤ hi
  | t => t.accepts x

def classAccepts (fl : MatchFlags) (ts : List CharTest) (d : Char) : Bool :=
  if fl.ignoreCase then ts.any (·.acceptsCaseless d) else ts.any (·.accepts d)

def litAccepts (fl : MatchFlags) (c d : Char) : Bool :=
  c = d || (fl.ignoreCase && caselessAlike (simpleLower c) (simpleLower d))

/-- What remains to be done: match a pattern, close a group, or decide on another round. -/
inductive Frame where
  | run (p : Pattern)
  | close (n start : Nat)
  | loop (p : Pattern) (lazy : Bool) (startLen : Nat)

/-- Weight of a frame when `n` characters remain. -/
def Frame.weight (n : Nat) : Frame → Nat
  | run p => p.size
  | close _ _ => 1
  | loop p _ s => if n < s then p.size + 3 else 1

/-- Weight of a stack when `n` characters remain. -/
def stackWeight (n : Nat) : List Frame → Nat
  | [] => 0
  | f :: k => f.weight n + stackWeight n k

/-- A place in the text during a match: position, character before it, what remains, and the
spans of the groups closed so far (latest first). -/
structure Cursor where
  pos : Nat
  prev : Option Char
  rest : List Char
  spans : List (Nat × Nat × Nat)

/-- `$` holds here: at the end, before a final line end, or before any line end in multiline
mode. -/
def atLineEnd (fl : MatchFlags) (rest : List Char) : Bool :=
  match rest with
  | [] => true
  | ['\n'] => true
  | '\n' :: _ => fl.multiline
  | _ => false

/-- `^` holds here: at the start, or after a line end in multiline mode. -/
def atLineStart (fl : MatchFlags) (pos : Nat) (prev : Option Char) : Bool :=
  pos = 0 || (fl.multiline && prev = some '\n')

/-- A word character stands on exactly one side. -/
def atWordEdge (prev : Option Char) (rest : List Char) : Bool :=
  let before := match prev with | some c => isWordChar c | none => false
  let after := match rest with | c :: _ => isWordChar c | [] => false
  before != after

/-- Runs the frames from a place; the first way through that `accept` allows wins. -/
def runFrames (fl : MatchFlags) (accept : Cursor → Bool) :
    List Frame → Nat → Option Char → List Char → List (Nat × Nat × Nat) → Option Cursor
  | [], pos, prev, rest, sp =>
    let c : Cursor := ⟨pos, prev, rest, sp⟩
    if accept c then some c else none
  | .run .empty :: k, pos, prev, rest, sp => runFrames fl accept k pos prev rest sp
  | .run (.lit c) :: k, pos, _, d :: ds, sp =>
    if litAccepts fl c d then runFrames fl accept k (pos + 1) (some d) ds sp else none
  | .run (.oneOf ts) :: k, pos, _, d :: ds, sp =>
    if classAccepts fl ts d then runFrames fl accept k (pos + 1) (some d) ds sp else none
  | .run (.noneOf ts) :: k, pos, _, d :: ds, sp =>
    if !classAccepts fl ts d then runFrames fl accept k (pos + 1) (some d) ds sp else none
  | .run .dot :: k, pos, _, d :: ds, sp =>
    if d ≠ '\n' then runFrames fl accept k (pos + 1) (some d) ds sp else none
  | .run (.lit _) :: _, _, _, [], _ => none
  | .run (.oneOf _) :: _, _, _, [], _ => none
  | .run (.noneOf _) :: _, _, _, [], _ => none
  | .run .dot :: _, _, _, [], _ => none
  | .run (.cat p q) :: k, pos, prev, rest, sp =>
    runFrames fl accept (.run p :: .run q :: k) pos prev rest sp
  | .run (.alt p q) :: k, pos, prev, rest, sp =>
    match runFrames fl accept (.run p :: k) pos prev rest sp with
    | some c => some c
    | none => runFrames fl accept (.run q :: k) pos prev rest sp
  | .run (.star p lz) :: k, pos, prev, rest, sp =>
    if lz then
      match runFrames fl accept k pos prev rest sp with
      | some c => some c
      | none => runFrames fl accept (.run p :: .loop p lz rest.length :: k) pos prev rest sp
    else
      match runFrames fl accept (.run p :: .loop p lz rest.length :: k) pos prev rest sp with
      | some c => some c
      | none => runFrames fl accept k pos prev rest sp
  | .run (.group n p) :: k, pos, prev, rest, sp =>
    runFrames fl accept (.run p :: .close n pos :: k) pos prev rest sp
  | .run .lineStart :: k, pos, prev, rest, sp =>
    if atLineStart fl pos prev then runFrames fl accept k pos prev rest sp else none
  | .run .lineEnd :: k, pos, prev, rest, sp =>
    if atLineEnd fl rest then runFrames fl accept k pos prev rest sp else none
  | .run .wordEdge :: k, pos, prev, rest, sp =>
    if atWordEdge prev rest then runFrames fl accept k pos prev rest sp else none
  | .run (.behind ts) :: k, pos, prev, rest, sp =>
    if (prev.map (classAccepts fl ts)).getD false then runFrames fl accept k pos prev rest sp
    else none
  | .run (.notAhead ts) :: k, pos, prev, rest, sp =>
    if (rest.head?.map (classAccepts fl ts)).getD false then none
    else runFrames fl accept k pos prev rest sp
  | .close n start :: k, pos, prev, rest, sp =>
    runFrames fl accept k pos prev rest ((n, start, pos) :: sp)
  | .loop p lz s :: k, pos, prev, rest, sp =>
    if rest.length < s then runFrames fl accept (.run (.star p lz) :: k) pos prev rest sp
    else runFrames fl accept k pos prev rest sp
termination_by k _ _ rest => (rest.length, stackWeight rest.length k)
decreasing_by
  all_goals simp_wf
  all_goals first
    | (apply Prod.Lex.left; simp; done)
    | (apply Prod.Lex.right; simp [stackWeight, Frame.weight, Pattern.size, *] <;> omega)

/-- A match: where it starts and stops, the spans of its groups, and the place after it. -/
structure Found where
  start : Nat
  stop : Nat
  spans : List (Nat × Nat × Nat)
  prev : Option Char
  rest : List Char

/-- The text matched as a whole, cut from the searched characters. -/
def Found.whole (m : Found) (s : List Char) : String :=
  String.ofList ((s.drop m.start).take (m.stop - m.start))

/-- The text the `n`-th group matched last, if it took part. -/
def Found.group (m : Found) (s : List Char) (n : Nat) : Option String :=
  match m.spans.find? (fun e => e.1 = n) with
  | some (_, a, b) => some (String.ofList ((s.drop a).take (b - a)))
  | none => none

/-- The `n`-th group's text, or the empty text when it took no part. -/
def Found.groupD (m : Found) (s : List Char) (n : Nat) : String := (m.group s n).getD ""

namespace Pattern

/-- The first match that starts here; with `nonEmpty`, an empty match does not count. -/
def matchAt (fl : MatchFlags) (p : Pattern) (nonEmpty : Bool) (pos : Nat) (prev : Option Char)
    (rest : List Char) : Option Found :=
  (runFrames fl (fun c => !(nonEmpty && c.pos == pos)) [.run p] pos prev rest []).map
    fun c => ⟨pos, c.pos, c.spans, c.prev, c.rest⟩

/-- The leftmost match at or after a place; with `nonEmpty`, not an empty one right here. -/
def searchFrom (fl : MatchFlags) (p : Pattern) (nonEmpty : Bool) :
    Nat → Option Char → List Char → Option Found
  | pos, prev, [] => matchAt fl p nonEmpty pos prev []
  | pos, prev, c :: cs =>
    match matchAt fl p nonEmpty pos prev (c :: cs) with
    | some m => some m
    | none => searchFrom fl p false (pos + 1) (some c) cs

/-- The leftmost match in a text. -/
def search (fl : MatchFlags) (p : Pattern) (s : List Char) : Option Found :=
  searchFrom fl p false 0 none s

/-- A match that starts at the beginning of the text. -/
def matchStart (fl : MatchFlags) (p : Pattern) (s : List Char) : Option Found :=
  matchAt fl p false 0 none s

/-- The pattern occurs somewhere in the text. -/
def test (fl : MatchFlags) (p : Pattern) (s : String) : Bool := (search fl p s.toList).isSome

/-- Matches left to right without overlap; `fuel` bounds the number of attempts. -/
def findAllFrom (fl : MatchFlags) (p : Pattern) :
    Nat → Bool → Nat → Option Char → List Char → List Found
  | 0, _, _, _, _ => []
  | fuel + 1, nonEmpty, pos, prev, rest =>
    match searchFrom fl p nonEmpty pos prev rest with
    | none => []
    | some m => m :: findAllFrom fl p fuel (m.start == m.stop) m.stop m.prev m.rest

/-- All matches left to right without overlap; after an empty match the next one may not be
empty at the same place. -/
def findAll (fl : MatchFlags) (p : Pattern) (s : List Char) : List Found :=
  findAllFrom fl p (2 * s.length + 2) false 0 none s

/-- The text with every match replaced by what `f` makes of it. -/
def replaceBy (fl : MatchFlags) (p : Pattern) (f : Found → String) (s : String) : String :=
  let cs := s.toList
  let ms := findAll fl p cs
  let (out, last) := ms.foldl (fun (acc : String × Nat) m =>
    (acc.1 ++ String.ofList ((cs.drop acc.2).take (m.start - acc.2)) ++ f m, m.stop)) ("", 0)
  out ++ String.ofList (cs.drop last)

/-- The text with every match replaced by a fixed text. -/
def replace (fl : MatchFlags) (p : Pattern) (new s : String) : String :=
  replaceBy fl p (fun _ => new) s

/-- The pieces of a text between matches. -/
def split (fl : MatchFlags) (p : Pattern) (s : String) : List String :=
  let cs := s.toList
  let ms := findAll fl p cs
  let (pieces, last) := ms.foldl (fun (acc : List String × Nat) m =>
    (String.ofList ((cs.drop acc.2).take (m.start - acc.2)) :: acc.1, m.stop)) ([], 0)
  (String.ofList (cs.drop last) :: pieces).reverse

end Pattern

end Taskflow.Text
