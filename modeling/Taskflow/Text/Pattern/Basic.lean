/-!
Text patterns: a small language of regular expressions with capture groups, written as terms.
-/

namespace Taskflow.Text

/-- One way a character may be accepted by a class. -/
inductive CharTest where
  | single (c : Char)
  | range (lo hi : Char)
  | digit
  | word
  | blank
  | notDigit
  | notWord
  | notBlank
  deriving Repr, Inhabited

/-- Patterns over characters. -/
inductive Pattern where
  | empty
  | lit (c : Char)
  | oneOf (tests : List CharTest)
  | noneOf (tests : List CharTest)
  | dot
  | cat (p q : Pattern)
  | alt (p q : Pattern)
  | star (p : Pattern) (lazy : Bool)
  | group (n : Nat) (p : Pattern)
  | lineStart
  | lineEnd
  | wordEdge
  | behind (tests : List CharTest)
  | notAhead (tests : List CharTest)
  deriving Repr, Inhabited

namespace Pattern

/-- Size of a pattern; repetition and groups weigh two more than their body. -/
def size : Pattern → Nat
  | cat p q => p.size + q.size + 1
  | alt p q => p.size + q.size + 1
  | star p _ => p.size + 2
  | group _ p => p.size + 2
  | _ => 1

/-- Patterns one after another. -/
def seq : List Pattern → Pattern
  | [] => empty
  | [p] => p
  | p :: ps => cat p (seq ps)

/-- The first of the patterns that matches. -/
def alts : List Pattern → Pattern
  | [] => empty
  | [p] => p
  | p :: ps => alt p (alts ps)

/-- The characters of a word, in order. -/
def str (s : String) : Pattern := seq (s.toList.map lit)

/-- One or more, as many as possible. -/
def plus (p : Pattern) : Pattern := cat p (star p false)

/-- One or more, as few as possible. -/
def plusLazy (p : Pattern) : Pattern := cat p (star p true)

/-- Many, as many as possible. -/
def many (p : Pattern) : Pattern := star p false

/-- Many, as few as possible. -/
def manyLazy (p : Pattern) : Pattern := star p true

/-- Once or not at all, trying once first. -/
def opt (p : Pattern) : Pattern := alt p empty

/-- Exactly `n` times. -/
def times (p : Pattern) : Nat → Pattern
  | 0 => empty
  | n + 1 => cat p (times p n)

/-- At least `n` times, as many as possible. -/
def atLeast (p : Pattern) (n : Nat) : Pattern := cat (times p n) (star p false)

/-- Between `m` and `n` times, as many as possible. -/
def between (p : Pattern) (m n : Nat) : Pattern :=
  cat (times p m) (upTo (n - m))
where
  upTo : Nat → Pattern
    | 0 => empty
    | k + 1 => alt (cat p (upTo k)) empty

/-- A decimal digit. -/
def digit : Pattern := oneOf [.digit]

/-- A word character. -/
def wordChar : Pattern := oneOf [.word]

/-- A blank character. -/
def blank : Pattern := oneOf [.blank]

/-- Any character at all, line ends included. -/
def anyChar : Pattern := oneOf [.blank, .notBlank]

/-- A class of single characters. -/
def chars (s : String) : Pattern := oneOf (s.toList.map .single)

/-- Any character but the ones listed. -/
def notChars (s : String) : Pattern := noneOf (s.toList.map .single)

/-- A word written alone: a word edge on either side. -/
def wholeWord (s : String) : Pattern := seq [wordEdge, str s, wordEdge]

end Pattern

end Taskflow.Text
