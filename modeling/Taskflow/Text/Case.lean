import Taskflow.Text.Property
/-!
Character classes and case mappings of Unicode text.
-/

namespace Taskflow.Text

/-- Blank characters: those that separate words and lines. -/
def isBlank (c : Char) : Bool :=
  if c.toNat < 128 then c = ' ' ∨ ('\t' ≤ c ∧ c ≤ '\r') ∨ ('\x1c' ≤ c ∧ c ≤ '\x1f')
  else blankSet.contains c.toNat

def isAlnum (c : Char) : Bool :=
  if c.toNat < 128 then c.isAlphanum else alnumSet.contains c.toNat

/-- Characters of a word: letters, characters with a numeric value, and the underscore. -/
def isWordChar (c : Char) : Bool := c = '_' ∨ isAlnum c

def isDecimal (c : Char) : Bool :=
  if c.toNat < 128 then c.isDigit else decimalSet.contains c.toNat

/-- The value of a decimal digit of any script: its distance from the zero of its block of ten. -/
def decimalValue (c : Char) : Nat :=
  if c.toNat < 128 then c.toNat - '0'.toNat
  else
    match lastAtMost decimalSet.starts c.toNat 0 decimalSet.starts.size none with
    | some i => (c.toNat - decimalSet.starts.getD i 0) % 10
    | none => 0

def isUpperChar (c : Char) : Bool :=
  if c.toNat < 128 then c.isUpper else upperSet.contains c.toNat

def isLowerChar (c : Char) : Bool :=
  if c.toNat < 128 then c.isLower else lowerSet.contains c.toNat

def lowerChar (c : Char) : List Char :=
  if c.toNat < 128 then [c.toLower] else (lowerRuns.image? c).getD [c]

def upperChar (c : Char) : List Char :=
  if c.toNat < 128 then [c.toUpper] else (upperRuns.image? c).getD [c]

/-- The title-case form of a character: its upper-case form unless the table says otherwise. -/
def titleChar (c : Char) : List Char :=
  if c.toNat < 128 then [c.toUpper]
  else match titleRuns.image? c with
    | some cs => cs
    | none => upperChar c

def isCased (c : Char) : Bool :=
  if c.toNat < 128 then c.isAlpha else casedSet.contains c.toNat

/-- A character that case rules look past when they look for the next cased one. -/
def isCaseIgnorable (c : Char) : Bool :=
  if c.toNat < 128 then c = '\'' ∨ c = '.' ∨ c = ':' ∨ c = '^' ∨ c = '`'
  else caseIgnorableSet.contains c.toNat

/-- A capital sigma here ends a word: looking past case-ignorable characters, a cased character
comes before it (`before` lists the characters before it, nearest first) and none after it. -/
def endsWord (before after : List Char) : Bool :=
  ((before.dropWhile isCaseIgnorable).head?.map isCased).getD false &&
    !(((after.dropWhile isCaseIgnorable).head?.map isCased).getD false)

/-- The lower-case forms of characters that follow `before` (nearest first); a capital sigma that
ends a word becomes the final sigma. -/
def lowerAfter (before : List Char) : List Char → List Char
  | [] => []
  | c :: cs =>
    (if c = 'Σ' ∧ endsWord before cs then ['ς'] else lowerChar c) ++ lowerAfter (c :: before) cs

def lower (s : String) : String := String.ofList (lowerAfter [] s.toList)

def upper (s : String) : String := String.ofList (s.toList.flatMap upperChar)

/-- Text with its first character in title case and the rest in lower case. -/
def capitalize (s : String) : String :=
  match s.toList with
  | [] => ""
  | c :: cs => String.ofList (titleChar c ++ lowerAfter [c] cs)

/-- Text with only its first character in upper case; the rest is left as it is. -/
def upperFirst (s : String) : String :=
  match s.toList with
  | [] => ""
  | c :: cs => String.ofList (upperChar c ++ cs)

end Taskflow.Text
