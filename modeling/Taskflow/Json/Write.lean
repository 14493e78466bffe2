import Taskflow.Json.Value
import Taskflow.Decimal.Layout
/-!
Writing JSON text.
-/

namespace Taskflow.Json

/-- The layout of written JSON. -/
structure WriteStyle where
  /-- Spaces per level, with one item a line; `none` writes one line. -/
  indent : Option Nat
  /-- Characters beyond ASCII are written as escapes. -/
  asciiOnly : Bool

def WriteStyle.line : WriteStyle := ⟨none, true⟩

/-- Two spaces per level, characters as they are: the layout of the task files. -/
def WriteStyle.file : WriteStyle := ⟨some 2, false⟩

/-- Two spaces per level, ASCII only: the layout of the state files. -/
def WriteStyle.fileAscii : WriteStyle := ⟨some 2, true⟩

/-- Four lower-case hexadecimal digits. -/
def hex4 (n : Nat) : String :=
  let ds := Nat.toDigits 16 n
  String.ofList (List.replicate (4 - ds.length) '0' ++ ds)

def unitEscape (n : Nat) : String := "\\u" ++ hex4 n

/-- One character inside a written text. -/
def escapeChar (asciiOnly : Bool) (c : Char) : String :=
  match c with
  | '"' => "\\\""
  | '\\' => "\\\\"
  | '\n' => "\\n"
  | '\r' => "\\r"
  | '\t' => "\\t"
  | '\x08' => "\\b"
  | '\x0c' => "\\f"
  | _ =>
    if c.toNat < 0x20 then unitEscape c.toNat
    else if asciiOnly ∧ c.toNat > 0x7E then
      if c.toNat < 0x10000 then unitEscape c.toNat
      else
        let v := c.toNat - 0x10000
        unitEscape (0xD800 + v / 0x400) ++ unitEscape (0xDC00 + v % 0x400)
    else String.singleton c

def quoteText (asciiOnly : Bool) (s : String) : String :=
  "\"" ++ String.join (s.toList.map (escapeChar asciiOnly)) ++ "\""

def floatText (x : Float) : String := Decimal.jsonFloat.render x

namespace Value

/-- The value as JSON text at nesting `level`. -/
def writeAt (st : WriteStyle) (level : Nat) : Value → String
  | null => "null"
  | bool b => if b then "true" else "false"
  | int n => toString n
  | float x => floatText x
  | str s => quoteText st.asciiOnly s
  | arr [] => "[]"
  | obj [] => "\x7b\x7d"
  | arr xs =>
    match st.indent with
    | none => "[" ++ ", ".intercalate (xs.attach.map fun ⟨x, _⟩ => writeAt st level x) ++ "]"
    | some k =>
      let inner := "\n" ++ String.ofList (List.replicate (k * (level + 1)) ' ')
      let outer := "\n" ++ String.ofList (List.replicate (k * level) ' ')
      "[" ++ inner ++ ("," ++ inner).intercalate (xs.attach.map fun ⟨x, _⟩ => writeAt st (level + 1) x) ++
        outer ++ "]"
  | obj kvs =>
    let member (lvl : Nat) (kv : { kv // kv ∈ kvs }) : String :=
      quoteText st.asciiOnly kv.1.1 ++ ": " ++ writeAt st lvl kv.1.2
    match st.indent with
    | none => "\x7b" ++ ", ".intercalate (kvs.attach.map (member level)) ++ "\x7d"
    | some k =>
      let inner := "\n" ++ String.ofList (List.replicate (k * (level + 1)) ' ')
      let outer := "\n" ++ String.ofList (List.replicate (k * level) ' ')
      "\x7b" ++ inner ++ ("," ++ inner).intercalate (kvs.attach.map (member (level + 1))) ++ outer ++ "\x7d"
termination_by v => sizeOf v
decreasing_by
  all_goals simp_wf
  all_goals first
    | (have h := List.sizeOf_lt_of_mem ‹_ ∈ xs›; omega)
    | (obtain ⟨⟨a, b⟩, hm⟩ := kv
       have h := List.sizeOf_lt_of_mem hm
       simp_all
       omega)

def write (st : WriteStyle) (v : Value) : String := writeAt st 0 v

end Value

end Taskflow.Json
