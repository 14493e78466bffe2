import Taskflow.Json.Value
import Taskflow.Decimal.Layout
import Taskflow.Text.Property
/-!
Values shown as text inside messages and step texts.
-/

namespace Taskflow.Json

/-- Lower-case hexadecimal digits of `n`, padded to `w`. -/
def hexPad (w n : Nat) : String :=
  let ds := Nat.toDigits 16 n
  String.ofList (List.replicate (w - ds.length) '0' ++ ds)

/-- One character inside a quoted text. -/
def showChar (quote : Char) (c : Char) : String :=
  if c = quote ∨ c = '\\' then "\\" ++ String.singleton c
  else if c = '\t' then "\\t"
  else if c = '\n' then "\\n"
  else if c = '\r' then "\\r"
  else if c.toNat < 0x20 ∨ c.toNat = 0x7F then "\\x" ++ hexPad 2 c.toNat
  else if c.toNat < 0x80 then String.singleton c
  else if Text.hiddenSet.contains c.toNat then
    if c.toNat < 0x100 then "\\x" ++ hexPad 2 c.toNat
    else if c.toNat < 0x10000 then "\\u" ++ hexPad 4 c.toNat
    else "\\U" ++ hexPad 8 c.toNat
  else String.singleton c

/-- A text quoted as it shows inside a container. -/
def quoteShown (s : String) : String :=
  let quote := if s.contains '\'' ∧ !s.contains '"' then '"' else '\''
  String.singleton quote ++ String.join (s.toList.map (showChar quote)) ++ String.singleton quote

namespace Value

/-- The value as it shows inside a container: texts quoted. -/
def shown : Value → String
  | null => "None"
  | bool b => if b then "True" else "False"
  | int n => toString n
  | float x => Decimal.shownFloat.render x
  | str s => quoteShown s
  | arr xs => "[" ++ ", ".intercalate (xs.attach.map fun ⟨x, _⟩ => shown x) ++ "]"
  | obj kvs => "\x7b" ++ ", ".intercalate (kvs.attach.map fun ⟨kv, _⟩ => quoteShown kv.1 ++ ": " ++ shown kv.2) ++ "\x7d"
termination_by v => sizeOf v
decreasing_by
  all_goals simp_wf
  all_goals first
    | (have h := List.sizeOf_lt_of_mem ‹_ ∈ xs›; omega)
    | (rename_i h
       obtain ⟨a, b⟩ := kv
       have h2 := List.sizeOf_lt_of_mem h
       simp_all
       omega)

/-- The value as text: a text as it is, anything else as it shows inside a container. -/
def display : Value → String
  | str s => s
  | v => v.shown

end Value

end Taskflow.Json
