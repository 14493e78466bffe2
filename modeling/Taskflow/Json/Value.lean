/-!
JSON values as the task files and requests carry them.
-/

namespace Taskflow.Json

/-- A JSON value. -/
inductive Value where
  | null
  | bool (b : Bool)
  | int (n : Int)
  | float (x : Float)
  | str (s : String)
  | arr (xs : List Value)
  | obj (kvs : List (String × Value))
  deriving Inhabited

namespace Value

/-- The member of an object under a key. -/
def get? (v : Value) (k : String) : Option Value :=
  match v with
  | obj kvs => (kvs.find? (·.1 == k)).map (·.2)
  | _ => none

def getD (v : Value) (k : String) (d : Value) : Value := (v.get? k).getD d

/-- Members of an object with `k` set to `x`: replaced in place, or added at the end. -/
def setMember (kvs : List (String × Value)) (k : String) (x : Value) : List (String × Value) :=
  if kvs.any (·.1 == k) then kvs.map (fun e => if e.1 == k then (k, x) else e) else kvs ++ [(k, x)]

/-- The object with `k` set to `x`; other values are left alone. -/
def set (v : Value) (k : String) (x : Value) : Value :=
  match v with
  | obj kvs => obj (setMember kvs k x)
  | _ => v

/-- The object without the member `k`. -/
def erase (v : Value) (k : String) : Value :=
  match v with
  | obj kvs => obj (kvs.filter (·.1 != k))
  | _ => v

/-- Truth of a value. -/
def truthy : Value → Bool
  | null => false
  | bool b => b
  | int n => n != 0
  | float x => x != 0
  | str s => !s.isEmpty
  | arr xs => !xs.isEmpty
  | obj kvs => !kvs.isEmpty

/-- The kind of a value, as error messages name it. -/
def kindName : Value → String
  | null => "NoneType"
  | bool _ => "bool"
  | int _ => "int"
  | float _ => "float"
  | str _ => "str"
  | arr _ => "list"
  | obj _ => "dict"

/-- The text, when the value is a text. -/
def asStr? : Value → Option String
  | str s => some s
  | _ => none

/-- The items, when the value is an array. -/
def asArr? : Value → Option (List Value)
  | arr xs => some xs
  | _ => none

/-- The value is an object. -/
def isObj : Value → Bool
  | obj _ => true
  | _ => false

/-- The value is the text `s`. -/
def isStr (v : Value) (s : String) : Bool :=
  match v with
  | str t => t == s
  | _ => false

end Value

end Taskflow.Json
