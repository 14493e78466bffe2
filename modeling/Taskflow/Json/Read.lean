import Taskflow.Json.Value
/-!
Reading JSON text.
-/

namespace Taskflow.Json

/-- What the reader found wrong. -/
inductive ReadError where
  | expectingValue
  | expectingName
  | expectingColon
  | expectingComma
  | unterminatedString
  | controlCharacter
  | badEscape
  | badUnicodeEscape
  | extraData
  | byteOrderMark
  deriving DecidableEq, Repr

/-- The words a failure starts with. -/
def ReadError.text : ReadError → String
  | .expectingValue => "Expecting value"
  | .expectingName => "Expecting property name enclosed in double quotes"
  | .expectingColon => "Expecting ':' delimiter"
  | .expectingComma => "Expecting ',' delimiter"
  | .unterminatedString => "Unterminated string starting at"
  | .controlCharacter => "Invalid control character at"
  | .badEscape => "Invalid \\escape"
  | .badUnicodeEscape => "Invalid \\uXXXX escape"
  | .extraData => "Extra data"
  | .byteOrderMark => "Unexpected UTF-8 BOM (decode using utf-8-sig)"

/-- A failure and the character offset where it was found. -/
structure ReadFailure where
  error : ReadError
  pos : Nat
  deriving DecidableEq, Repr

/-- The message of a failure in a document: what, then line, column and offset. -/
def ReadFailure.message (f : ReadFailure) (doc : String) : String :=
  let before := doc.toList.take f.pos
  let line := before.count '\n' + 1
  let col := (before.reverse.takeWhile (· ≠ '\n')).length + 1
  f.error.text ++ s!": line {line} column {col} (char {f.pos})"

def isJsonBlank (c : Char) : Bool := c = ' ' ∨ c = '\t' ∨ c = '\n' ∨ c = '\r'

/-- What remains to read, and the offset of its first character. -/
structure Cursor where
  rest : List Char
  pos : Nat

/-- Skips blanks. -/
def Cursor.skip (c : Cursor) : Cursor :=
  let blanks := c.rest.takeWhile isJsonBlank
  ⟨c.rest.drop blanks.length, c.pos + blanks.length⟩

def Cursor.advance (c : Cursor) (n : Nat) : Cursor := ⟨c.rest.drop n, c.pos + n⟩

/-- Value of four hexadecimal digits, if they are four such digits. -/
def hex4? (cs : List Char) : Option Nat :=
  if cs.length = 4 ∧ cs.all (fun c => c.isDigit || ('a' ≤ c ∧ c ≤ 'f') || ('A' ≤ c ∧ c ≤ 'F'))
  then some (cs.foldl (fun n c =>
    n * 16 + (if c.isDigit then c.toNat - 48 else if c ≤ 'F' then c.toNat - 55 else c.toNat - 87)) 0)
  else none

def replacementChar : Char := Char.ofNat 0xFFFD

/-- Reads the body of a text after its opening quote at `start`. -/
def readText (start : Nat) : List Char → Nat → List Char → Except ReadFailure (String × Cursor)
  | [], _, _ => .error ⟨.unterminatedString, start⟩
  | '"' :: cs, pos, acc => .ok (String.ofList acc.reverse, ⟨cs, pos + 1⟩)
  | '\\' :: cs, pos, acc =>
    match cs with
    | [] => .error ⟨.unterminatedString, start⟩
    | e :: es =>
      let simple : Option Char := match e with
        | '"' => some '"' | '\\' => some '\\' | '/' => some '/' | 'b' => some '\x08'
        | 'f' => some '\x0c' | 'n' => some '\n' | 'r' => some '\r' | 't' => some '\t'
        | _ => none
      match simple with
      | some d => readText start es (pos + 2) (d :: acc)
      | none =>
        if e = 'u' then
          match hex4? (es.take 4) with
          | none => .error ⟨.badUnicodeEscape, pos + 1⟩
          | some hi =>
            let after := es.drop 4
            if 0xD800 ≤ hi ∧ hi < 0xDC00 then
              match hA : es.drop 4 with
              | '\\' :: 'u' :: more =>
                match hex4? (more.take 4) with
                | some lo =>
                  if 0xDC00 ≤ lo ∧ lo < 0xE000 then
                    let cp := 0x10000 + (hi - 0xD800) * 0x400 + (lo - 0xDC00)
                    readText start (more.drop 4) (pos + 12) (Char.ofNat cp :: acc)
                  else readText start after (pos + 6) (replacementChar :: acc)
                | none => readText start after (pos + 6) (replacementChar :: acc)
              | _ => readText start after (pos + 6) (replacementChar :: acc)
            else if 0xDC00 ≤ hi ∧ hi < 0xE000 then readText start after (pos + 6) (replacementChar :: acc)
            else readText start after (pos + 6) (Char.ofNat hi :: acc)
        else .error ⟨.badEscape, pos⟩
  | c :: cs, pos, acc =>
    if c.toNat < 0x20 then .error ⟨.controlCharacter, pos⟩ else readText start cs (pos + 1) (c :: acc)
termination_by cs => cs.length
decreasing_by
  all_goals simp_wf
  all_goals first
    | omega
    | (have h := congrArg List.length hA
       simp only [List.length_drop, List.length_cons] at h
       omega)

/-- Reads a number: an optional minus, an integer part without leading zeros, an optional
fraction and an optional exponent; stops before anything that does not continue it. -/
def readNumber (c : Cursor) : Option (Value × Cursor) :=
  let (neg, r) := match c.rest with
    | '-' :: r => (true, r)
    | r => (false, r)
  let intDigits := match r with
    | '0' :: _ => ['0']
    | r => r.takeWhile Char.isDigit
  if intDigits.isEmpty then none
  else
    let r := r.drop intDigits.length
    let frac := match r with
      | '.' :: d :: ds => if d.isDigit then d :: ds.takeWhile Char.isDigit else []
      | _ => []
    let r := if frac.isEmpty then r else r.drop (frac.length + 1)
    let (expText, expLen) : List Char × Nat := match r with
      | e :: rest =>
        if e = 'e' ∨ e = 'E' then
          let (sign, body) := match rest with
            | '+' :: b => (['+'], b)
            | '-' :: b => (['-'], b)
            | b => ([], b)
          let ds := body.takeWhile Char.isDigit
          if ds.isEmpty then ([], 0) else (sign ++ ds, 1 + sign.length + ds.length)
        else ([], 0)
      | [] => ([], 0)
    let len := (if neg then 1 else 0) + intDigits.length + (if frac.isEmpty then 0 else frac.length + 1) + expLen
    let digitsValue (ds : List Char) : Nat := ds.foldl (fun n d => n * 10 + (d.toNat - 48)) 0
    let value :=
      if frac.isEmpty ∧ expLen = 0 then
        let n := (digitsValue intDigits : Int)
        Value.int (if neg then -n else n)
      else
        let mant := digitsValue (intDigits ++ frac)
        let e : Int := match expText with
          | '-' :: ds => -(digitsValue ds : Int)
          | '+' :: ds => digitsValue ds
          | ds => digitsValue ds
        let e := e - frac.length
        let x := if e < 0 then Float.ofScientific mant true e.natAbs else Float.ofScientific mant false e.toNat
        Value.float (if neg then -x else x)
    some (value, c.advance len)

mutual

/-- Reads one value after blanks; `fuel` bounds the nesting and the number of items. -/
def readValue : Nat → Cursor → Except ReadFailure (Value × Cursor)
  | 0, c => .error ⟨.expectingValue, c.pos⟩
  | fuel + 1, c =>
    let c := c.skip
    match c.rest with
    | '"' :: cs => (readText c.pos cs (c.pos + 1) []).map fun (s, c') => (.str s, c')
    | '{' :: _ =>
      let c1 := (c.advance 1).skip
      match c1.rest with
      | '}' :: _ => .ok (.obj [], c1.advance 1)
      | '"' :: _ => readMembers fuel c1 []
      | _ => .error ⟨.expectingName, c1.pos⟩
    | '[' :: _ =>
      let c1 := (c.advance 1).skip
      match c1.rest with
      | ']' :: _ => .ok (.arr [], c1.advance 1)
      | _ => readItems fuel c1 []
    | 'n' :: 'u' :: 'l' :: 'l' :: _ => .ok (.null, c.advance 4)
    | 't' :: 'r' :: 'u' :: 'e' :: _ => .ok (.bool true, c.advance 4)
    | 'f' :: 'a' :: 'l' :: 's' :: 'e' :: _ => .ok (.bool false, c.advance 5)
    | 'N' :: 'a' :: 'N' :: _ => .ok (.float (0.0 / 0.0), c.advance 3)
    | 'I' :: 'n' :: 'f' :: 'i' :: 'n' :: 'i' :: 't' :: 'y' :: _ => .ok (.float (1.0 / 0.0), c.advance 8)
    | '-' :: 'I' :: 'n' :: 'f' :: 'i' :: 'n' :: 'i' :: 't' :: 'y' :: _ =>
      .ok (.float (-1.0 / 0.0), c.advance 9)
    | _ =>
      match readNumber c with
      | some r => .ok r
      | none => .error ⟨.expectingValue, c.pos⟩

/-- Reads the items of an array after its first blank-skipped position. -/
def readItems : Nat → Cursor → List Value → Except ReadFailure (Value × Cursor)
  | 0, c, _ => .error ⟨.expectingValue, c.pos⟩
  | fuel + 1, c, acc =>
    match readValue fuel c with
    | .error e => .error e
    | .ok (v, c') =>
      let c' := c'.skip
      match c'.rest with
      | ']' :: _ => .ok (.arr (v :: acc).reverse, c'.advance 1)
      | ',' :: _ => readItems fuel (c'.advance 1) (v :: acc)
      | _ => .error ⟨.expectingComma, c'.pos⟩

/-- Reads the members of an object, starting at the quote of a key. -/
def readMembers : Nat → Cursor → List (String × Value) → Except ReadFailure (Value × Cursor)
  | 0, c, _ => .error ⟨.expectingValue, c.pos⟩
  | fuel + 1, c, acc =>
    match c.rest with
    | '"' :: cs =>
      match readText c.pos cs (c.pos + 1) [] with
      | .error e => .error e
      | .ok (k, c1) =>
        let c1 := c1.skip
        match c1.rest with
        | ':' :: _ =>
          match readValue fuel (c1.advance 1) with
          | .error e => .error e
          | .ok (v, c2) =>
            let acc := Value.setMember acc k v
            let c2 := c2.skip
            match c2.rest with
            | '}' :: _ => .ok (.obj acc, c2.advance 1)
            | ',' :: _ =>
              let c3 := (c2.advance 1).skip
              match c3.rest with
              | '"' :: _ => readMembers fuel c3 acc
              | _ => .error ⟨.expectingName, c3.pos⟩
            | _ => .error ⟨.expectingComma, c2.pos⟩
        | _ => .error ⟨.expectingColon, c1.pos⟩
    | _ => .error ⟨.expectingName, c.pos⟩

end

/-- Reads a whole document: one value, with only blanks around it. -/
def read (doc : String) : Except ReadFailure Value :=
  let cs := doc.toList
  if cs.head? = some (Char.ofNat 0xFEFF) then .error ⟨.byteOrderMark, 0⟩
  else
    match readValue (cs.length + 2) ⟨cs, 0⟩ with
    | .error e => .error e
    | .ok (v, c) =>
      let c := c.skip
      if c.rest.isEmpty then .ok v else .error ⟨.extraData, c.pos⟩

end Taskflow.Json
