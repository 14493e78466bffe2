import Taskflow.Text.Numeral
import Taskflow.Text.Basic
/-!
Command-line arguments: a grammar of options and positional arguments, and the reader that
takes an argument list apart by it.
-/

namespace Taskflow.Command

/-- How an option's text is read. -/
inductive Reading where
  | text
  | integer
  | decimal
  deriving DecidableEq, Repr

/-- The value an argument gives. -/
inductive Given where
  | absent
  | flag (on : Bool)
  | text (s : String)
  | integer (n : Int)
  | decimal (x : Float)
  deriving Inhabited

/-- An option. -/
structure Opt where
  /-- The option as written, dashes included. -/
  name : String
  /-- The name its value is stored under. -/
  dest : String
  /-- The option takes a value; otherwise it is a flag. -/
  takesValue : Bool := true
  reading : Reading := .text
  /-- The allowed values; empty allows any. -/
  choices : List String := []
  default : Given := .absent
  required : Bool := false

/-- A command line's grammar: its options and its positional arguments, in order. -/
structure Grammar where
  options : List Opt := []
  positionals : List String := []

/-- What reading a command line gives. -/
inductive Outcome where
  /-- Each destination's value. -/
  | parsed (values : List (String × Given))
  /-- Help was asked for. -/
  | help
  /-- The arguments do not fit the grammar. -/
  | failed

/-- What one argument is. -/
inductive Piece where
  | positional
  | option (o : Opt) (explicit : Option String)
  | help (explicit : Option String)
  | unknown
  | ambiguous

/-- The text looks like a negative number: `-` and digits, or `-`, digits, a point and digits. -/
def looksNegative (s : String) : Bool :=
  match s.toList with
  | '-' :: rest =>
    let after := rest.dropWhile Text.isDecimal
    (!rest.isEmpty && after.isEmpty) ||
      (match after with
       | '.' :: fr => !fr.isEmpty && fr.all Text.isDecimal
       | _ => false)
  | _ => false

def Grammar.names (g : Grammar) : List (String × Piece) :=
  ("-h", .help none) :: ("--help", .help none) :: g.options.map fun o => (o.name, .option o none)

/-- Gives a piece its explicit value. -/
def Piece.withValue (p : Piece) (v : Option String) : Piece :=
  match p with
  | .option o _ => .option o v
  | .help _ => .help v
  | p => p

/-- The pieces a shortened or joined option could be. -/
def Grammar.candidates (g : Grammar) (arg : String) : List Piece :=
  match arg.toList with
  | '-' :: '-' :: _ =>
    let (pre, v) := match Text.splitOn arg "=" with
      | [a] => (a, none)
      | a :: rest => (a, some ("=".intercalate rest))
      | [] => (arg, none)
    (g.names.filter fun n => Text.startsWith n.1 pre).map fun n => n.2.withValue v
  | '-' :: c :: rest =>
    let short := String.ofList ['-', c]
    (g.names.filterMap fun n =>
      if n.1 == short then some (n.2.withValue (some (String.ofList rest)))
      else if Text.startsWith n.1 arg then some n.2 else none)
  | _ => []

/-- What an argument is, in a grammar. -/
def Grammar.classify (g : Grammar) (arg : String) : Piece :=
  if arg.isEmpty || arg.front != '-' then .positional
  else match g.names.find? (·.1 == arg) with
    | some n => n.2
    | none =>
      if arg.length == 1 then .positional
      else
        let joined := match Text.splitOn arg "=" with
          | a :: rest@(_ :: _) => (g.names.find? (·.1 == a)).map fun n => n.2.withValue (some ("=".intercalate rest))
          | _ => none
        match joined with
        | some p => p
        | none =>
          match g.candidates arg with
          | [p] => p
          | _ :: _ :: _ => .ambiguous
          | [] =>
            if looksNegative arg then .positional
            else if Text.has arg " " then .positional
            else .unknown

/-- Reads an option's value as its reading says, and checks it against the choices. -/
def Opt.read (o : Opt) (s : String) : Option Given :=
  let v : Option Given := match o.reading with
    | .text => some (.text s)
    | .integer => (Text.readInt s).toOption.map .integer
    | .decimal => (Text.readFloat s).toOption.map .decimal
  if o.choices.isEmpty || o.choices.contains s then v else none

/-- What has been read so far: values by destination, positional arguments, and whether an
unknown option was met. -/
structure Reading.State where
  values : List (String × Given) := []
  positionals : List String := []
  stray : Bool := false

/-- Reads the arguments one by one; `fuel` bounds the steps. -/
def Grammar.walk (g : Grammar) : Nat → Bool → List String → Reading.State → Option (Option Reading.State)
  | 0, _, _, st => some (some st)
  | _, _, [], st => some (some st)
  | fuel + 1, true, a :: rest, st => g.walk fuel true rest { st with positionals := st.positionals ++ [a] }
  | fuel + 1, false, a :: rest, st =>
    if a == "--" then g.walk fuel true rest st
    else match g.classify a with
      | .positional => g.walk fuel false rest { st with positionals := st.positionals ++ [a] }
      | .help none => some none
      | .help (some v) => if v.all (· == 'h') then some none else none
      | .unknown => g.walk fuel false rest { st with stray := true }
      | .ambiguous => none
      | .option o explicit =>
        if !o.takesValue then
          match explicit with
          | some _ => none
          | none => g.walk fuel false rest { st with values := (o.dest, .flag true) :: st.values }
        else
          match explicit with
          | some v => do
            let x ← o.read v
            g.walk fuel false rest { st with values := (o.dest, x) :: st.values }
          | none =>
            match rest with
            | v :: rest' =>
              match g.classify v with
              | .positional => do
                let x ← o.read v
                g.walk fuel false rest' { st with values := (o.dest, x) :: st.values }
              | _ => none
            | [] => none

/-- Reads an argument list by a grammar. -/
def Grammar.parse (g : Grammar) (args : List String) : Outcome :=
  match g.walk (args.length + 1) false args {} with
  | none => .failed
  | some none => .help
  | some (some st) =>
    if st.stray || st.positionals.length != g.positionals.length then .failed
    else if g.options.any (fun o => o.required && (st.values.find? (·.1 == o.dest)).isNone) then .failed
    else
      let opts := g.options.map fun o =>
        (o.dest, ((st.values.find? (·.1 == o.dest)).map (·.2)).getD
          (if o.takesValue then o.default else .flag false))
      .parsed (g.positionals.zip (st.positionals.map .text) ++ opts)

/-- Reads an argument list that starts with one of several commands, each with its grammar:
the command's name is stored under `cmd`, and the arguments after it are read by the
command's grammar; without a command, nothing else may be given. -/
def parseCommands (cmds : List (String × Grammar)) (args : List String) : Outcome :=
  go args false
where
  /-- Looks for the command, noting whether an unknown option came before it. -/
  go : List String → Bool → Outcome
    | [], stray => if stray then .failed else .parsed [("cmd", .absent)]
    | a :: rest, stray =>
      match ({} : Grammar).classify a with
      | .positional =>
        match cmds.find? (·.1 == a) with
        | some (_, g) => match g.parse rest with
          | .parsed vs => if stray then .failed else .parsed (("cmd", .text a) :: vs)
          | o => o
        | none => .failed
      | .help none => .help
      | .help (some v) => if v.all (· == 'h') then .help else .failed
      | .unknown => go rest true
      | _ => .failed

/-- The text stored under a destination. -/
def textOf (vs : List (String × Given)) (dest : String) : Option String :=
  match ((vs.find? (·.1 == dest)).map (·.2) : Option Given) with
  | some (.text s) => some s
  | _ => none

/-- The flag stored under a destination. -/
def flagOf (vs : List (String × Given)) (dest : String) : Bool :=
  match ((vs.find? (·.1 == dest)).map (·.2) : Option Given) with
  | some (.flag b) => b
  | _ => false

end Taskflow.Command
