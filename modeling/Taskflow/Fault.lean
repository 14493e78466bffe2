import Taskflow.Json.Read
import Taskflow.Json.Show
/-!
Why an operation stopped without an answer.
-/

namespace Taskflow

/-- How an exit ends a program: a number, or a message printed before leaving. -/
inductive ExitCode where
  | code (n : Int)
  | note (message : String)
  | none
  deriving Repr, DecidableEq

/-- Causes of failure. -/
inductive Fault where
  /-- A container lacks a member or item the operation needs; the key is shown as a value. -/
  | missingKey (key : Json.Value)
  /-- A position past the end of a sequence; `what` names the sequence, as `list` or `string`. -/
  | indexOutOfRange (what : String)
  /-- A value of the wrong kind was asked for a method it does not have. -/
  | noMethod (kind method : String)
  /-- A text does not have the form the operation reads. -/
  | badValue (message : String)
  /-- Values of kinds the operation cannot combine. -/
  | badKind (message : String)
  /-- A document is not JSON. -/
  | unreadable (failure : Json.ReadFailure) (doc : String)
  /-- A file the operation opens does not exist. -/
  | missingFile (message : String)
  /-- The program left through an exit. -/
  | exit (code : ExitCode)
  /-- The language model raised an error. -/
  | modelFailed (message : String)
  /-- The HTML reader refused a text; `reason` says where. -/
  | rejectedMarkup (reason : String)
  /-- A date moved outside the calendar's years. -/
  | overflow (message : String)

/-- The message of a fault. -/
def Fault.message : Fault → String
  | .missingKey k => k.shown
  | .indexOutOfRange what => s!"{what} index out of range"
  | .noMethod kind m => s!"'{kind}' object has no attribute '{m}'"
  | .badValue m => m
  | .badKind m => m
  | .unreadable f doc => f.message doc
  | .missingFile m => m
  | .exit (.code n) => toString n
  | .exit (.note m) => m
  | .exit .none => "None"
  | .modelFailed m => m
  | .rejectedMarkup r =>
    "The markup you provided was rejected by the parser. Trying a different parser or a " ++
      "different encoding may help.\n\nOriginal exception(s) from parser:\n AssertionError: " ++ r
  | .overflow m => m

end Taskflow
