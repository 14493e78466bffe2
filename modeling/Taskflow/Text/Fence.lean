import Taskflow.Text.Pattern.Search
import Taskflow.Text.Basic
/-!
Fenced code blocks of Markdown: three backticks, an optional info word, a line break, the
body, a line break and three backticks.
-/

namespace Taskflow.Text

/-- A fenced block whose info word is made of the characters `info` accepts; group 1 is the
body. -/
def fenceWith (info : List CharTest) : Pattern :=
  .seq [.str "```", .opt (.plus (.oneOf info)), .lit '\n', .group 1 (.manyLazy .anyChar),
    .str "\n```"]

/-- The characters of an info word: ASCII letters and digits and `_+-`. -/
def asciiInfo : List CharTest :=
  [.range 'a' 'z', .range 'A' 'Z', .range '0' '9', .single '_', .single '+', .single '-']

/-- The characters of a wide info word: word characters of any script and `+-`. -/
def wideInfo : List CharTest := [.word, .single '+', .single '-']

/-- A fenced block whose info word has ASCII letters and digits and `_+-`; group 1 is the
body. -/
def fencePattern : Pattern := fenceWith asciiInfo

/-- A fenced block whose info word has word characters of any script and `+-`; group 1 is
the body. -/
def wideFencePattern : Pattern := fenceWith wideInfo

/-- The bodies of the blocks a fence pattern finds, in order. -/
def fenceBodies (fence : Pattern) (text : String) : List String :=
  let cs := text.toList
  (Pattern.findAll .lines fence cs).map fun m => m.groupD cs 1

/-- The bodies of the fenced blocks of a text, stripped, in order. -/
def fencedBlocks (text : String) : List String := (fenceBodies fencePattern text).map strip

end Taskflow.Text
