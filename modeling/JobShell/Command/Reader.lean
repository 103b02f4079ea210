import JobShell.Command.Basic
import JobShell.Text.Blank

/-!
# JobShell.Command.Reader — reading a command line

`Command.read` goes once over the words of a line. Words are arguments until the first marker, and
beyond the largest number of arguments they are dropped; the word after the first `<` or `>` names
a file unless it is a marker itself; `&` anywhere puts the command into the background.
-/

namespace JobShell

/-- What is known of one redirection while the words of a line go by. -/
inductive Redirection where
  /-- Its marker has not come yet. -/
  | unseen
  /-- Its marker was the word before. -/
  | expected
  /-- The word after its first marker has gone by; later markers change nothing. -/
  | settled (path : Option String)
deriving DecidableEq, Repr

namespace Redirection

/-- A word that is no marker has come. -/
def onWord (word : String) : Redirection → Redirection
  | .unseen => .unseen
  | .expected => .settled (some word)
  | .settled path => .settled path

/-- A marker has come; `isOwn` tells whether it is the marker of this redirection. -/
def onMarker (isOwn : Bool) : Redirection → Redirection
  | .unseen => if isOwn then .expected else .unseen
  | .expected => .settled none
  | .settled path => .settled path

/-- The file, once all words have gone by. -/
def path : Redirection → Option String
  | .settled path => path
  | _ => none

end Redirection

/-- What is known of a command while the words of its line go by. -/
structure Reading where
  /-- The arguments so far. -/
  arguments : List String := []
  /-- Whether further words may still be arguments: no marker has come. -/
  isOpen : Bool := true
  input : Redirection := .unseen
  output : Redirection := .unseen
  background : Bool := false
deriving DecidableEq, Repr

namespace Reading

/-- Takes one more word. -/
def next (reading : Reading) (word : String) : Reading :=
  match Marker.ofWord? word with
  | some marker =>
    { arguments := reading.arguments
      isOpen := false
      input := reading.input.onMarker (marker = .input)
      output := reading.output.onMarker (marker = .output)
      background := reading.background || marker = .background }
  | none =>
    { reading with
      arguments :=
        if reading.isOpen && reading.arguments.length ≤ maxArguments then
          reading.arguments ++ [word]
        else reading.arguments
      input := reading.input.onWord word
      output := reading.output.onWord word }

/-- The command, once all words have gone by. -/
def command (reading : Reading) : Command where
  arguments := reading.arguments
  input := reading.input.path
  output := reading.output.path
  background := reading.background

end Reading

namespace Command

/-- The command that a sequence of words asks for. -/
def ofWords (words : List String) : Command :=
  (words.foldl Reading.next {}).command

/-- The command that a line asks for. -/
def read (line : String) : Command :=
  ofWords (Text.words line)

example : read "sort < in > out &" =
    { arguments := ["sort"], input := some "in", output := some "out", background := true } := by
  decide +kernel

end Command

end JobShell
