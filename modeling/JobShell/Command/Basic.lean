/-!
# JobShell.Command.Basic — what a command line asks for

A command has arguments, the program's name first, may take its input from a file, send its output
to one, and may run in the background. `Command.render` writes a command as a line; the reader in
`JobShell.Command.Reader` goes the other way.
-/

namespace JobShell

/-- The largest number of arguments after the program's name. -/
def maxArguments : Nat := 512

/-- Where a background job reads from unless its input is redirected. -/
def nullDevice : String := "/dev/null"

/-- What one command line asks for. -/
structure Command where
  /-- The program's name and its arguments. -/
  arguments : List String := []
  /-- The file that standard input is read from. -/
  input : Option String := none
  /-- The file that standard output goes to. -/
  output : Option String := none
  /-- Whether the shell goes on without waiting. -/
  background : Bool := false
deriving DecidableEq, Repr

/-- Whether the shell waits for a job. -/
inductive Mode where
  /-- The shell waits for it before it reads the next line. -/
  | foreground
  /-- The reaper collects it whenever it ends. -/
  | background
deriving DecidableEq, Repr

/-- The words with a meaning of their own on a command line. -/
inductive Marker where
  | input
  | output
  | background
deriving DecidableEq, Repr

namespace Marker

/-- How a marker is written. -/
def text : Marker → String
  | .input => "<"
  | .output => ">"
  | .background => "&"

/-- The marker that a word is. A marker inside a longer word has no meaning. -/
def ofWord? (word : String) : Option Marker :=
  if word = "<" then some .input
  else if word = ">" then some .output
  else if word = "&" then some .background
  else none

end Marker

namespace Command

/-- The program's name, empty for a command without arguments. -/
def program (command : Command) : String :=
  command.arguments.headD ""

/-- Whether there is nothing to run. -/
def isEmpty (command : Command) : Bool :=
  command.arguments.isEmpty

/-- A redirection as it follows the arguments on a line. -/
def renderRedirection (marker : Marker) : Option String → String
  | some path => " " ++ marker.text ++ " " ++ path
  | none => ""

/-- The command as a line: the arguments, the redirections, then the background marker. -/
def render (command : Command) : String :=
  " ".intercalate command.arguments
    ++ renderRedirection .input command.input
    ++ renderRedirection .output command.output
    ++ (if command.background then " " ++ Marker.background.text else "")

end Command

end JobShell
