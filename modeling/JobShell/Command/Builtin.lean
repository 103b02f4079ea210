import JobShell.Command.Reader

/-!
# JobShell.Command.Builtin — lines that the shell answers itself

Blank lines and comments are ignored. A line whose first word is `exit`, `cd` or `status` is
answered by the shell; the test looks at the first argument only, so whatever else stands on the
line, redirections and `&` included, plays no part.
-/

namespace JobShell

/-- Whether a line is ignored: it is blank, or a comment from its first character on. -/
def isIgnored (line : String) : Bool :=
  Text.isBlankText line || line.toList.head? == some '#'

/-- The commands that the shell answers itself. -/
inductive Builtin where
  /-- Leave the shell. -/
  | exit
  /-- Change the working directory to the target, or to the home directory. -/
  | changeDirectory (target : Option String)
  /-- Show how the last external command ended. -/
  | status
deriving DecidableEq, Repr

/-- The built-in that a command names. -/
def Builtin.ofCommand? (command : Command) : Option Builtin :=
  if command.program = "exit" then some .exit
  else if command.program = "cd" then some (.changeDirectory command.arguments[1]?)
  else if command.program = "status" then some .status
  else none

end JobShell
