import JobShell.System.Failure
import JobShell.System.Pid
import JobShell.Text.Lossy
import JobShell.Text.Quoted

/-!
# JobShell.Shell.Error — what can go wrong with a command
-/

namespace JobShell

/-- Why a command or a built-in failed. -/
inductive ShellError where
  /-- There was nothing to run. -/
  | emptyCommand
  /-- An argument cannot be handed to a program, because it holds a NUL byte. -/
  | invalidArgument (argument : String)
  /-- No process could be created. -/
  | fork (failure : Failure)
  /-- Signal handling could not be set up. -/
  | signal (failure : Failure)
  /-- Waiting for a child failed. -/
  | wait (pid : Pid) (failure : Failure)
  /-- Reading, or an operation on the named file, failed. -/
  | io (path : Option Bytes) (failure : Failure)
deriving DecidableEq, Repr

/-- What went wrong, in words. -/
def ShellError.message : ShellError → String
  | .emptyCommand => "no command given"
  | .invalidArgument argument => "invalid argument: " ++ Text.quote argument
  | .fork failure => "cannot create process: " ++ failure.message
  | .signal failure => "cannot set up signal handling: " ++ failure.message
  | .wait pid failure => "cannot wait for process " ++ pid.text ++ ": " ++ failure.message
  | .io (some path) failure => Text.lossy path ++ ": " ++ failure.message
  | .io none failure => "IO error: " ++ failure.message

end JobShell
