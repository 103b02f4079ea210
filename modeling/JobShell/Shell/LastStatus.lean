import JobShell.Child.Status

/-!
# JobShell.Shell.LastStatus — what the `status` command reports

The report is about the last external command. Reading it changes nothing.
-/

namespace JobShell

/-- How the last external command ended, and a message that is reported in its place. -/
structure LastStatus where
  status : Termination := .exited 0
  message : Option String := none
deriving DecidableEq, Repr

namespace LastStatus

/-- What is reported before any command has run, and after a background job was started. -/
def initial : LastStatus := {}

/-- The last command was a foreground command with this outcome. -/
def ofOutcome (outcome : Outcome) : LastStatus where
  status := outcome.status
  message := outcome.message

/-- The last command could not be run at all. -/
def ofFailure (message : String) : LastStatus where
  status := .exited 1
  message := some message

/-- The report. -/
def report (last : LastStatus) : String :=
  last.message.getD last.status.text

end LastStatus

end JobShell
