import JobShell.Shell.Loop
import JobShell.Supervisor.Foreground

/-!
# JobShell.Supervisor.Services — the shell's process at the service of its lines

Here the lines of a shell meet its process: commands are launched and supervised, the working
directory is the process's own, and what is written goes to its descriptors. A write that fails is
not noticed.
-/

namespace JobShell

namespace Supervisor

variable {World File Place : Type}

/-- Writes a text to a descriptor as far as it is taken. -/
def put (host : Host World File Place) (number : Nat) (text : String)
    (shell : Supervisor World File Place) : Supervisor World File Place :=
  let (errno, world) :=
    host.deliverTo shell.errno (shell.attributes.descriptors.file? number) (Text.utf8 text)
      shell.world
  { shell with errno, world }

/-- The process in another directory. -/
def withPlace (shell : Supervisor World File Place) (place : Place) :
    Supervisor World File Place :=
  { shell with attributes := { shell.attributes with place } }

/-- Changes the working directory of the process. -/
def changeDirectory (host : Host World File Place) (path : Bytes)
    (shell : Supervisor World File Place) : Except Errno Unit × Supervisor World File Place :=
  match host.enter shell.world shell.attributes.place path with
  | .ok place => (.ok (), shell.withPlace place)
  | .error errno => (.error errno, shell)

/-- What the process does for the lines of a shell. -/
def services (host : Host World File Place) (patience : Nat) (home : Option Bytes) :
    Services (Supervisor World File Place) where
  launchBackground command shell := shell.launchBackground host command
  runForeground command shell := shell.runForeground host patience command
  home := home
  changeDirectory path shell := shell.changeDirectory host path
  say text shell := shell.put host Descriptors.standardOutput text
  complain text shell := shell.put host Descriptors.standardError text

/-- Makes the process a shell: interrupts are ignored and the reaper is installed, for good. -/
def prepare (shell : Supervisor World File Place) :
    Except ShellError (Supervisor World File Place) := do
  let signalFailure (error : RegistrationError) : ShellError := .signal error.failure
  let (_, guarded) ←
    (Registration.register shell.attributes.dispositions .interrupt .ignore).mapError signalFailure
  let (_, handled) ←
    (Registration.register guarded .child (.handle .reaper)).mapError signalFailure
  return { shell.withDispositions handled with reaperInstalled := true }

end Supervisor

end JobShell
