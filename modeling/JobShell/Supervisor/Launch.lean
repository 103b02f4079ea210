import JobShell.Redirect.Binding
import JobShell.Shell.Error
import JobShell.Supervisor.Basic

/-!
# JobShell.Supervisor.Launch — starting a command as a child

All that can be checked is checked before anything is done, so a rejected command leaves no trace.
Then the shell opens the files of the redirections, creates the child and closes its own copies,
whether or not there is a child.

The child is given a `Fate` by what it does before other programs take over: it lets the signal for
ended children through, takes back the default actions that the shell gave up, binds its streams
and becomes the program. Each of these steps can only end in a message and an exit, so nothing that
goes wrong there reaches the shell as an error.
-/

namespace JobShell

/-- The message of a child whose program cannot be run. -/
def programFailure (program : String) : String :=
  program ++ ": no such file or directory\n"

namespace Attributes

variable {File Place : Type}

/-- The signals of a child, for a given mode. Only a foreground job can be interrupted from the
terminal; a background job keeps ignoring what the shell ignores. -/
def childDispositions (mode : Mode) (dispositions : Dispositions) : Dispositions :=
  let piped := dispositions.set .brokenPipe .default
  match mode with
  | .foreground => piped.set .interrupt .default
  | .background => piped

/-- The state of a new child before it binds its streams. -/
def ofChild (attributes : Attributes File Place) (mode : Mode) : Attributes File Place :=
  { attributes with
    mask := MaskChange.unblock.apply (.bit .child) attributes.mask
    dispositions := childDispositions mode attributes.dispositions }

end Attributes

variable {World File Place : Type}

/-- The end of a child that reports a message where its standard output leads. -/
def Attributes.failing (child : Attributes File Place) (message : String) : Fate File Place :=
  .fails message (child.descriptors.file? Descriptors.standardOutput)

/-- Binds the streams of a child, or answers how the child ends. -/
def Redirections.installOrFail (redirections : Redirections) (child : Attributes File Place) :
    Except (Fate File Place) (Attributes File Place) :=
  match redirections.install child.descriptors with
  | (.error message, table) => .error ({ child with descriptors := table }.failing message)
  | (.ok (), table) => .ok { child with descriptors := table }

/-- What becomes of a child that is created now, with given arguments and redirections. -/
def Host.fate (host : Host World File Place) (world : World) (program : String)
    (vector : ArgumentVector) (redirections : Redirections) (child : Attributes File Place) :
    Fate File Place :=
  match redirections.installOrFail child with
  | .error fate => fate
  | .ok bound =>
    match host.exec world bound vector.read with
    | .error _ => bound.failing (programFailure program)
    | .ok () => .runs vector.read bound.afterExec

namespace Supervisor

/-- Starts a command. Nothing waits for the child. -/
def launch (host : Host World File Place) (command : Command) (mode : Mode)
    (shell : Supervisor World File Place) :
    Except ShellError Pid × Supervisor World File Place :=
  if command.isEmpty then (.error .emptyCommand, shell)
  else
    match ArgumentVector.of command.arguments with
    | .error argument => (.error (.invalidArgument argument), shell)
    | .ok vector =>
      let attributes := shell.attributes
      let (redirections, table, world) :=
        host.redirect command mode attributes.place attributes.descriptors shell.world
      let child := { attributes with descriptors := table }.ofChild mode
      let fate := host.fate world command.program vector redirections child
      -- the child has copies of its own, and without a child nobody needs the files
      let closed := shell.withDescriptors (redirections.release table)
      match host.spawn fate world with
      | (.error errno, world) => (.error (.fork (.os errno)), { closed with world })
      | (.ok pid, world) =>
        (.ok pid, { closed with world, children := shell.children ++ [{ pid }] })

/-- Starts a command that the reaper will report. -/
def launchBackground (host : Host World File Place) (command : Command)
    (shell : Supervisor World File Place) :
    Except ShellError Pid × Supervisor World File Place :=
  let (result, shell) := shell.launch host command .background
  (result, shell.deliver host)

end Supervisor

end JobShell
