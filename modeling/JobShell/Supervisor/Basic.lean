import JobShell.Child.Reaper
import JobShell.System.Host

/-!
# JobShell.Supervisor.Basic — the shell as a process with children

`Supervisor` is the state of the shell's process: what its children inherit, the children that have
not been collected, and the signal for ended children, which is pending until it is delivered.
Deliveries coalesce: however many children end while the signal is blocked, it is pending once.

Two things happen to the shell from outside. `terminate` records the end of a child, and `deliver`
runs the reaper when the signal is pending and not blocked.
-/

namespace JobShell

/-- The state of the shell's process. -/
structure Supervisor (World File Place : Type) where
  /-- What its children inherit. -/
  attributes : Attributes File Place
  /-- The children that have not been collected. -/
  children : Children := []
  /-- Whether the signal for ended children waits to be delivered. -/
  pending : Bool := false
  /-- The child that the reaper leaves to the supervisor of the foreground. -/
  foreground : Option Pid := none
  /-- Whether the reaper has been installed. -/
  reaperInstalled : Bool := false
  /-- The number that the last failed call left behind. -/
  errno : Errno := .success
  /-- The system below. -/
  world : World

namespace Supervisor

variable {World File Place : Type}

/-- The file behind standard output, if it is open. -/
def output (shell : Supervisor World File Place) : Option File :=
  shell.attributes.descriptors.file? Descriptors.standardOutput

/-- The process with another signal mask. -/
def withMask (shell : Supervisor World File Place) (mask : SignalSet) :
    Supervisor World File Place :=
  { shell with attributes := { shell.attributes with mask } }

/-- The process with other signal dispositions. -/
def withDispositions (shell : Supervisor World File Place) (dispositions : Dispositions) :
    Supervisor World File Place :=
  { shell with attributes := { shell.attributes with dispositions } }

/-- The process with other open files. -/
def withDescriptors (shell : Supervisor World File Place) (descriptors : Descriptors File) :
    Supervisor World File Place :=
  { shell with attributes := { shell.attributes with descriptors } }

/-- Whether the signal for ended children is blocked. -/
def isBlocked (shell : Supervisor World File Place) : Bool :=
  shell.attributes.mask.has .child

/-- What the reaper's calls will answer if nothing interrupts it: every notice meets the standard
output as it is now. -/
def reapConditions (host : Host World File Place) (shell : Supervisor World File Place) :
    ReapConditions where
  writes := List.replicate shell.children.length (host.resultsOf shell.world shell.output)

/-- One run of the reaper under given conditions. -/
def reap (host : Host World File Place) (conditions : ReapConditions)
    (shell : Supervisor World File Place) : Supervisor World File Place :=
  let reaping := Reaper.run shell.foreground conditions shell.errno shell.children
  { shell with
    children := reaping.children
    errno := reaping.errno
    world := shell.output.elim shell.world fun file =>
      host.write file reaping.delivered shell.world }

/-- The signal handler: one run of the reaper that the interrupted code does not notice. -/
def handle (host : Host World File Place) (conditions : ReapConditions)
    (shell : Supervisor World File Place) : Supervisor World File Place :=
  { shell.reap host conditions with errno := shell.errno }

/-- Delivers the signal for ended children if it is pending and not blocked. -/
def deliver (host : Host World File Place) (shell : Supervisor World File Place) :
    Supervisor World File Place :=
  if shell.pending && !shell.isBlocked then
    let taken := { shell with pending := false }
    match shell.attributes.dispositions.get .child with
    | .handle .reaper => taken.handle host (taken.reapConditions host)
    -- nobody listens, and the signal is gone
    | _ => taken
  else shell

/-- A child ends. If the signal for that is ignored, nobody collects the child and it is gone at
once; otherwise it keeps its place until it is collected. -/
def terminate (shell : Supervisor World File Place) (pid : Pid) (status : WaitStatus) :
    Supervisor World File Place :=
  match shell.attributes.dispositions.get .child with
  | .ignore => { shell with children := shell.children.filter (·.pid != pid) }
  | .default => { shell with children := shell.children.terminate pid status }
  | .handle _ => { shell with children := shell.children.terminate pid status, pending := true }

/-- Something happens that the shell can notice. -/
def notice (shell : Supervisor World File Place) : Event → Supervisor World File Place
  | .ended pid status => shell.terminate pid status
  | .alarm => shell

/-- Lets time pass until something has happened, and delivers the signal that may have caused. -/
def await (host : Host World File Place) (shell : Supervisor World File Place) :
    Supervisor World File Place :=
  let (event, world) := host.next shell.world
  ({ shell with world }.notice event).deliver host

/-- Lets time pass until there is nothing left to wait for: no child is left, or all have ended and
nobody collects them. At most `patience` things happen. -/
def settle (host : Host World File Place) :
    (patience : Nat) → Supervisor World File Place → Supervisor World File Place
  | 0, shell => shell
  | patience + 1, shell =>
    if shell.children.all Child.hasEnded then shell else settle host patience (shell.await host)

end Supervisor

end JobShell
