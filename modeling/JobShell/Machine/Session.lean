import JobShell.Machine.Run
import JobShell.Supervisor.Terminal

/-!
# JobShell.Machine.Session — a shell on a machine

A session puts a shell's process onto a machine: a working directory and open standard streams. What
is written to a stream is collected from the node behind it.
-/

namespace JobShell

/-- How many things may happen while the shell waits for one command, and how many lines it may
read. -/
def sessionPatience : Nat := 1000000

namespace FileTree

/-- Puts a node at an absolute path if that can be done. -/
def provide (tree : FileTree) (path : String) (node : Inode → Node) : FileTree :=
  (tree.install root (Text.utf8 path) node).toOption.getD tree

/-- The tree of a machine with all its programs. -/
def standard : FileTree :=
  let tree := initial
    |>.provide "/bin" (fun _ => .link (Text.utf8 "usr/bin"))
    |>.provide "/dev/null" (fun _ => .device .null)
    |>.provide "/dev/full" (fun _ => .device .full)
    |>.provide "/tmp" (fun parent => .directory 0o1777 parent [])
  Program.names.foldl
    (fun tree name => tree.provide ("/usr/bin/" ++ name) fun _ => .program name) tree

end FileTree

namespace Machine

/-- A machine with all its programs, on which nothing runs. -/
def standard : Machine where
  storage := { tree := .standard }

/-- Changes the file tree. -/
def onTree (change : FileTree → FileTree) (machine : Machine) : Machine :=
  { machine with storage := { machine.storage with tree := change machine.storage.tree } }

/-- Adds a node without a name. -/
def addNode (node : Node) (machine : Machine) : Inode × Machine :=
  let (inode, tree) := machine.storage.tree.add node
  (inode, machine.onTree fun _ => tree)

/-- Takes the bytes out of a file. -/
def collect (inode : Inode) (machine : Machine) : Bytes × Machine :=
  (machine.storage.tree.content inode, machine.onTree (·.setContent inode []))

/-- Starts the timer anew, or stops it. -/
def setTimer (period : Option Nat) (machine : Machine) : Machine :=
  { machine with timer := period.map fun period => ⟨period, machine.clock + period⟩ }

/-- Lets all processes come to their ends, in at most so many events, while nobody waits for
them. -/
def finish : (events : Nat) → Machine → Machine
  | 0, machine => machine
  | events + 1, machine =>
    if machine.processes.isEmpty then machine
    else finish events (machine.next turnsPerEvent).2

end Machine

/-- A shell's process on a machine. -/
abbrev Session := Supervisor Machine Handle Place

namespace Session

/-- A process in a directory, with files open under given numbers. All it has done about signals is
to ignore broken pipes. -/
def start (machine : Machine) (place : Place) (streams : List (Nat × OpenFile)) : Session :=
  let (descriptors, storage) := streams.foldl
    (fun (descriptors, storage) (number, file) =>
      let (handle, storage) := Machine.Storage.addFile storage file
      (descriptors.set number (some ⟨handle, false⟩), storage))
    ((.empty : Descriptors Handle), machine.storage)
  { attributes := { descriptors, dispositions := .atStart, place }
    world := { machine with storage } }

/-- The process once it is a shell. -/
def prepared (session : Session) : Session :=
  session.prepare.toOption.getD session

/-- The services of a session for the lines of a shell. -/
def services (home : Option Bytes) : Services Session :=
  Supervisor.services Machine.host sessionPatience home

/-- The path of the working directory, unless it has been removed. -/
def workingDirectory? (session : Session) : Option Bytes :=
  session.world.storage.tree.pathOf? session.attributes.place.directory

/-- Changes the machine below. -/
def onMachine (change : Machine → Machine) (session : Session) : Session :=
  { session with world := change session.world }

/-- Takes what has been written to a file. -/
def collect (inode : Inode) (session : Session) : Bytes × Session :=
  let (bytes, machine) := session.world.collect inode
  (bytes, { session with world := machine })

/-- The files behind the standard streams of a shell that was started anew. -/
structure Streams where
  output : Inode
  error : Inode
deriving DecidableEq, Repr

/-- A session with an input of given bytes, and whose output can be collected. -/
def withInput (machine : Machine) (place : Place) (input : Bytes) : Streams × Session :=
  let (source, machine) := machine.addNode (.file 0o600 input)
  let (output, machine) := machine.addNode (.file 0o600 [])
  let (error, machine) := machine.addNode (.file 0o600 [])
  let sink (inode : Inode) : OpenFile := { inode, writable := true, appends := true }
  (⟨output, error⟩,
    start machine place
      [(Descriptors.standardInput, { inode := source, readable := true }),
        (Descriptors.standardOutput, sink output), (Descriptors.standardError, sink error)])

/-- Waits until no child is left that may still end. -/
def settle (session : Session) : Session :=
  Supervisor.settle Machine.host sessionPatience session

end Session

end JobShell
