import JobShell.Child.Status
import JobShell.Descriptor.Table
import JobShell.Signal.Disposition
import JobShell.Signal.Set
import JobShell.System.Arguments
import JobShell.System.Pid
import JobShell.System.RawWrite

/-!
# JobShell.System.Host — what the shell needs from the system it runs on

The shell opens files, changes its directory, creates processes and waits for what happens next.
`Host` lists these operations over a state of the system that the shell does not look into, so that
everything said about the shell holds for every file system and every set of programs.

* `Attributes` is the state that a process hands on to its children.
* `Fate` is all that a new child does before other programs take over.
* `Event` is what the shell can notice while it waits.
-/

namespace JobShell

/-- The state of a process that its children begin with. A `Place` is where the process stands in
the file system, and so what its relative paths mean. -/
structure Attributes (File Place : Type) where
  descriptors : Descriptors File
  /-- The signals that are held back. -/
  mask : SignalSet := .empty
  dispositions : Dispositions
  place : Place

/-- The state of a process when it has become another program: descriptors that close on exec are
gone and so are its signal handlers. -/
def Attributes.afterExec {File Place : Type} (attributes : Attributes File Place) :
    Attributes File Place :=
  { attributes with
    descriptors := attributes.descriptors.afterExec
    dispositions := attributes.dispositions.afterExec }

/-- What becomes of a new child. -/
inductive Fate (File Place : Type) where
  /-- It writes a message to the file behind its standard output, if there is one, and exits with
  code 1. -/
  | fails (message : String) (output : Option File)
  /-- It becomes the program that its first argument names. -/
  | runs (arguments : List Bytes) (attributes : Attributes File Place)

/-- What the shell can notice while it waits. -/
inductive Event where
  /-- A child ended. -/
  | ended (pid : Pid) (status : WaitStatus)
  /-- A signal was handled that interrupts waiting. -/
  | alarm
deriving DecidableEq, Repr

/-- The operations of the system below the shell, over its state. -/
structure Host (World File Place : Type) where
  /-- Opens a file for reading. -/
  openInput : Place → Bytes → World → Except Errno File × World
  /-- Opens a file for writing; it is created if it is missing and emptied if it is not. -/
  openOutput : Place → Bytes → World → Except Errno File × World
  /-- Where a process stands after it has changed its directory. -/
  enter : World → Place → Bytes → Except Errno Place
  /-- Whether a process of that state can become the program that its first argument names. -/
  exec : World → Attributes File Place → List Bytes → Except Errno Unit
  /-- Creates a process with a given fate. -/
  spawn : Fate File Place → World → Except Errno Pid × World
  /-- Reads at most so many bytes from a file; nothing is read at its end. -/
  read : File → Nat → World → Except Errno Bytes × World
  /-- The results of the calls that write to a file, as far as they are not complete. -/
  writeResults : World → File → List WriteResult
  /-- Adds the bytes that a file has taken. -/
  write : File → Bytes → World → World
  /-- Lets time pass until something happens that the shell can notice. -/
  next : World → Event × World

namespace Host

variable {World File Place : Type}

/-- The results of the calls that write to what may be a file. -/
def resultsOf (host : Host World File Place) (world : World) : Option File → List WriteResult
  | some file => host.writeResults world file
  | none => Sink.closed.results

/-- Writes a buffer to what may be a file and answers the number left behind. -/
def deliverTo (host : Host World File Place) (errno : Errno) (file : Option File) (bytes : Bytes)
    (world : World) : Errno × World :=
  let delivery := deliver errno (host.resultsOf world file) bytes
  (delivery.errno, file.elim world fun file => host.write file delivery.delivered world)

end Host

end JobShell
