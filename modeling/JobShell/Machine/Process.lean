import JobShell.Script.Interpreter

/-!
# JobShell.Machine.Process — the processes of a machine

A process has what it inherited, the work that is left, and the time at which it goes on. A turn
does as much of the work as needs no time. A signal that nothing stops ends the process in the
middle of a turn.
-/

namespace JobShell.Machine

/-- How many instructions scripts may go through without a pause. -/
def workPerTurn : Nat := 2000

/-- The work that is left of a process. -/
inductive Work where
  /-- It exits with a code. -/
  | exits (code : Nat)
  /-- It writes a message and exits with code 1. -/
  | reports (message : Bytes) (output : Option Handle)
  /-- It begins with a program of the machine. -/
  | program (image : Program.Image)
  /-- It goes on with scripts, the innermost first. -/
  | scripts (frames : List Script.Frame)

/-- A process that has not ended. -/
structure Process where
  pid : Pid
  attributes : Attributes
  work : Work
  /-- When it goes on, in microseconds. -/
  wake : Nat

/-- Writes a message to what may be an open file. A process that reports something has not given up
the default action on a broken pipe. -/
def report (message : Bytes) : Option Handle → Task Unit
  | none => return ()
  | some handle => do
    let delivery := deliver .success ((← get).writeResults handle) message
    modify (·.write handle delivery.delivered)
    if delivery.errno = .brokenPipe then throw .brokenPipe

namespace Process

/-- The files that a process has open. -/
def openFiles (process : Process) : List Handle :=
  match process.work with
  | .scripts frames => frames.flatMap (·.attributes.descriptors.files)
  | _ => process.attributes.descriptors.files

/-- Begins a program. -/
def begin (process : Process) (elsewhere : List Handle) (image : Program.Image) :
    Task (Script.Turn Work) := do
  let pid := process.pid.number.toInt.toNat
  match ← Script.launch elsewhere process.attributes pid image with
  | .ended status => return .ended status
  | .sleeps duration => return .paused duration (.exits 0)
  | .script frame => return .paused 0 (.scripts [frame])

/-- Does as much of a process's work as needs no time, while other files are open elsewhere. -/
def work? (process : Process) (elsewhere : List Handle) : Task (Script.Turn Work) := do
  match process.work with
  | .exits code => return .ended (.ofExit (Int32.ofNat code))
  | .reports message output =>
    report message output
    return .ended (.ofExit 1)
  | .program image => process.begin elsewhere image
  | .scripts frames =>
    match ← Script.run elsewhere workPerTurn frames with
    | .ended status => return .ended status
    | .paused duration rest => return .paused duration (.scripts rest)

/-- One turn of a process. -/
def turn (process : Process) (elsewhere : List Handle) (storage : Storage) :
    Script.Turn Work × Storage :=
  match process.work? elsewhere storage with
  | (.ok turn, storage) => (turn, storage)
  | (.error signal, storage) => (.ended (.ofSignal signal), storage)

end Process

end JobShell.Machine
